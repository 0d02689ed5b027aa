import Irrd.Mirroring.Scheduler

/-!
# Changes of the scope filter

The main process, its settings, the processes that it starts and the database, in any order of
their steps. An update reads the settings of its start.
-/

namespace Irrd.Mirroring

open Irrd.Base Irrd.Conf Irrd.Scopefilter Irrd.Storage Irrd.Utils

/-- The main process and the database. The settings at the start of the last scope filter update
are kept beside them; nothing reads these. -/
structure SchedulerRun where
  scheduler : MirrorScheduler
  settings : SchedulerSettings
  database : DatabaseHandler
  lastUpdate : Option SchedulerSettings

/-- A run of the scheduler, its clean-up of processes, a change of the settings, or the end of a
process. -/
inductive SchedulerEvent
  | run (now : ℚ)
  | updateProcessState
  | configure (settings : SchedulerSettings)
  | processEnds (name : String)

/-- The process of scope filter updates. -/
def scopefilterProcess : String := MirrorScheduler.processName .scopeFilterUpdateRunner none

section Run

variable (load : List String → List (Nat ⊕ String) → ScopeFilterSettings)

/-- What a scope filter update does to the database. Where it fails, that is nothing. -/
def scopefilterUpdate (c : SchedulerSettings) (h : DatabaseHandler) : DatabaseHandler :=
  (scopeFilterUpdateRun c.settings (load c.scopefilterPrefixes c.scopefilterAsns) h).getD h

/-- One step. Of what processes write, this has the scope filter updates. -/
def schedulerStep (t : SchedulerRun) : SchedulerEvent → Option SchedulerRun
  | .run now =>
    let scheduler := t.scheduler.run t.settings now
    let started :=
      if t.scheduler.processes scopefilterProcess |>.isNone then
        (scheduler.processes scopefilterProcess).map ScheduledTaskProcess.settings
      else none
    some { t with scheduler, lastUpdate := started <|> t.lastUpdate }
  | .updateProcessState => some { t with scheduler := t.scheduler.updateProcessState }
  | .configure settings => some { t with settings }
  | .processEnds name =>
    match t.scheduler.processes name with
    | some process =>
      if process.isAlive then
        some { t with
          scheduler := { t.scheduler with
            processes := Function.update t.scheduler.processes name
              (some { process with isAlive := false }) }
          database :=
            if name = scopefilterProcess then
              scopefilterUpdate load process.settings t.database
            else t.database }
      else none
    | none => none

end Run

/-- A scope filter update can start: the last one has been cleaned up, and started before this
second. -/
def MirrorScheduler.CanUpdateScopefilter (m : MirrorScheduler) (now : ℚ) : Prop :=
  m.processes scopefilterProcess = none ∧ (m.lastStartedTime scopefilterProcess : ℚ) < now

/-- A run that notices a change can start an update. -/
def NoticedCanStart (t : SchedulerRun) : SchedulerEvent → Prop
  | .run now => t.settings.readonlyStandby = false →
      (t.scheduler.checkScopefilterChange t.settings).2 = true →
      t.scheduler.CanUpdateScopefilter now
  | _ => True

/-- The scope filter stays the same. -/
def KeepsScopefilter (t : SchedulerRun) : SchedulerEvent → Prop
  | .configure c => c.settings.scopefilter = t.settings.settings.scopefilter ∧
      c.scopefilterConfiguration = t.settings.scopefilterConfiguration
  | _ => True

section Frame

/-- Nothing about scope filter updates has changed. -/
structure SameScopefilter (m m' : MirrorScheduler) : Prop where
  process : m'.processes scopefilterProcess = m.processes scopefilterProcess
  lastStartedTime : m'.lastStartedTime scopefilterProcess = m.lastStartedTime scopefilterProcess
  prefixes : m'.previousScopefilterPrefixes = m.previousScopefilterPrefixes
  asns : m'.previousScopefilterAsns = m.previousScopefilterAsns
  excluded : m'.previousScopefilterExcluded = m.previousScopefilterExcluded

variable {m m' m'' : MirrorScheduler} {c : SchedulerSettings} {now : ℚ}

theorem SameScopefilter.refl (m : MirrorScheduler) : SameScopefilter m m :=
  ⟨rfl, rfl, rfl, rfl, rfl⟩

theorem SameScopefilter.trans (h : SameScopefilter m m') (h' : SameScopefilter m' m'') :
    SameScopefilter m m'' :=
  ⟨h'.process.trans h.process, h'.lastStartedTime.trans h.lastStartedTime,
    h'.prefixes.trans h.prefixes, h'.asns.trans h.asns, h'.excluded.trans h.excluded⟩

/-- No other process has this name. -/
theorem processName_ne {runner : RunnerClass} (hrunner : runner ≠ .scopeFilterUpdateRunner)
    (source : Option String) :
    MirrorScheduler.processName runner source ≠ scopefilterProcess := by
  intro hname
  have htake : (MirrorScheduler.processName runner source).toList.take 5 =
      runner.name.toList.take 5 := by
    unfold MirrorScheduler.processName
    cases source with
    | none => rfl
    | some source =>
      dsimp only
      split
      · rfl
      · cases runner <;> rw [String.toList_append, String.toList_append] <;> rfl
  rw [hname] at htake
  cases runner <;> first | exact hrunner rfl | exact absurd htake (by decide)

/-- Starting another runner. -/
theorem sameScopefilter_runIfRelevant (m : MirrorScheduler) (c : SchedulerSettings) (now : ℚ)
    (source : Option String) {runner : RunnerClass} (hrunner : runner ≠ .scopeFilterUpdateRunner)
    (timer : Int) (allowMultiple : Bool) :
    SameScopefilter m (m.runIfRelevant c now source runner timer allowMultiple).1 := by
  have hne := (processName_ne hrunner source).symm
  unfold MirrorScheduler.runIfRelevant
  dsimp only
  split
  · exact .refl m
  · exact ⟨Function.update_of_ne hne _ _, Function.update_of_ne hne _ _, rfl, rfl, rfl⟩

theorem sameScopefilter_runSource (m : MirrorScheduler) (c : SchedulerSettings) (now : ℚ)
    (source : String) : SameScopefilter m (m.runSource c now source).1 := by
  have hstart (m : MirrorScheduler) (wanted : Prop) [Decidable wanted] {runner : RunnerClass}
      (hrunner : runner ≠ .scopeFilterUpdateRunner) (timer : Int) (allowMultiple started : Bool) :
      SameScopefilter m (if wanted then
        m.runIfRelevant c now (some source) runner timer allowMultiple else (m, started)).1 := by
    split
    · exact sameScopefilter_runIfRelevant m c now (some source) hrunner timer allowMultiple
    · exact .refl m
  refine ((hstart m _ ?_ _ _ _).trans (hstart _ _ ?_ _ _ _)).trans (hstart _ _ ?_ _ _ _) <;> decide

theorem sameScopefilter_runSources (m : MirrorScheduler) (c : SchedulerSettings) (now : ℚ) :
    SameScopefilter m (m.runSources c now) := by
  unfold MirrorScheduler.runSources
  refine List.foldlRecOn (motive := fun t : MirrorScheduler × Nat ↦ SameScopefilter m t.1) _ _
    (.refl m) ?_
  intro t ht source _
  dsimp only
  split
  · exact ht
  · exact ht.trans (sameScopefilter_runSource t.1 c now source.1)

/-- The scheduler remembers this scope filter, or none. -/
structure Remembers (m : MirrorScheduler) (last : Option ScopefilterConfiguration) : Prop where
  prefixes : m.previousScopefilterPrefixes = last.map ScopefilterConfiguration.prefixes
  asns : m.previousScopefilterAsns = last.map ScopefilterConfiguration.asns
  excluded : m.previousScopefilterExcluded = last.map ScopefilterConfiguration.excluded

theorem Remembers.same {last : Option ScopefilterConfiguration} (hremembers : Remembers m last)
    (hsame : SameScopefilter m m') : Remembers m' last :=
  ⟨hsame.prefixes.trans hremembers.prefixes, hsame.asns.trans hremembers.asns,
    hsame.excluded.trans hremembers.excluded⟩

/-- A change is noticed where there is a scope filter, other than the one before. -/
theorem Remembers.noticed_iff {last : Option ScopefilterConfiguration}
    (hremembers : Remembers m last) :
    (m.checkScopefilterChange c).2 = true ↔
      c.settings.scopefilter = true ∧ last ≠ some c.scopefilterConfiguration := by
  unfold MirrorScheduler.checkScopefilterChange
  simp only [hremembers.prefixes, hremembers.asns, hremembers.excluded]
  cases hsection : c.settings.scopefilter with
  | false => simp
  | true =>
    cases last with
    | none => simp
    | some last =>
      obtain ⟨prefixes, asns, excluded⟩ := last
      simp only [Bool.not_true, Bool.false_eq_true, if_false, Option.map_some, ne_eq,
        Option.some.injEq, true_and, SchedulerSettings.scopefilterConfiguration,
        ScopefilterConfiguration.mk.injEq]
      split
      · next hchanged => simp only [true_iff]; tauto
      · next hsame => simp only [Bool.false_eq_true, false_iff]; tauto

/-- An update that can start. -/
theorem processes_of_canUpdate (hstart : m.CanUpdateScopefilter now) :
    let m' := (m.runIfRelevant c now none .scopeFilterUpdateRunner 0 false).1
    m'.processes scopefilterProcess = some ⟨.scopeFilterUpdateRunner, none, c, true⟩ ∧
      ∀ last, Remembers m last → Remembers m' last := by
  obtain ⟨hnone, htime⟩ := hstart
  have hrelevant : ¬ (¬ ((m.lastStartedTime scopefilterProcess + 0 : Int) : ℚ) < now ∨
      ((m.processes scopefilterProcess).isSome ∧ false = false)) := by
    rw [hnone]
    simpa using htime
  unfold MirrorScheduler.runIfRelevant
  dsimp only
  split
  · next h => exact absurd h hrelevant
  · exact ⟨Function.update_self scopefilterProcess _ m.processes, fun _ hremembers ↦
      ⟨hremembers.prefixes, hremembers.asns, hremembers.excluded⟩⟩

/-- A change that is noticed is remembered, and an update starts if it can. -/
theorem runScopefilter_of_noticed (hnoticed : (m.checkScopefilterChange c).2 = true)
    (hstart : m.CanUpdateScopefilter now) :
    (m.runScopefilter c now).processes scopefilterProcess =
        some ⟨.scopeFilterUpdateRunner, none, c, true⟩ ∧
      Remembers (m.runScopefilter c now) (some c.scopefilterConfiguration) := by
  unfold MirrorScheduler.runScopefilter
  unfold MirrorScheduler.checkScopefilterChange at hnoticed ⊢
  split at hnoticed
  · cases hnoticed
  · next hsection =>
    dsimp only at hnoticed
    split at hnoticed
    · next hchanged =>
      rw [if_neg hsection]
      dsimp only
      rw [if_pos hchanged]
      rw [if_pos rfl]
      have hstarted := processes_of_canUpdate (c := c) (m := { m with
        previousScopefilterPrefixes := some c.scopefilterPrefixes
        previousScopefilterAsns := some c.scopefilterAsns
        previousScopefilterExcluded := some c.scopefilterExcluded }) hstart
      exact ⟨hstarted.1, hstarted.2 _ ⟨rfl, rfl, rfl⟩⟩
    · cases hnoticed

theorem runScopefilter_of_not_noticed (hnot : ¬ (m.checkScopefilterChange c).2 = true) :
    m.runScopefilter c now = m := by
  unfold MirrorScheduler.runScopefilter
  dsimp only
  rw [if_neg hnot]
  unfold MirrorScheduler.checkScopefilterChange at hnot ⊢
  split
  · rfl
  · next hsection =>
    rw [if_neg hsection] at hnot
    dsimp only at hnot ⊢
    split
    · next hchanged => exact absurd (by rw [if_pos hchanged]) hnot
    · rfl

/-- A run that can start what it notices starts an update exactly where there is a scope filter
other than the one before, and remembers it. -/
theorem Remembers.run {last : Option ScopefilterConfiguration} (hremembers : Remembers m last)
    (now : ℚ) (hreadonly : c.readonlyStandby = false)
    (hstart : (m.checkScopefilterChange c).2 = true → m.CanUpdateScopefilter now) :
    if c.settings.scopefilter = true ∧ last ≠ some c.scopefilterConfiguration then
      m.processes scopefilterProcess = none ∧
        (m.run c now).processes scopefilterProcess =
          some ⟨.scopeFilterUpdateRunner, none, c, true⟩ ∧
        Remembers (m.run c now) (some c.scopefilterConfiguration)
    else SameScopefilter m (m.run c now) := by
  have hbefore : ∃ m₁, SameScopefilter m m₁ ∧
      m.run c now = (m₁.runScopefilter c now).runSources c now := by
    unfold MirrorScheduler.run
    rw [hreadonly]
    have hother (m : MirrorScheduler) (wanted : Prop) [Decidable wanted] {runner : RunnerClass}
        (hrunner : runner ≠ .scopeFilterUpdateRunner) (timer : Int) :
        SameScopefilter m (if wanted then
          (m.runIfRelevant c now none runner timer false).1 else m) := by
      split
      · exact sameScopefilter_runIfRelevant m c now none hrunner timer false
      · exact .refl m
    exact ⟨_, (hother m _ (by decide) c.roaImportTimer).trans
      (hother _ _ (by decide) c.routePreferenceUpdateTimer), rfl⟩
  obtain ⟨m₁, hsame, hrun⟩ := hbefore
  have hafter := sameScopefilter_runSources (m₁.runScopefilter c now) c now
  have hremembers₁ := hremembers.same hsame
  rw [hrun]
  split
  · next hchanged =>
    obtain ⟨hnone, htime⟩ := hstart (hremembers.noticed_iff.mpr hchanged)
    obtain ⟨hstarted, hkept⟩ := runScopefilter_of_noticed (hremembers₁.noticed_iff.mpr hchanged)
      ⟨hsame.process.trans hnone, hsame.lastStartedTime ▸ htime⟩
    exact ⟨hnone, hafter.process.trans hstarted, hkept.same hafter⟩
  · next hunchanged =>
    refine (hsame.trans ?_).trans hafter
    rw [runScopefilter_of_not_noticed (fun h ↦ hunchanged (hremembers₁.noticed_iff.mp h))]
    exact .refl m₁

end Frame

section Invariant

variable {load : List String → List (Nat ⊕ String) → ScopeFilterSettings}
  {t t' : SchedulerRun} {e : SchedulerEvent}

/-- The scheduler remembers the scope filter of the last update. Its process is that update, and
once it has ended, the database is what it left. -/
structure SchedulerInvariant (load : List String → List (Nat ⊕ String) → ScopeFilterSettings)
    (t : SchedulerRun) : Prop where
  remembers : Remembers t.scheduler
    (t.lastUpdate.map SchedulerSettings.scopefilterConfiguration)
  process : ∀ p, t.scheduler.processes scopefilterProcess = some p →
    t.lastUpdate = some p.settings
  updated : ∀ c, t.lastUpdate = some c →
    (∀ p, t.scheduler.processes scopefilterProcess = some p → p.isAlive = false) →
      ∃ before, t.database = scopefilterUpdate load c before

/-- A run that does nothing about scope filter updates keeps the invariant. -/
theorem SchedulerInvariant.same (hinv : SchedulerInvariant load t)
    {scheduler : MirrorScheduler} (hsame : SameScopefilter t.scheduler scheduler) :
    SchedulerInvariant load { t with
      scheduler
      lastUpdate := (if t.scheduler.processes scopefilterProcess |>.isNone then
        (scheduler.processes scopefilterProcess).map ScheduledTaskProcess.settings
        else none) <|> t.lastUpdate } := by
  have hlast : ((if (t.scheduler.processes scopefilterProcess).isNone then
      (scheduler.processes scopefilterProcess).map ScheduledTaskProcess.settings
      else none) <|> t.lastUpdate) = t.lastUpdate := by
    rw [hsame.process]
    cases t.scheduler.processes scopefilterProcess <;> rfl
  rw [hlast]
  refine ⟨hinv.remembers.same hsame, fun p hp ↦ ?_, fun c hc hended ↦ ?_⟩
  · exact hinv.process p (hsame.process ▸ hp)
  · exact hinv.updated c hc (fun p hp ↦ hended p (hsame.process.trans hp))

/-- Every step keeps the invariant, where a run that notices a change can start an update. -/
theorem SchedulerInvariant.step (hinv : SchedulerInvariant load t) (hguard : NoticedCanStart t e)
    (hstep : schedulerStep load t e = some t') : SchedulerInvariant load t' := by
  cases e with
  | run now =>
    cases hstep
    by_cases hreadonly : t.settings.readonlyStandby = false
    · have hrun := hinv.remembers.run now hreadonly (hguard hreadonly)
      split at hrun
      · obtain ⟨hnone, hstarted, hremembers⟩ := hrun
        refine ⟨?_, fun p hp ↦ ?_, fun c hc hended ↦ ?_⟩
        · simpa [hnone, hstarted] using hremembers
        · obtain rfl := Option.some_inj.mp (hstarted.symm.trans hp)
          simp [hnone, hstarted]
        · cases hended _ hstarted
      · exact hinv.same hrun
    · have hrun : t.scheduler.run t.settings now = t.scheduler := by
        unfold MirrorScheduler.run
        rw [if_pos (by simpa using hreadonly)]
      have hsame : SameScopefilter t.scheduler (t.scheduler.run t.settings now) := by
        rw [hrun]
        exact .refl t.scheduler
      exact hinv.same hsame
  | updateProcessState =>
    cases hstep
    have hfilter (p : ScheduledTaskProcess) :
        t.scheduler.updateProcessState.processes scopefilterProcess = some p ↔
          t.scheduler.processes scopefilterProcess = some p ∧ p.isAlive = true :=
      Option.filter_eq_some_iff
    refine ⟨?_, fun p hp ↦ hinv.process p ((hfilter p).mp hp).1, fun c hc hended ↦ ?_⟩
    · exact ⟨hinv.remembers.prefixes, hinv.remembers.asns, hinv.remembers.excluded⟩
    · refine hinv.updated c hc (fun p hp ↦ ?_)
      by_contra halive
      have halive : p.isAlive = true := by simpa using halive
      have hdead := hended p ((hfilter p).mpr ⟨hp, halive⟩)
      rw [halive] at hdead
      cases hdead
  | configure c =>
    cases hstep
    exact ⟨hinv.remembers, hinv.process, hinv.updated⟩
  | processEnds name =>
    unfold schedulerStep at hstep
    rcases hprocess : t.scheduler.processes name with _ | process
    · simp [hprocess] at hstep
    · simp only [hprocess] at hstep
      split at hstep
      · next halive =>
        cases hstep
        by_cases hname : name = scopefilterProcess
        · subst hname
          have hlast := hinv.process process hprocess
          refine ⟨⟨hinv.remembers.prefixes, hinv.remembers.asns, hinv.remembers.excluded⟩,
            fun p hp ↦ ?_, fun c hc _ ↦ ⟨t.database, ?_⟩⟩
          · have hself := Function.update_self scopefilterProcess
              (some { process with isAlive := false }) t.scheduler.processes
            obtain rfl := Option.some_inj.mp (hself.symm.trans hp)
            exact hlast
          · rw [if_pos rfl, Option.some_inj.mp (hlast.symm.trans hc)]
        · have hsame : Function.update t.scheduler.processes name
              (some { process with isAlive := false }) scopefilterProcess =
              t.scheduler.processes scopefilterProcess :=
            Function.update_of_ne (Ne.symm hname) _ _
          refine ⟨⟨hinv.remembers.prefixes, hinv.remembers.asns, hinv.remembers.excluded⟩,
            fun p hp ↦ hinv.process p (hsame ▸ hp), fun c hc hended ↦ ?_⟩
          rw [if_neg hname]
          exact hinv.updated c hc (fun p hp ↦ hended p (hsame.trans hp))
      · cases hstep

/-- What is remembered is one scope filter. -/
theorem Remembers.unique {m : MirrorScheduler} {last last' : Option ScopefilterConfiguration}
    (h : Remembers m last) (h' : Remembers m last') : last = last' := by
  have hprefixes := h.prefixes.symm.trans h'.prefixes
  have hasns := h.asns.symm.trans h'.asns
  have hexcluded := h.excluded.symm.trans h'.excluded
  cases last <;> cases last' <;>
    simp_all [ScopefilterConfiguration.ext_iff]

/-- A run of the scheduler that remembers the scope filter there is. -/
theorem Remembers.sameScopefilter_run {m : MirrorScheduler} {c : SchedulerSettings}
    (hremembers : Remembers m (some c.scopefilterConfiguration)) (now : ℚ) :
    SameScopefilter m (m.run c now) := by
  by_cases hreadonly : c.readonlyStandby = false
  · have hrun := hremembers.run now hreadonly
      (fun hnoticed ↦ absurd rfl (hremembers.noticed_iff.mp hnoticed).2)
    rwa [if_neg (fun h ↦ h.2 rfl)] at hrun
  · unfold MirrorScheduler.run
    rw [if_pos (by simpa using hreadonly)]
    exact .refl m

/-- The last update was with the scope filter there is. -/
structure UpToDate (load : List String → List (Nat ⊕ String) → ScopeFilterSettings)
    (filter : ScopefilterConfiguration) (t : SchedulerRun) : Prop where
  invariant : SchedulerInvariant load t
  current : t.settings.scopefilterConfiguration = filter
  last : t.lastUpdate.map SchedulerSettings.scopefilterConfiguration = some filter

/-- While the scope filter stays the same, the last update was with it. -/
theorem UpToDate.step {filter : ScopefilterConfiguration} (hcurrent : UpToDate load filter t)
    (hkeeps : KeepsScopefilter t e) (hstep : schedulerStep load t e = some t') :
    UpToDate load filter t' := by
  have hremembers : Remembers t.scheduler (some t.settings.scopefilterConfiguration) := by
    rw [hcurrent.current, ← hcurrent.last]
    exact hcurrent.invariant.remembers
  have hguard : NoticedCanStart t e := by
    cases e with
    | run now => exact fun _ hnoticed ↦ absurd rfl (hremembers.noticed_iff.mp hnoticed).2
    | _ => trivial
  have hinv := hcurrent.invariant.step hguard hstep
  suffices hsame : Remembers t'.scheduler (some filter) ∧
      t'.settings.scopefilterConfiguration = filter from
    ⟨hinv, hsame.2, hinv.remembers.unique hsame.1⟩
  rw [hcurrent.current] at hremembers
  cases e with
  | run now =>
    cases hstep
    rw [← hcurrent.current] at hremembers ⊢
    exact ⟨hremembers.same (hremembers.sameScopefilter_run now), rfl⟩
  | updateProcessState =>
    cases hstep
    exact ⟨⟨hremembers.prefixes, hremembers.asns, hremembers.excluded⟩, hcurrent.current⟩
  | configure c =>
    cases hstep
    exact ⟨hremembers, hkeeps.2.trans hcurrent.current⟩
  | processEnds name =>
    unfold schedulerStep at hstep
    rcases hprocess : t.scheduler.processes name with _ | process
    · simp [hprocess] at hstep
    · simp only [hprocess] at hstep
      split at hstep
      · cases hstep
        exact ⟨⟨hremembers.prefixes, hremembers.asns, hremembers.excluded⟩, hcurrent.current⟩
      · cases hstep

/-- An update that is right where it evaluates every status. -/
theorem scopefilterUpdate_refreshed {c : SchedulerSettings} {h h' : DatabaseHandler}
    (hrun : scopeFilterUpdateRun c.settings (load c.scopefilterPrefixes c.scopefilterAsns) h =
      some h')
    (hshared : SharedKeysSameStatus c.settings
      (.loadFilters (load c.scopefilterPrefixes c.scopefilterAsns)) h.committed.objects.rows) :
    ScopefilterRefreshed c.settings (.loadFilters (load c.scopefilterPrefixes c.scopefilterAsns))
      h.committed.objects (scopefilterUpdate load c h).committed.objects := by
  have hupdate : scopefilterUpdate load c h = h' := by
    unfold scopefilterUpdate
    rw [hrun]
    rfl
  rw [hupdate]
  exact ((scopeFilterUpdateRun_iff hrun).mpr hshared).1

/-- In every run in which the scheduler only notices changes when it can start an update: where it
can start one, and there is no standby, it starts one exactly if there is a scope filter and the
last update was with another one. While that stays the same, the database is what an update with it
left, whenever none is alive; the statuses are right where that update gives them. -/
theorem startsUpdate_iff {initial : SchedulerRun} (hinitial : initial.scheduler = .new)
    (hlast : initial.lastUpdate = none)
    (hreach : Reaches (schedulerStep load) NoticedCanStart initial t)
    (hreadonly : t.settings.readonlyStandby = false) {now : ℚ}
    (hstart : t.scheduler.CanUpdateScopefilter now) :
    ∃ t₁, schedulerStep load t (.run now) = some t₁ ∧
      t₁.scheduler.processes scopefilterProcess =
        (if t.settings.settings.scopefilter = true ∧
            t.lastUpdate.map SchedulerSettings.scopefilterConfiguration ≠
              some t.settings.scopefilterConfiguration then
          some ⟨.scopeFilterUpdateRunner, none, t.settings, true⟩
        else none) ∧
      t₁.database = t.database ∧
      ∀ t₂, t.settings.settings.scopefilter = true →
        Reaches (schedulerStep load) KeepsScopefilter t₁ t₂ →
        (∀ p, t₂.scheduler.processes scopefilterProcess = some p → p.isAlive = false) →
        ∃ c before, c.scopefilterConfiguration = t.settings.scopefilterConfiguration ∧
          t₂.lastUpdate = some c ∧ t₂.database = scopefilterUpdate load c before ∧
          ∀ h', scopeFilterUpdateRun c.settings (load c.scopefilterPrefixes c.scopefilterAsns)
              before = some h' →
            SharedKeysSameStatus c.settings
              (.loadFilters (load c.scopefilterPrefixes c.scopefilterAsns))
              before.committed.objects.rows →
            ScopefilterRefreshed c.settings
              (.loadFilters (load c.scopefilterPrefixes c.scopefilterAsns))
              before.committed.objects t₂.database.committed.objects := by
  have hinv : SchedulerInvariant load t := by
    refine hreach.invariant (fun h hguard hstep ↦ h.step hguard hstep) ?_
    refine ⟨?_, fun p hp ↦ ?_, fun c hc ↦ ?_⟩
    · rw [hinitial, hlast]
      exact ⟨rfl, rfl, rfl⟩
    · rw [hinitial] at hp
      cases hp
    · rw [hlast] at hc
      cases hc
  have hrun := hinv.remembers.run now hreadonly (fun _ ↦ hstart)
  have hguard : NoticedCanStart t (.run now) := fun _ _ ↦ hstart
  have hinv₁ := hinv.step hguard rfl
  refine ⟨_, rfl, ?_, rfl, fun t₂ hsection hreach₂ hended ↦ ?_⟩
  · split at hrun
    · next hchanged =>
      rw [if_pos hchanged]
      exact hrun.2.1
    · next hunchanged =>
      rw [if_neg hunchanged]
      exact hrun.process.trans hstart.1
  · have hremembers : Remembers (t.scheduler.run t.settings now)
        (some t.settings.scopefilterConfiguration) := by
      split at hrun
      · exact hrun.2.2
      · next hunchanged =>
        have hsame := not_not.mp (fun h ↦ hunchanged ⟨hsection, h⟩)
        exact hsame ▸ hinv.remembers.same hrun
    have hcurrent₂ : UpToDate load t.settings.scopefilterConfiguration t₂ :=
      hreach₂.invariant (fun h hkeeps hstep ↦ h.step hkeeps hstep)
        ⟨hinv₁, rfl, hinv₁.remembers.unique hremembers⟩
    obtain ⟨c, hc, hfilter⟩ := Option.map_eq_some_iff.mp hcurrent₂.last
    obtain ⟨before, hdatabase⟩ := hcurrent₂.invariant.updated c hc hended
    refine ⟨c, before, hfilter, hc, hdatabase, fun h' hrun hshared ↦ ?_⟩
    rw [hdatabase]
    exact scopefilterUpdate_refreshed hrun hshared

section Examples

instance (t : SchedulerRun) (e : SchedulerEvent) : Decidable (NoticedCanStart t e) :=
  match e with
  | .run now => inferInstanceAs (Decidable (t.settings.readonlyStandby = false →
      (t.scheduler.checkScopefilterChange t.settings).2 = true →
      t.scheduler.processes scopefilterProcess = none ∧
        (t.scheduler.lastStartedTime scopefilterProcess : ℚ) < now))
  | .updateProcessState => isTrue trivial
  | .configure _ => isTrue trivial
  | .processEnds _ => isTrue trivial

/-- Two sources with nothing to schedule, and a scope filter with these prefixes. -/
def scopefilterSettings (prefixes : List String) : SchedulerSettings where
  settings := { filteredSettings with scopefilter := prefixes ≠ [] }
  readonlyStandby := false
  roaImportTimer := 3600
  routePreferenceUpdateTimer := 3600
  scopefilterPrefixes := prefixes
  scopefilterAsns := []
  sourceSchedule _ := ⟨[], none, none, none, none, none, none, none⟩

/-- The filters of these settings. -/
def loadPrefixes (prefixes : List String) (_asns : List (Nat ⊕ String)) : ScopeFilterSettings :=
  if "192.0.2.0/24" ∈ prefixes then filteredPrefix else ⟨[], []⟩

def newSchedulerRun (prefixes : List String) : SchedulerRun :=
  ⟨.new, scopefilterSettings prefixes, handlerOn [storedRoute 0 "TEST"] (by decide), none⟩

/-- The first update, which ends, and other settings. -/
def updateThenConfigure (prefixes : List String) : List SchedulerEvent :=
  [.run 1, .processEnds scopefilterProcess, .updateProcessState,
    .configure (scopefilterSettings prefixes)]

/-- The prefixes have changed after the first update. -/
def changedPrefixesRun : Option SchedulerRun :=
  (updateThenConfigure ["198.51.100.0/24"]).foldlM
    (fun t e ↦ if NoticedCanStart t e then schedulerStep loadPrefixes t e else none)
    (newSchedulerRun ["192.0.2.0/24"])

theorem changedPrefixesRun_isSome : changedPrefixesRun.isSome = true := by decide +kernel

/-- The next run starts an update with the new ones. -/
theorem startsUpdate_changedPrefixes : ∃ t t₁, changedPrefixesRun = some t ∧
    schedulerStep loadPrefixes t (.run 2) = some t₁ ∧
    (t₁.scheduler.processes scopefilterProcess).isSome = true := by
  have hrun : changedPrefixesRun = some (changedPrefixesRun.get changedPrefixesRun_isSome) :=
    (Option.some_get _).symm
  have hnone : (changedPrefixesRun.get changedPrefixesRun_isSome).scheduler.processes
      scopefilterProcess = none := Option.isNone_iff_eq_none.mp (by decide +kernel)
  obtain ⟨t₁, hstep, hprocess, -⟩ := startsUpdate_iff rfl rfl (Reaches.of_foldlM _ hrun)
    (by decide +kernel) ⟨hnone, (by decide +kernel : _ < (2 : ℚ))⟩
  refine ⟨_, t₁, hrun, hstep, ?_⟩
  rw [hprocess, if_pos (by decide +kernel)]
  rfl

/-- Without its section, a scope filter that was in use stays in the statuses. -/
theorem noUpdate_withoutSection :
    ((updateThenConfigure [] ++ [SchedulerEvent.run 2]).foldlM (schedulerStep loadPrefixes)
        (newSchedulerRun ["192.0.2.0/24"])).map (fun t ↦
      ((t.scheduler.processes scopefilterProcess).isSome,
        t.lastUpdate.map SchedulerSettings.scopefilterConfiguration ==
          some t.settings.scopefilterConfiguration,
        t.database.committed.objects.rows.map (fun row ↦ row.scopefilterStatus))) =
      some (false, false, [.outScopePrefix]) := by
  decide +kernel

end Examples

end Invariant

end Irrd.Mirroring
