import Irrd.Storage.SerialModes

/-!
# Forced reloads

An operator asks for a full reload of a source with a flag of its status row, which importers
read. Finalising a transaction resets the flag of every source that the transaction has seen. A
request that is still to be met is kept beside a run, with what has been committed of it.
-/

namespace Irrd.Storage

open Irrd.Base Irrd.Conf Irrd.Rpsl

/-- The settings and a handler, and whether a reload of a source was asked for and has not
happened yet: including this transaction, and committed. -/
structure ReloadRun where
  settings : Settings
  handler : DatabaseHandler
  requested : Bool
  committedRequested : Bool

/-- Whether a reload is asked for after an operation. -/
def requestedAfter (source : String) (committed requested : Bool) : HandlerOperation → Bool
  | .setForceReload other => other = source || requested
  | .deleteAllRpslObjectsWithJournal other _ => !(other = source) && requested
  | .rollback => committed
  | _ => requested

/-- One action, and what becomes of the request. -/
def reloadStep (source : String) (t : ReloadRun) : ModeAction → Option ReloadRun
  | .configure s => some { t with settings := s }
  | .perform a => (t.handler.step t.settings a).map (fun h ↦
    let requested := requestedAfter source t.committedRequested t.requested a.operation
    match a.operation with
    | .commit => ⟨t.settings, h, requested, requested⟩
    | _ => ⟨t.settings, h, requested, t.committedRequested⟩)

/-- The committed status row of the source asks for a full reload. -/
def ForceReloadCommitted (source : String) (db : Database) : Prop :=
  ∃ row ∈ db.status.find source, row.forceReload = true

/-- What keeps a request: a reload is asked for where the source has a status row, its journal
goes with its objects, and while the request stands no transaction that sees the source is
committed. -/
def KeepsRequest (source : String) (t : ReloadRun) : ModeAction → Prop
  | .configure _ => True
  | .perform a =>
    match a.operation with
    | .setForceReload other => other = source →
      (t.handler.working.status.find source).isSome = true
    | .deleteAllRpslObjectsWithJournal other guaranteed => other = source → guaranteed = true →
      t.handler.working.journal.ofSource source = []
    | .commit => t.requested = true → ¬ SeenByCommit source t.handler
    | _ => True

section Operations

variable {s : Settings} {source : String} {h h' : DatabaseHandler}

theorem forceReloadCommitted_iff (db : Database) :
    ForceReloadCommitted source db ↔
      ∃ synchronised, db.flags source = some (synchronised, true) := by
  unfold ForceReloadCommitted Database.flags
  constructor
  · rintro ⟨row, hrow, hforce⟩
    exact ⟨row.synchronisedSerials, Option.map_eq_some_iff.mpr ⟨row, hrow, by rw [← hforce]; rfl⟩⟩
  · rintro ⟨synchronised, hflags⟩
    obtain ⟨row, hrow, hflags⟩ := Option.map_eq_some_iff.mp hflags
    exact ⟨row, hrow, congrArg Prod.snd hflags⟩

/-- Most operations leave status rows as they are. -/
theorem status_perform {op : HandlerOperation} (hperform : h.perform s op = some h')
    (hcommit : op ≠ .commit) (hrollback : op ≠ .rollback)
    (hforce : ∀ other, op ≠ .setForceReload other)
    (hreload : ∀ other guaranteed, op ≠ .deleteAllRpslObjectsWithJournal other guaranteed) :
    h'.working.status = h.working.status := by
  have hrecorded (hrec : Recorded s h h') : h'.working.status = h.working.status := by
    obtain ⟨entries, hadded⟩ := hrec.entries
    exact hadded.status
  cases op with
  | upsertRpslObject o origin guaranteed sourceSerial created =>
    exact hrecorded (recorded_upsert hperform)
  | updateRpkiStatus nowValid nowInvalid nowNotFound =>
    exact hrecorded (recorded_updateRpkiStatus hperform)
  | updateScopefilterStatus nowInScope nowOutScopeAs nowOutScopePrefix =>
    exact hrecorded (recorded_updateScopefilterStatus hperform)
  | updateRoutePreferenceStatus nowVisible nowSuppressed =>
    exact hrecorded (recorded_updateRoutePreferenceStatus hperform)
  | evaluateRoutePreference filterPrefixes =>
    exact hrecorded (recorded_evaluateRoutePreference hperform)
  | deleteRpslObject origin a sourceSerial protect => exact hrecorded (recorded_delete hperform)
  | suspendRpslObject pk => exact hrecorded (recorded_suspend hperform)
  | deleteSuspendedRpslObjects pks => exact hrecorded (recorded_deleteSuspended hperform)
  | executeQuery => exact hrecorded (recorded_flush hperform)
  | deleteJournalEntriesBeforeDate timestamp other =>
    obtain ⟨h₁, hflush, hexpire⟩ := Option.bind_eq_some_iff.mp hperform
    cases hexpire
    exact (flush_entries hflush).choose_spec.1.status
  | deleteAllRpslObjectsWithJournal other guaranteed => exact absurd rfl (hreload other guaranteed)
  | setForceReload other => exact absurd rfl (hforce other)
  | commit => exact absurd rfl hcommit
  | rollback => exact absurd rfl hrollback
  | _ =>
    cases hperform
    rfl

/-- Asking for a reload of a source that has a status row. -/
theorem forceReloadCommitted_setForceReload (other : String)
    (hflag : ForceReloadCommitted source h.working ∨
      other = source ∧ (h.working.status.find source).isSome = true) :
    ForceReloadCommitted source (h.setForceReload s other).working := by
  unfold ForceReloadCommitted DatabaseHandler.setForceReload DatabaseHandler.updateStatus
  rw [KeyedTable.find_map]
  by_cases hother : other = source
  · have hrow : (h.working.status.find source).isSome = true := by
      rcases hflag with ⟨row, hrow, -⟩ | ⟨-, hrow⟩
      · rw [show h.working.status.find source = some row from hrow]
        rfl
      · exact hrow
    obtain ⟨row, hrow⟩ := Option.isSome_iff_exists.mp hrow
    have hsource : row.source = other := (KeyedTable.find_key hrow).trans hother.symm
    rw [hrow, Option.map_some, if_pos hsource]
    exact ⟨_, rfl, rfl⟩
  · obtain ⟨row, hrow, hforce⟩ := hflag.resolve_right (fun hsame ↦ hother hsame.1)
    have hrow : h.working.status.find source = some row := hrow
    have hsource : row.source ≠ other := fun hsource ↦
      hother (hsource.symm.trans (KeyedTable.find_key hrow))
    rw [hrow, Option.map_some, if_neg hsource]
    exact ⟨row, rfl, hforce⟩

/-- A reload of another source. -/
theorem status_reload {other : String} {guaranteed : Bool} (hother : other ≠ source)
    (hreload : h.deleteAllRpslObjectsWithJournal s other guaranteed = some h') :
    h'.working.status.find source = h.working.status.find source := by
  obtain ⟨h₁, hflush, hreload⟩ := Option.bind_eq_some_iff.mp hreload
  cases hreload
  rw [← (flush_entries hflush).choose_spec.1.status]
  show (h₁.working.status.filter _).find source = _
  rw [KeyedTable.find_filter]
  cases hfind : h₁.working.status.find source with
  | none => rfl
  | some row =>
    have hsource : row.source ≠ other := fun hsource ↦
      hother (hsource.symm.trans (KeyedTable.find_key hfind))
    simp [hsource]

/-- A commit leaves a request exactly where its transaction has not seen the source. -/
theorem forceReloadCommitted_commit_iff (source : String) (hcommit : h.commit s = some h') :
    (ForceReloadCommitted source h'.working ↔
        ForceReloadCommitted source h.working ∧ ¬ SeenByCommit source h) ∧
      h'.committed = h'.working := by
  obtain ⟨h₁, h₂, h₃, h₄, hparts⟩ := commit_parts hcommit
  obtain ⟨more, hpre⟩ := recordedOperations_preCommit hparts.preCommit
  obtain ⟨⟨entries, hadded⟩, -, -, -, -⟩ := hpre.effect source
  have hworking : h'.working.flags source = h₃.working.flags source := by
    have hstatus : h'.working.status = h₃.working.status := by
      rw [hparts.result]
      exact hadded.status
    unfold Database.flags
    rw [hstatus]
  refine ⟨?_, by rw [hparts.result]; rfl⟩
  rw [forceReloadCommitted_iff, forceReloadCommitted_iff, hworking]
  rcases (finalisedSource source hparts).flags with ⟨hseen, hflags⟩ | ⟨hunseen, hflags⟩
  · simp [hflags, hseen]
  · simp [hflags, hunseen]

end Operations

/-- What holds between the actions of a run: the flag shows every request. -/
structure ReloadInvariant (source : String) (t : ReloadRun) : Prop where
  working : t.requested = true → ForceReloadCommitted source t.handler.working
  committed : t.committedRequested = true → ForceReloadCommitted source t.handler.committed

section Run

variable {source : String} {t t' : ReloadRun}

/-- One operation keeps the flag of a request. -/
theorem ReloadInvariant.perform {now : Nat} {op : HandlerOperation} {h' : DatabaseHandler}
    (hinv : ReloadInvariant source t) (hkeeps : KeepsRequest source t (.perform ⟨now, op⟩))
    (hperform : DatabaseHandler.perform t.settings { t.handler with now } op = some h')
    (hrequested : requestedAfter source t.committedRequested t.requested op = true) :
    ForceReloadCommitted source h'.working := by
  have hsame (hold : t.requested = true)
      (hstatus : h'.working.status = t.handler.working.status) :
      ForceReloadCommitted source h'.working := by
    have hflag := hinv.working hold
    unfold ForceReloadCommitted at hflag ⊢
    rw [hstatus]
    exact hflag
  cases op with
  | setForceReload other =>
    cases hperform
    refine forceReloadCommitted_setForceReload other ?_
    rcases Bool.or_eq_true_iff.mp hrequested with hother | hold
    · have hother : other = source := of_decide_eq_true hother
      exact Or.inr ⟨hother, hkeeps hother⟩
    · exact Or.inl (hinv.working hold)
  | deleteAllRpslObjectsWithJournal other guaranteed =>
    simp only [requestedAfter, Bool.and_eq_true, Bool.not_eq_true', decide_eq_false_iff_not]
      at hrequested
    have hflag := hinv.working hrequested.2
    unfold ForceReloadCommitted at hflag ⊢
    rw [status_reload hrequested.1 hperform]
    exact hflag
  | commit =>
    exact (forceReloadCommitted_commit_iff source hperform).1.mpr
      ⟨hinv.working hrequested, hkeeps hrequested⟩
  | rollback =>
    cases hperform
    exact hinv.committed hrequested
  | _ =>
    have hstatus := status_perform hperform
    exact hsame hrequested (hstatus (by simp) (by simp) (by simp) (by simp))

theorem ReloadInvariant.step {a : ModeAction} (hinv : ReloadInvariant source t)
    (hkeeps : KeepsRequest source t a) (hstep : reloadStep source t a = some t') :
    ReloadInvariant source t' := by
  cases a with
  | configure s =>
    cases hstep
    exact ⟨hinv.working, hinv.committed⟩
  | perform a =>
    obtain ⟨h', hperform, rfl⟩ := Option.map_eq_some_iff.mp hstep
    obtain ⟨now, op⟩ := a
    have hworking := hinv.perform hkeeps hperform
    have hsame (hop : op ≠ .commit) : h'.committed = t.handler.committed :=
      committed_perform (h := { t.handler with now }) hop hperform
    cases op with
    | commit =>
      refine ⟨hworking, fun hrequested ↦ ?_⟩
      show ForceReloadCommitted source h'.committed
      rw [(forceReloadCommitted_commit_iff source hperform).2]
      exact hworking hrequested
    | _ => exact ⟨hworking, (hsame (by simp)).symm ▸ hinv.committed⟩

/-- In every run from a database on which no reload of the source is asked for, if every step keeps
the request, then the flag of the source is set in every state with a committed request. -/
theorem forceReload_of_reaches (hrequested : t.requested = false)
    (hcommitted : t.committedRequested = false)
    (hreach : Reaches (reloadStep source) (KeepsRequest source) t t') :
    t'.committedRequested = true → ForceReloadCommitted source t'.handler.committed := by
  have hinitial : ReloadInvariant source t := ⟨by simp [hrequested], by simp [hcommitted]⟩
  have hinv : ReloadInvariant source t' := hreach.invariant (P := ReloadInvariant source)
    (fun hinv hguard hstep ↦ hinv.step hguard hstep) hinitial
  exact hinv.committed

end Run

section Examples

/-- A source with an object. -/
def newReloadRun : ReloadRun :=
  ⟨localSettings, (newHandler.step localSettings (upsertAction 0 (personObject "A"))).bind
    (·.step localSettings ⟨1, .commit⟩) |>.getD newHandler, false, false⟩

/-- The run after one more action. -/
def ReloadRun.next (t : ReloadRun) (a : ModeAction) (hstep : (reloadStep "TEST" t a).isSome) :
    ReloadRun :=
  (reloadStep "TEST" t a).get hstep

theorem ReloadRun.step_next (t : ReloadRun) (a : ModeAction)
    (hstep : (reloadStep "TEST" t a).isSome) :
    reloadStep "TEST" t a = some (t.next a hstep) := (Option.some_get hstep).symm

/-- A reload is asked for. -/
def requestedRun : ReloadRun :=
  (newReloadRun.next (.perform ⟨2, .setForceReload "TEST"⟩) rfl).next (.perform ⟨3, .commit⟩) rfl

theorem not_seenByCommit {source : String} {h : DatabaseHandler}
    (hseen : h.statusTracker.sourcesSeen = []) (hbuffer : h.rpslUpsertBuffer = []) :
    ¬ SeenByCommit source h := by
  simp [SeenByCommit, hseen, hbuffer]

theorem keepsRequest_requestedRun :
    Reaches (reloadStep "TEST") (KeepsRequest "TEST") newReloadRun requestedRun := by
  refine Reaches.tail (a := .perform ⟨3, .commit⟩) ?_ (fun _ ↦ not_seenByCommit rfl rfl)
    (ReloadRun.step_next _ _ rfl)
  exact (Reaches.refl newReloadRun).tail (a := .perform ⟨2, .setForceReload "TEST"⟩)
    (fun _ ↦ rfl) (ReloadRun.step_next _ _ rfl)

/-- A later transaction sees another source. -/
def laterRun : ReloadRun :=
  (requestedRun.next (.perform ⟨4, .recordSerialExported "OTHER" 1⟩) rfl).next
    (.perform ⟨5, .commit⟩) rfl

/-- The request is still there after the later transaction. -/
theorem forceReload_laterRun : laterRun.committedRequested = true ∧
    laterRun.handler.committed.status.rows.map RPSLDatabaseStatus.source = ["TEST", "OTHER"] ∧
      ForceReloadCommitted "TEST" laterRun.handler.committed := by
  refine ⟨rfl, rfl, forceReload_of_reaches (t := newReloadRun) rfl rfl ?_ rfl⟩
  refine Reaches.tail (a := .perform ⟨5, .commit⟩) ?_ (fun _ hseen ↦ ?_)
    (ReloadRun.step_next _ _ rfl)
  · exact keepsRequest_requestedRun.tail
      (a := .perform ⟨4, .recordSerialExported "OTHER" 1⟩) trivial
      (ReloadRun.step_next _ _ rfl)
  · rcases hseen with hseen | ⟨b, hb, -⟩
    · exact absurd hseen (by decide)
    · exact absurd hb List.not_mem_nil

/-- Before the reload, an export is recorded. -/
def exportedRun : ReloadRun :=
  (requestedRun.next (.perform ⟨4, .recordSerialExported "TEST" 1⟩) rfl).next
    (.perform ⟨5, .commit⟩) rfl

/-- The request is forgotten. -/
theorem forceReload_exportedRun :
    Reaches (reloadStep "TEST") (fun _ _ ↦ True) newReloadRun exportedRun ∧
      exportedRun.committedRequested = true ∧
      (exportedRun.handler.committed.status.find "TEST").map RPSLDatabaseStatus.forceReload =
        some false := by
  refine ⟨?_, rfl, rfl⟩
  refine Reaches.tail (a := .perform ⟨5, .commit⟩) ?_ trivial (ReloadRun.step_next _ _ rfl)
  refine Reaches.tail (a := .perform ⟨4, .recordSerialExported "TEST" 1⟩) ?_ trivial
    (ReloadRun.step_next _ _ rfl)
  exact keepsRequest_requestedRun.mono (fun _ _ _ ↦ trivial)

end Examples

end Irrd.Storage
