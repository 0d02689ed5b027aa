import Irrd.Mirroring.StatusRunners
import Irrd.Storage.IncrementalEvaluation

/-!
# Updating all route preference statuses

A runner evaluates the route preferences of all stored routes, unless no source has a preference.
Source: `irrd/mirroring/mirror_runners_import.py`, `irrd/routepref/routepref.py`.
-/

namespace Irrd.Mirroring

open Irrd.Base Irrd.Conf Irrd.Routepref Irrd.Storage Irrd.Utils

/-- `RoutePreferenceUpdateRunner.run`, `irrd/mirroring/mirror_runners_import.py:305–318`. Where a
statement fails, nothing is committed. -/
def routePreferenceUpdateRun (s : Settings) (h : DatabaseHandler) : Option DatabaseHandler := do
  let h ← (connect h).evaluateRoutePreference s []
  h.commit s

section Commit

variable {s : Settings} {h h' : DatabaseHandler}

/-- Operations recorded for route preferences do not lead to another evaluation. -/
theorem prefixes_recordDicts {A : Type} {operation : DatabaseOperation} {dict : A → RPSLObjectDict}
    {qualifies : A → Bool} {items : List A}
    (hdicts : h.recordDicts s operation .routePreference dict qualifies items = some h') :
    h'.changedObjectsTracker.filterPrefixes = h.changedObjectsTracker.filterPrefixes := by
  have hrecord {op : Operation} {h h' : DatabaseHandler} (hop : h.recordOperation s op = some h') :
      h'.changedObjectsTracker = h.changedObjectsTracker := by
    unfold DatabaseHandler.recordOperation at hop
    dsimp only at hop
    split at hop
    · split at hop
      · cases hop
      · obtain ⟨journal, -, rfl⟩ := Option.map_eq_some_iff.mp hop
        rfl
    · cases hop
      rfl
  unfold DatabaseHandler.recordDicts at hdicts
  induction items generalizing h with
  | nil =>
    cases hdicts
    rfl
  | cons item items ih =>
    rw [List.foldlM_cons] at hdicts
    obtain ⟨h₁, hitem, hdicts⟩ := Option.bind_eq_some_iff.mp hdicts
    rw [ih hdicts]
    split at hitem
    · obtain ⟨h₂, hop, rfl⟩ := Option.map_eq_some_iff.mp hitem
      rw [← hrecord hop]
      unfold DatabaseHandler.objectModified
      cases (dict item).ipPrefix <;> simp [SessionChangedObjectsTracker.filterPrefixes]
    · cases hitem
      rfl

/-- An evaluation leaves no pending upserts and no more changed prefixes than before. -/
theorem evaluateRoutePreference_frame {prefixes : List IP} (hempty : h.rpslUpsertBuffer = [])
    (heval : h.evaluateRoutePreference s prefixes = some h') :
    h'.rpslUpsertBuffer = [] ∧ h'.changedObjectsTracker.filterPrefixes =
      h.changedObjectsTracker.filterPrefixes := by
  unfold DatabaseHandler.evaluateRoutePreference DatabaseHandler.flushRpslObjectWritingBuffer
    at heval
  rw [if_pos hempty] at heval
  split at heval
  · cases heval
    exact ⟨hempty, rfl⟩
  · simp only [Option.bind_eq_bind, Option.bind_some] at heval
    split at heval
    · cases heval
      exact ⟨hempty, rfl⟩
    · obtain ⟨h₁, hvisible, heval⟩ := Option.bind_eq_some_iff.mp heval
      obtain ⟨h₂, hsuppressed, heval⟩ := Option.bind_eq_some_iff.mp heval
      cases heval
      exact ⟨((recordDicts_frame hsuppressed).1.trans (recordDicts_frame hvisible).1).trans hempty,
        (prefixes_recordDicts hsuppressed).trans (prefixes_recordDicts hvisible)⟩

/-- Without a preference, nothing is evaluated. -/
theorem evaluateRoutePreference_none (hpreference : ¬ HasPreference s) (prefixes : List IP) :
    h.evaluateRoutePreference s prefixes = some h := by
  have hnone : changedRoutes s [] prefixes = none := if_neg hpreference
  exact if_pos (by rw [hnone]; rfl)

/-- Without pending upserts and changed prefixes, a commit leaves the objects as they are. -/
theorem commit_objects (hempty : h.rpslUpsertBuffer = [])
    (hprefixes : h.changedObjectsTracker.filterPrefixes = [])
    (hcommit : h.commit s = some h') : h'.committed.objects = h.working.objects := by
  obtain ⟨h₁, h₂, h₃, h₄, hparts⟩ := commit_parts hcommit
  obtain ⟨hframe, -⟩ := finaliseTransaction_spec (s := s) h₂
  obtain ⟨hflushed, -, -⟩ := flush_objects hparts.flush
  have hchanged : h₃.changedObjectsTracker = h.changedObjectsTracker := by
    rw [hparts.finalise]
    exact hframe.changed.trans hparts.changed
  have hpre : h₃ = h₄ := by
    have hpre := hparts.preCommit
    unfold DatabaseHandler.preCommit at hpre
    rw [hchanged] at hpre
    exact Option.some_inj.mp ((if_pos hprefixes).symm.trans hpre)
  have hsame : h.working.objects = h₁.working.objects := by
    simpa [flushedObjects, hempty] using hflushed
  rw [hparts.result, ← hpre, hparts.finalise, hsame, ← hparts.objects]
  exact hframe.objects

end Commit

section Results

variable {s : Settings} {h h' : DatabaseHandler} {rows rows' : List RPSLDatabaseObject}

/-- What an update is for: a route is suppressed exactly if another route outranks it. -/
def StatusesFollowPreferences (s : Settings) (rows : List RPSLDatabaseObject) : Prop :=
  ∀ row ∈ rows, IsRoute row.toObjectColumns → (row.routePreferenceStatus = .suppressed ↔
    Outranked s (rows.map RPSLDatabaseObject.toObjectColumns) row.toObjectColumns)

/-- Where no source has a preference other than zero, no route outranks another. -/
theorem not_outranked (hpreference : ¬ HasPreference s) (objects : List ObjectColumns)
    (c : ObjectColumns) : ¬ Outranked s objects c := by
  rintro ⟨other, -, -, ⟨n, -, m, hm, hlt⟩, -⟩
  refine hpreference ?_
  unfold HasPreference
  rw [List.any_eq_true]
  obtain ⟨before, after, hsources, -⟩ := List.lookup_eq_some_iff.mp hm
  have hmem : (other.source, m) ∈ preferencesOfSources s := by
    rw [hsources]
    simp
  obtain ⟨⟨name, own⟩, hown, hpreferenceOf⟩ := List.mem_filterMap.mp hmem
  obtain ⟨m', hm', heq⟩ := Option.map_eq_some_iff.mp hpreferenceOf
  cases heq
  refine ⟨_, hown, ?_⟩
  simp only [hm', Option.any_some, decide_eq_true_eq]
  omega

/-- Statuses set for all routes are right. -/
theorem statusesFollowPreferences_set {status : RPSLDatabaseObject → RoutePreferenceStatus}
    (hset : rows' = rows.map (fun row ↦ { row with routePreferenceStatus := status row }))
    (hstatus : ∀ row ∈ rows, IsRoute row.toObjectColumns → (status row = .suppressed ↔
      Outranked s (rows.map RPSLDatabaseObject.toObjectColumns) row.toObjectColumns)) :
    StatusesFollowPreferences s rows' := by
  subst hset
  intro row' hrow' hroute
  obtain ⟨row, hrow, rfl⟩ := List.mem_map.mp hrow'
  rw [hstatus row hrow hroute, List.map_map]
  constructor
  · refine Outranked.congr (fun other hother ↦ ?_) rfl
    obtain ⟨row', hrow', rfl⟩ := List.mem_map.mp hother
    exact ⟨_, List.mem_map_of_mem hrow', rfl⟩
  · refine Outranked.congr (fun other hother ↦ ?_) rfl
    obtain ⟨row', hrow', rfl⟩ := List.mem_map.mp hother
    exact ⟨_, List.mem_map_of_mem hrow', rfl⟩

/-- An update of all statuses leaves those that follow from the preferences exactly if some source
has a preference other than zero, or no route was suppressed before. Without any preference,
earlier suppressions stay. -/
theorem routePreferenceUpdateRun_iff (hunique : h.committed.objects.PksUnique)
    (hprefixes : ∀ row ∈ h.committed.objects.rows,
      IsRoute row.toObjectColumns → row.ipPrefix ≠ none)
    (hrun : routePreferenceUpdateRun s h = some h') :
    StatusesFollowPreferences s h'.committed.objects.rows ↔
      HasPreference s ∨ ∀ row ∈ h.committed.objects.rows, IsRoute row.toObjectColumns →
        row.routePreferenceStatus ≠ .suppressed := by
  obtain ⟨h₁, heval, hcommit⟩ := Option.bind_eq_some_iff.mp hrun
  by_cases hpreference : HasPreference s
  · refine iff_of_true ?_ (Or.inl hpreference)
    obtain ⟨status, hset, hloaded, -⟩ := evaluateRoutePreference_statuses hpreference rfl hunique
      hprefixes heval
    obtain ⟨hbuffer, hchanged⟩ := evaluateRoutePreference_frame rfl heval
    rw [commit_objects hbuffer hchanged hcommit]
    refine statusesFollowPreferences_set hset (fun row hrow hroute ↦ ?_)
    rw [hloaded row hrow ⟨hroute, Or.inl rfl⟩]
    exact outranked_loadedObjects
  · rw [or_iff_right hpreference]
    have hkept : connect h = h₁ :=
      Option.some_inj.mp ((evaluateRoutePreference_none hpreference []).symm.trans heval)
    have hobjects : h'.committed.objects = h.committed.objects := by
      rw [← hkept] at hcommit
      exact commit_objects rfl rfl hcommit
    rw [hobjects]
    refine forall_congr' (fun row ↦ forall_congr' (fun _ ↦ forall_congr' (fun _ ↦ ?_)))
    simp [not_outranked hpreference]

/-- A route of a source, suppressed or not. -/
def preferredRoute (pk : Nat) (source : String) (status : RoutePreferenceStatus) :
    RPSLDatabaseObject :=
  { storedRoute pk source with routePreferenceStatus := status }

/-- Two routes for one prefix, where the statuses are not those of the preferences. -/
def unevaluatedRoutes : DatabaseHandler :=
  handlerOn [preferredRoute 0 "LOW" .visible, preferredRoute 1 "HIGH" .suppressed] (by decide)

theorem routePreferenceUpdateRun_unevaluatedRoutes :
    ∃ h', routePreferenceUpdateRun preferenceSettings unevaluatedRoutes = some h' ∧
      (StatusesFollowPreferences preferenceSettings h'.committed.objects.rows ↔
        HasPreference preferenceSettings ∨ ∀ row ∈ unevaluatedRoutes.committed.objects.rows,
          IsRoute row.toObjectColumns → row.routePreferenceStatus ≠ .suppressed) := by
  have hrun : (routePreferenceUpdateRun preferenceSettings unevaluatedRoutes).isSome = true := rfl
  obtain ⟨h', hrun⟩ := Option.isSome_iff_exists.mp hrun
  refine ⟨h', hrun, routePreferenceUpdateRun_iff ?_ ?_ hrun⟩
  · show [0, 1].Nodup
    decide
  · intro row hrow _
    have hrows : unevaluatedRoutes.committed.objects.rows.all (fun row ↦ row.ipPrefix.isSome) =
      true := rfl
    exact Option.isSome_iff_ne_none.mp (List.all_eq_true.mp hrows row hrow)

/-- Once no source has a preference any more, a suppressed route stays suppressed. -/
theorem routePreferenceUpdateRun_withoutPreferences :
    let s : Settings := ⟨false, none, [("LOW", ⟨true, false, false, none, none⟩)]⟩
    let h := handlerOn [preferredRoute 0 "LOW" .suppressed] (by decide)
    ∃ h', routePreferenceUpdateRun s h = some h' ∧
      ¬ StatusesFollowPreferences s h'.committed.objects.rows := by
  refine ⟨_, rfl, fun hstatuses ↦ ?_⟩
  have hsuppressed := (hstatuses (preferredRoute 0 "LOW" .suppressed) List.mem_cons_self
    (Or.inl rfl)).mp rfl
  exact not_outranked (by unfold HasPreference; decide) _ _ hsuppressed

end Results

end Irrd.Mirroring
