import Irrd.Routepref.Evaluation
import Irrd.Storage.BufferedWriting
import Irrd.Storage.JournalReplayRun

/-!
# Incremental evaluation

Before a commit, route preferences are evaluated for the prefixes of changed routes only. This
compares the statuses with those of a full evaluation.
-/

namespace Irrd.Storage

open Irrd.Base Irrd.Conf Irrd.Routepref Irrd.Rpsl Irrd.Utils

section Tracking

variable {s : Settings} {h h' : DatabaseHandler}

/-- A flush changes no prefix to evaluate. -/
theorem prefixesTracked_upsert {limit : Nat} {o : RPSLObject} {origin : JournalEntryOrigin}
    {guaranteed : Bool} {sourceSerial created : Option Nat}
    (hupsert : h.upsertWithLimit s limit o origin guaranteed sourceSerial created = some h') :
    PrefixesTracked h h' none [h.objectColumns o] := by
  obtain ⟨h₁, hseen, hfull⟩ := Option.bind_eq_some_iff.mp hupsert
  have hbefore : h₁.changedObjectsTracker = h.changedObjectsTracker := by
    unfold DatabaseHandler.flushIfSeen at hseen
    split at hseen
    · exact (flush_objects hseen).2.2
    · cases hseen
      rfl
  have hafter : h'.changedObjectsTracker =
      (h₁.bufferUpsert o origin sourceSerial created).changedObjectsTracker := by
    unfold DatabaseHandler.flushIfLonger at hfull
    split at hfull
    · exact (flush_objects hfull).2.2
    · cases hfull
      rfl
  have hchanged : (o.ipPrefix.map ChangedPrefix.ofObject).map ChangedPrefix.network =
      (h.objectColumns o).ipPrefix := by
    cases hprefix : o.ipPrefix <;>
      simp [ChangedPrefix.network, DatabaseHandler.objectColumns, hprefix]
  exact (prefixesTracked_objectModified h₁ (h.objectColumns o) hchanged none).of_eq hbefore hafter

end Tracking

/-- Calls for objects as they are parsed: visible, and a route with the prefix of its primary
key. -/
def ParsedObjects (prefixOf : String → IP) : WriteCall → Prop
  | .upsertRpslObject o _ _ _ => o.routePreferenceStatus = .visible ∧
    (o.rpslObjectClass ∈ rpkiRelevantObjectClasses → o.ipPrefix = some (prefixOf o.pk))
  | .deleteRpslObject origin _ _ _ => origin ≠ .routePreference
  | _ => True

/-- The objects and those at the start of the transaction differ in routes with prefixes to
evaluate, and in visible routes of the pseudo source. -/
structure TrackedChanges (prefixOf : String → IP) (start : List ObjectColumns)
    (t : SequentialStore) (prefixes : List IP) : Prop where
  unique : t.objects.PksUnique
  fresh : ∀ row ∈ t.objects.rows, row.pk < t.nextPk
  route : ∀ row ∈ t.objects.rows, IsRoute row.toObjectColumns →
    row.ipPrefix = some (prefixOf row.rpslPk)
  added : ∀ row ∈ t.objects.rows, IsRoute row.toObjectColumns → row.toObjectColumns ∈ start ∨
    prefixOf row.rpslPk ∈ prefixes ∨
      row.source = rpkiIrrPseudoSource ∧ row.routePreferenceStatus = .visible
  removed : ∀ c ∈ start, IsRoute c → (∃ row ∈ t.objects.rows, row.toObjectColumns = c) ∨
    (∃ p ∈ c.ipPrefix, p ∈ prefixes) ∨ c.source = rpkiIrrPseudoSource

section Changes

variable {prefixOf : String → IP} {start : List ObjectColumns} {t : SequentialStore}
  {prefixes : List IP}

theorem TrackedChanges.mono {prefixes' : List IP}
    (htracked : TrackedChanges prefixOf start t prefixes) (hsub : prefixes ⊆ prefixes') :
    TrackedChanges prefixOf start t prefixes' where
  unique := htracked.unique
  fresh := htracked.fresh
  route := htracked.route
  added row hrow hroute := (htracked.added row hrow hroute).imp_right (Or.imp_left (@hsub _))
  removed c hc hroute := (htracked.removed c hc hroute).imp_right
    (Or.imp_left (fun ⟨p, hp, hmem⟩ ↦ ⟨p, hp, hsub hmem⟩))

/-- Rows after a row is inserted or replaced: those with another key, and the new one. -/
theorem mem_upsertRow {objects : ObjectTable} {new row : RPSLDatabaseObject} :
    (row ∈ (DatabaseHandler.upsertRow objects new).rows →
      row.toObjectColumns = new.toObjectColumns ∨ row ∈ objects.rows) ∧
      (row ∈ objects.rows → row.key ≠ new.key →
        row ∈ (DatabaseHandler.upsertRow objects new).rows) := by
  unfold DatabaseHandler.upsertRow KeyedTable.upsert
  split
  · next u hu =>
    rw [(KeyedTable.append_eq_some hu).2, List.mem_append, List.mem_singleton]
    refine ⟨fun hrow ↦ hrow.symm.imp_left (fun hsame ↦ ?_), fun hrow _ ↦ Or.inl hrow⟩
    rw [hsame]
  · unfold KeyedTable.map
    simp only [List.mem_map]
    refine ⟨?_, fun hrow hne ↦ ⟨row, hrow, if_neg hne⟩⟩
    rintro ⟨old, hold, rfl⟩
    split
    · exact Or.inl rfl
    · exact Or.inr hold

/-- An upsert of an object as it is parsed, whose prefix is tracked. -/
theorem TrackedChanges.write {now : Nat} {b : BufferedUpsert}
    (htracked : TrackedChanges prefixOf start t prefixes)
    (hvisible : b.columns.routePreferenceStatus = .visible)
    (hroute : IsRoute b.columns → b.columns.ipPrefix = some (prefixOf b.columns.rpslPk))
    (hmem : IsRoute b.columns → b.columns.source ≠ rpkiIrrPseudoSource →
      prefixOf b.columns.rpslPk ∈ prefixes) :
    TrackedChanges prefixOf start (t.write now b) prefixes := by
  have hwritten : RowsWritten t.objects
      ([t.newRow now b].foldl DatabaseHandler.upsertRow t.objects) [t.newRow now b] :=
    rowsWritten_upsert (List.nodup_singleton _)
  have hnodup : ((t.objects.rows ++ [t.newRow now b]).map RPSLDatabaseObject.pk).Nodup := by
    rw [List.map_append, List.nodup_append]
    refine ⟨htracked.unique, List.nodup_singleton _, fun pk hpk pk' hpk' he ↦ ?_⟩
    obtain ⟨row, hrow, rfl⟩ := List.mem_map.mp hpk
    have hlt := htracked.fresh row hrow
    have hnew : pk' = t.nextPk := List.mem_singleton.mp hpk'
    omega
  obtain ⟨hunique, hrows⟩ := hwritten.pks hnodup
  refine ⟨hunique, fun row hrow ↦ ?_, fun row hrow hisRoute ↦ ?_, fun row hrow hisRoute ↦ ?_,
    fun c hc hisRoute ↦ ?_⟩
  · obtain ⟨row', hrow', hpk⟩ := hrows row hrow
    rw [← hpk]
    rcases List.mem_append.mp hrow' with hrow' | hrow'
    · exact Nat.lt_succ_of_lt (htracked.fresh row' hrow')
    · rw [List.mem_singleton.mp hrow']
      exact Nat.lt_succ_self _
  · rcases mem_upsertRow.1 hrow with hnew | hold
    · have hnew : row.toObjectColumns = b.columns := hnew
      rw [hnew] at hisRoute ⊢
      exact hroute hisRoute
    · exact htracked.route row hold hisRoute
  · rcases mem_upsertRow.1 hrow with hnew | hold
    · have hnew : row.toObjectColumns = b.columns := hnew
      rw [hnew] at hisRoute ⊢
      by_cases hsource : b.columns.source = rpkiIrrPseudoSource
      · exact Or.inr (Or.inr ⟨hsource, hvisible⟩)
      · exact Or.inr (Or.inl (hmem hisRoute hsource))
    · exact htracked.added row hold hisRoute
  · rcases htracked.removed c hc hisRoute with ⟨row, hrow, rfl⟩ | hrest
    · by_cases hkey : row.key = (t.newRow now b).key
      · -- The old row has the key of the new one, and so its prefix and its source.
        have hpk : row.rpslPk = b.columns.rpslPk := congrArg ObjectKey.rpslPk hkey
        have hsource : row.source = b.columns.source := congrArg ObjectKey.source hkey
        have hclass : row.objectClass = b.columns.objectClass := congrArg ObjectKey.objectClass hkey
        have hnewRoute : IsRoute b.columns := by
          unfold IsRoute at hisRoute ⊢
          rwa [← hclass]
        by_cases hpseudo : row.source = rpkiIrrPseudoSource
        · exact Or.inr (Or.inr hpseudo)
        · refine Or.inr (Or.inl ⟨_, htracked.route row hrow hisRoute, ?_⟩)
          rw [hpk]
          exact hmem hnewRoute (hsource ▸ hpseudo)
      · exact Or.inl ⟨row, mem_upsertRow.2 hrow hkey, rfl⟩
    · exact Or.inr hrest

/-- Removing rows whose prefixes are tracked. -/
theorem TrackedChanges.remove {rows : List RPSLDatabaseObject} {origin : JournalEntryOrigin}
    {sourceSerial : Option Nat} {nextPk : Nat}
    (htracked : TrackedChanges prefixOf start t prefixes)
    (hpk : t.nextPk ≤ nextPk)
    (hmem : ∀ row ∈ rows, IsRoute row.toObjectColumns → row.source ≠ rpkiIrrPseudoSource →
      ∀ p ∈ row.ipPrefix, p ∈ prefixes) :
    TrackedChanges prefixOf start { t.remove rows origin sourceSerial with nextPk } prefixes := by
  have hkept {row : RPSLDatabaseObject}
      (hrow : row ∈ t.objects.rows.filter (fun row ↦ row ∉ rows)) : row ∈ t.objects.rows :=
    (List.mem_filter.mp hrow).1
  refine ⟨htracked.unique.filter _, fun row hrow ↦ ?_,
    fun row hrow ↦ htracked.route row (hkept hrow),
    fun row hrow ↦ htracked.added row (hkept hrow), fun c hc hroute ↦ ?_⟩
  · exact Nat.lt_of_lt_of_le (htracked.fresh row (hkept hrow)) hpk
  · rcases htracked.removed c hc hroute with ⟨row, hrow, rfl⟩ | hrest
    · by_cases hremoved : row ∈ rows
      · by_cases hpseudo : row.source = rpkiIrrPseudoSource
        · exact Or.inr (Or.inr hpseudo)
        · have hp := htracked.route row hrow hroute
          exact Or.inr (Or.inl ⟨_, hp, hmem row hremoved hroute hpseudo _ hp⟩)
      · exact Or.inl ⟨row, List.mem_filter.mpr ⟨hrow, decide_eq_true hremoved⟩, rfl⟩
    · exact Or.inr hrest

end Changes

section Run

variable {s : Settings} {limit : Nat} {prefixOf : String → IP} {start : List ObjectColumns}
  {h₀ h h' : DatabaseHandler} {t : SequentialStore}

/-- Rows with the same contents have the same columns. -/
theorem exists_of_contents {rows rows' : List RPSLDatabaseObject}
    (hsame : rows.map RPSLDatabaseObject.contents = rows'.map RPSLDatabaseObject.contents)
    {row : RPSLDatabaseObject} (hrow : row ∈ rows') :
    ∃ row' ∈ rows, row'.toObjectColumns = row.toObjectColumns ∧ row'.pk = row.pk := by
  have hmem : row.contents ∈ rows.map RPSLDatabaseObject.contents :=
    hsame ▸ List.mem_map_of_mem hrow
  obtain ⟨row', hrow', heq⟩ := List.mem_map.mp hmem
  exact ⟨row', hrow', congrArg Prod.fst heq, congrArg Prod.snd heq⟩

theorem isRoute_iff (c : ObjectColumns) :
    IsRoute c ↔ c.objectClass ∈ rpkiRelevantObjectClasses := by
  simp [IsRoute, rpkiRelevantObjectClasses]

/-- Every call keeps track of the prefixes of changed routes. -/
theorem TrackedChanges.call {now : Nat} {c : WriteCall} (hview : BufferedView s h₀ h t)
    (htracked : TrackedChanges prefixOf start t h.changedObjectsTracker.filterPrefixes)
    (hparsed : ParsedObjects prefixOf c) (hcall : h.call s limit now c = some h') :
    TrackedChanges prefixOf start (t.call { h with now }.objectColumns now c)
      h'.changedObjectsTracker.filterPrefixes := by
  have hnow : BufferedView s h₀ { h with now } t :=
    hview.congr rfl rfl rfl rfl rfl hview.guaranteed
  have hremove {h₁ : DatabaseHandler} {rows rows' : List RPSLDatabaseObject}
      {origin : JournalEntryOrigin} {sourceSerial : Option Nat} {nextPk : Nat}
      (hremoved : RowsRemoved s { h with now } h₁ h' rows origin sourceSerial)
      (horigin : origin ≠ .routePreference) (hpk : t.nextPk ≤ nextPk)
      (hsame : rows.map RPSLDatabaseObject.contents = rows'.map RPSLDatabaseObject.contents) :
      TrackedChanges prefixOf start { t.remove rows' origin sourceSerial with nextPk }
        h'.changedObjectsTracker.filterPrefixes := by
    have hflushed : h₁.changedObjectsTracker = h.changedObjectsTracker :=
      (flush_objects hremoved.flush).2.2
    have hsub := hremoved.tracked.subset
    rw [hflushed] at hsub
    refine (htracked.mono hsub).remove hpk (fun row hrow hroute hsource p hp ↦ ?_)
    obtain ⟨row', hrow', hcolumns, -⟩ := exists_of_contents hsame hrow
    exact hremoved.tracked.tracked (fun he ↦ horigin (Option.some_inj.mp he)) row.toObjectColumns
      (hcolumns ▸ List.mem_map_of_mem hrow') ((isRoute_iff _).mp hroute) hsource p hp
  cases c with
  | upsertRpslObject o origin sourceSerial created =>
    obtain ⟨hvisible, hprefixOf⟩ := hparsed
    obtain ⟨hsub, hmem⟩ := prefixesTracked_upsert hcall
    refine (htracked.mono hsub).write hvisible (fun hroute ↦ ?_) (fun hroute hsource ↦ ?_)
    · exact hprefixOf ((isRoute_iff _).mp hroute)
    · have hroute := (isRoute_iff _).mp hroute
      exact hmem (by simp) _ (List.mem_singleton_self _) hroute hsource _ (hprefixOf hroute)
  | executeQuery =>
    have hflushed : h'.changedObjectsTracker = h.changedObjectsTracker := (flush_objects hcall).2.2
    rw [hflushed]
    exact htracked
  | deleteRpslObject origin a sourceSerial protect =>
    obtain ⟨h₁, hremoved, -⟩ := rowsRemoved_delete hcall
    obtain ⟨hview₁, hempty, -⟩ := hnow.flush hremoved.flush
    exact hremove hremoved hparsed (Nat.le_refl _) (hview₁.found hempty a.key)
  | suspendRpslObject pk =>
    obtain ⟨h₁, hremoved, -⟩ := rowsRemoved_suspend hcall
    obtain ⟨hview₁, hempty, -⟩ := hnow.flush hremoved.flush
    exact hremove hremoved (by simp) (Nat.le_add_right _ _) (hview₁.foundByPk hempty pk)

end Run

section Evaluation

variable {s : Settings} {h h' : DatabaseHandler}

/-- What an evaluation before a commit does to the rows: it sets the status of routes that it
loads, by the routes that it loads. -/
structure StatusesSet (s : Settings) (prefixes : List IP) (rows rows' : List RPSLDatabaseObject)
    (status : RPSLDatabaseObject → RoutePreferenceStatus) : Prop where
  set : rows' = rows.map (fun row ↦ { row with routePreferenceStatus := status row })
  loaded : ∀ row ∈ rows, prefixes ≠ [] → Loaded prefixes row.toObjectColumns →
    (status row = .suppressed ↔ Outranked s (loadedObjects prefixes
      (rows.map RPSLDatabaseObject.toObjectColumns)) row.toObjectColumns)
  kept : ∀ row ∈ rows, prefixes = [] ∨ ¬ Loaded prefixes row.toObjectColumns →
    status row = row.routePreferenceStatus

/-- Row keys of some of the rows. -/
theorem mem_map_toDict_pk {rows changed : List RPSLDatabaseObject}
    (hunique : (rows.map RPSLDatabaseObject.pk).Nodup) (hsub : changed ⊆ rows)
    {row : RPSLDatabaseObject} (hrow : row ∈ rows) :
    row.pk ∈ (changed.map RPSLDatabaseObject.toDict).map RPSLObjectDict.pk ↔ row ∈ changed := by
  rw [List.map_map]
  constructor
  · intro hpk
    obtain ⟨other, hother, hsame⟩ := List.mem_map.mp hpk
    rwa [← List.inj_on_of_nodup_map hunique (hsub hother) hrow hsame]
  · exact List.mem_map_of_mem (f := RPSLObjectDict.pk ∘ RPSLDatabaseObject.toDict)

/-- Setting statuses by row keys. -/
theorem rows_setRoutePreferenceStatus (h : DatabaseHandler) (visible suppressed : List Nat) :
    ((h.setRoutePreferenceStatus .visible visible).setRoutePreferenceStatus .suppressed
      suppressed).working.objects.rows = h.working.objects.rows.map (fun row ↦
        { row with routePreferenceStatus := if row.pk ∈ suppressed then .suppressed
          else if row.pk ∈ visible then .visible else row.routePreferenceStatus }) := by
  simp only [DatabaseHandler.setRoutePreferenceStatus, DatabaseHandler.updateObjects,
    KeyedTable.map, List.map_map]
  refine List.map_congr_left (fun row _ ↦ ?_)
  by_cases hvisible : row.pk ∈ visible <;> by_cases hsuppressed : row.pk ∈ suppressed <;>
    simp [hvisible, hsuppressed]

/-- What an evaluation does to the rows, where some source has a preference: the routes that it
loads get the statuses that follow from the routes that it loads. -/
theorem evaluateRoutePreference_statuses {prefixes : List IP} (hpreference : HasPreference s)
    (hempty : h.rpslUpsertBuffer = []) (hunique : h.working.objects.PksUnique)
    (hprefixes : ∀ row ∈ h.working.objects.rows, IsRoute row.toObjectColumns → row.ipPrefix ≠ none)
    (heval : h.evaluateRoutePreference s prefixes = some h') :
    ∃ status : RPSLDatabaseObject → RoutePreferenceStatus,
      h'.working.objects.rows = h.working.objects.rows.map (fun row ↦
          { row with routePreferenceStatus := status row }) ∧
        (∀ row ∈ h.working.objects.rows, Loaded prefixes row.toObjectColumns →
          (status row = .suppressed ↔ Outranked s (loadedObjects prefixes
            (h.working.objects.rows.map RPSLDatabaseObject.toObjectColumns))
              row.toObjectColumns)) ∧
        ∀ row ∈ h.working.objects.rows, ¬ Loaded prefixes row.toObjectColumns →
          status row = row.routePreferenceStatus := by
  obtain ⟨nowVisible, nowSuppressed, hchanged⟩ := exists_changedRoutes hpreference
    h.working.objects.rows prefixes
  obtain ⟨_, _, hnonempty⟩ := exists_changedRoutes hpreference [] prefixes
  have hmem := mem_changedRoutes hunique hprefixes hchanged
  obtain ⟨hsubVisible, hsubSuppressed⟩ := changedRoutes_sublist hchanged
  unfold DatabaseHandler.evaluateRoutePreference DatabaseHandler.flushRpslObjectWritingBuffer
    at heval
  rw [if_pos hempty, hnonempty, if_neg (by simp)] at heval
  simp only [Option.bind_eq_bind, Option.bind_some, hchanged] at heval
  obtain ⟨h₁, hvisible, heval⟩ := Option.bind_eq_some_iff.mp heval
  obtain ⟨h₂, hsuppressed, heval⟩ := Option.bind_eq_some_iff.mp heval
  cases heval
  have hobjects : h₂.working.objects = h.working.objects :=
    (recordDicts_frame hsuppressed).2.trans (recordDicts_frame hvisible).2
  refine ⟨_, (rows_setRoutePreferenceStatus h₂ _ _).trans (by rw [hobjects]), ?_, ?_⟩
  · intro row hrow hloaded
    obtain ⟨hnowVisible, hnowSuppressed⟩ := hmem row
    simp only [hrow, hloaded, true_and] at hnowVisible hnowSuppressed
    split
    · next hpk =>
      rw [mem_map_toDict_pk hunique hsubSuppressed.subset hrow, hnowSuppressed] at hpk
      exact iff_of_true rfl hpk.2
    · next hpkSuppressed =>
      rw [mem_map_toDict_pk hunique hsubSuppressed.subset hrow, hnowSuppressed] at hpkSuppressed
      split
      · next hpk =>
        rw [mem_map_toDict_pk hunique hsubVisible.subset hrow, hnowVisible] at hpk
        exact iff_of_false (by simp) hpk.2
      · next hpkVisible =>
        rw [mem_map_toDict_pk hunique hsubVisible.subset hrow, hnowVisible] at hpkVisible
        cases hstatus : row.routePreferenceStatus <;> simp_all
  · intro row hrow hnot
    obtain ⟨hnowVisible, hnowSuppressed⟩ := hmem row
    rw [← mem_map_toDict_pk hunique hsubVisible.subset hrow] at hnowVisible
    rw [← mem_map_toDict_pk hunique hsubSuppressed.subset hrow] at hnowSuppressed
    rw [if_neg (fun hpk ↦ hnot (hnowSuppressed.mp hpk).2.1),
      if_neg (fun hpk ↦ hnot (hnowVisible.mp hpk).2.1)]

theorem preCommit_statuses (hpreference : HasPreference s) (hempty : h.rpslUpsertBuffer = [])
    (hunique : h.working.objects.PksUnique)
    (hprefixes : ∀ row ∈ h.working.objects.rows, IsRoute row.toObjectColumns → row.ipPrefix ≠ none)
    (hpre : h.preCommit s = some h') :
    ∃ status, StatusesSet s h.changedObjectsTracker.filterPrefixes
      h.working.objects.rows h'.working.objects.rows status := by
  unfold DatabaseHandler.preCommit at hpre
  dsimp only at hpre
  split at hpre
  · next hnone =>
    cases hpre
    refine ⟨fun row ↦ row.routePreferenceStatus, ?_, fun row _ hsome ↦ absurd hnone hsome,
      fun row _ _ ↦ rfl⟩
    exact (List.map_id' _).symm
  · next hsome =>
    obtain ⟨status, hset, hloaded, hkept⟩ := evaluateRoutePreference_statuses hpreference hempty
      hunique hprefixes hpre
    exact ⟨status, hset, fun row hrow _ ↦ hloaded row hrow,
      fun row hrow hnot ↦ hkept row hrow (hnot.resolve_left hsome)⟩

end Evaluation

/-- Every route near the prefixes that another one outranks is also outranked by a route near the
prefixes. -/
def RankedNear (s : Settings) (prefixes : List IP) (objects : List ObjectColumns) : Prop :=
  ∀ c ∈ objects, IsRoute c → Near prefixes c → Outranked s objects c →
    ∃ other ∈ objects, Near prefixes other ∧ Outranks s other c

/-- Every other route is suppressed exactly if another one outranks it. -/
def EvaluatedAway (s : Settings) (prefixes : List IP) (objects : List ObjectColumns) : Prop :=
  ∀ c ∈ objects, IsRoute c → ¬ Near prefixes c →
    (c.routePreferenceStatus = .suppressed ↔ Outranked s objects c)

/-- A handler on fully evaluated routes, with no changes yet. -/
structure EvaluatedStart (s : Settings) (prefixOf : String → IP) (h : DatabaseHandler) :
    Prop where
  evaluated : FullyEvaluated s h.working.objects.rows
  unique : h.working.objects.PksUnique
  fresh : ∀ row ∈ h.working.objects.rows, row.pk < h.nextPk
  route : ∀ row ∈ h.working.objects.rows, IsRoute row.toObjectColumns →
    row.ipPrefix = some (prefixOf row.rpslPk)
  unchanged : h.changedObjectsTracker.filterPrefixes = []

/-- The columns of all objects. -/
def ObjectTable.columns (t : ObjectTable) : List ObjectColumns :=
  t.rows.map RPSLDatabaseObject.toObjectColumns

section Commit

variable {s : Settings} {limit now : Nat} {prefixOf : String → IP} {initial t : WriteRun}
  {h' : DatabaseHandler}

theorem trackedChanges_of_reaches (hinitial : InitialWrites initial)
    (hstart : EvaluatedStart s prefixOf initial.handler)
    (hreach : Reaches (writeStep s limit) (fun _ a ↦ ParsedObjects prefixOf a.2) initial t) :
    TrackedChanges prefixOf initial.handler.working.objects.columns t.store
      t.handler.changedObjectsTracker.filterPrefixes := by
  have hfirst : TrackedChanges prefixOf initial.handler.working.objects.columns initial.store
      initial.handler.changedObjectsTracker.filterPrefixes := by
    rw [hinitial.store]
    refine ⟨hstart.unique, hstart.fresh, hstart.route, fun row hrow _ ↦ Or.inl ?_,
      fun c hc _ ↦ Or.inl (List.mem_map.mp hc)⟩
    exact List.mem_map_of_mem hrow
  refine (hreach.invariant (P := fun t ↦ BufferedView s initial.handler t.handler t.store ∧
    TrackedChanges prefixOf initial.handler.working.objects.columns t.store
      t.handler.changedObjectsTracker.filterPrefixes) ?_ ⟨hinitial.view, hfirst⟩).2
  intro t u a hinv hparsed hstep
  obtain ⟨h, hcall, rfl⟩ := Option.map_eq_some_iff.mp hstep
  exact ⟨hinv.1.call hcall, hinv.2.call hinv.1 hparsed hcall⟩

/-- Routes away from the changed prefixes are outranked by the routes that outranked them at the
start. -/
theorem evaluatedAway_of_trackedChanges {rows : List RPSLDatabaseObject} {store : SequentialStore}
    {prefixes : List IP}
    (hpreference : HasPreference s) (hunique : (rows.map RPSLDatabaseObject.pk).Nodup)
    (hroute : ∀ row ∈ rows, IsRoute row.toObjectColumns → row.ipPrefix = some (prefixOf row.rpslPk))
    (hevaluated : FullyEvaluated s rows)
    (htracked : TrackedChanges prefixOf
      (rows.map RPSLDatabaseObject.toObjectColumns) store prefixes)
    (hreserved : (preferencesOfSources s).lookup rpkiIrrPseudoSource = none) :
    EvaluatedAway s prefixes store.objects.columns := by
  have hstatuses := (fullyEvaluated_iff hpreference hunique (fun row hrow hisRoute ↦ by
    rw [hroute row hrow hisRoute]
    exact Option.some_ne_none _)).mp hevaluated
  have hranked {other c : ObjectColumns} (houtranks : Outranks s other c) :
      other.source ≠ rpkiIrrPseudoSource ∧ c.source ≠ rpkiIrrPseudoSource := by
    obtain ⟨-, ⟨n, hn, m, hm, -⟩, -⟩ := houtranks
    refine ⟨fun hsource ↦ ?_, fun hsource ↦ ?_⟩
    · rw [preference, hsource, hreserved] at hm
      cases hm
    · rw [preference, hsource, hreserved] at hn
      cases hn
  intro c hc hisRoute haway
  obtain ⟨row, hrow, rfl⟩ := List.mem_map.mp hc
  have hprefixOf := htracked.route row hrow hisRoute
  -- A route that outranks this one overlaps it, so its prefix did not change.
  have hunchanged {other : ObjectColumns} (houtranks : Outranks s other row.toObjectColumns) :
      ∀ p ∈ other.ipPrefix, p ∉ prefixes := by
    intro p hp hmem
    obtain ⟨-, -, q, hq, p', hp', hoverlaps⟩ := houtranks
    cases Option.mem_unique hp hp'
    exact haway ⟨q, hq, p, hmem, overlaps_comm q p ▸ hoverlaps⟩
  have hsame : Outranked s (rows.map RPSLDatabaseObject.toObjectColumns) row.toObjectColumns ↔
      Outranked s store.objects.columns row.toObjectColumns := by
    constructor
    · rintro ⟨other, hother, houtranks⟩
      rcases htracked.removed other hother houtranks.1 with ⟨row', hrow', rfl⟩ | ⟨p, hp, hmem⟩ |
        hpseudo
      · exact ⟨_, List.mem_map_of_mem hrow', houtranks⟩
      · exact absurd hmem (hunchanged houtranks p hp)
      · exact absurd hpseudo (hranked houtranks).1
    · rintro ⟨other, hother, houtranks⟩
      obtain ⟨row', hrow', rfl⟩ := List.mem_map.mp hother
      rcases htracked.added row' hrow' houtranks.1 with hstart | hmem | ⟨hpseudo, -⟩
      · exact ⟨_, hstart, houtranks⟩
      · exact absurd hmem (hunchanged houtranks _ (htracked.route row' hrow' houtranks.1))
      · exact absurd hpseudo (hranked houtranks).1
  rw [← hsame]
  rcases htracked.added row hrow hisRoute with hstart | hmem | ⟨hpseudo, hvisible⟩
  · obtain ⟨row', hrow', hcolumns⟩ := List.mem_map.mp hstart
    rw [← hcolumns]
    exact hstatuses row' hrow' (hcolumns ▸ hisRoute)
  · exact absurd ⟨_, hprefixOf, _, hmem, overlaps_refl _⟩ haway
  · refine iff_of_false (by simp [hvisible]) ?_
    rintro ⟨other, -, houtranks⟩
    exact (hranked houtranks).2 hpseudo

/-- Which routes an evaluation loads: all where there are too many prefixes. -/
theorem loaded_iff {prefixes : List IP} (c : ObjectColumns) (hsome : prefixes ≠ []) :
    Loaded prefixes c ↔ IsRoute c ∧ (maxFilterPrefixLen < prefixes.length ∨ Near prefixes c) := by
  unfold Loaded restriction
  split
  · next hlong => simp [hlong]
  · next hshort => simp [hshort, hsome]

section Sets

variable {prefixes : List IP} {rows rows' : List RPSLDatabaseObject} {row : RPSLDatabaseObject}
  {status : RPSLDatabaseObject → RoutePreferenceStatus}

/-- Statuses do not decide which routes outrank others. -/
theorem StatusesSet.outranked (hset : StatusesSet s prefixes rows rows' status)
    (row : RPSLDatabaseObject) :
    Outranked s (rows'.map RPSLDatabaseObject.toObjectColumns)
      { row with routePreferenceStatus := status row } ↔
        Outranked s (rows.map RPSLDatabaseObject.toObjectColumns) row.toObjectColumns := by
  rw [hset.set, List.map_map]
  constructor
  · refine Outranked.congr (fun other hother ↦ ?_) rfl
    obtain ⟨row', hrow', rfl⟩ := List.mem_map.mp hother
    exact ⟨_, List.mem_map_of_mem hrow', rfl⟩
  · refine Outranked.congr (fun other hother ↦ ?_) rfl
    obtain ⟨row', hrow', rfl⟩ := List.mem_map.mp hother
    exact ⟨_, List.mem_map_of_mem hrow', rfl⟩

theorem StatusesSet.fullyEvaluated_iff (hset : StatusesSet s prefixes rows rows' status)
    (hpreference : HasPreference s) (hunique : (rows.map RPSLDatabaseObject.pk).Nodup)
    (hprefixes : ∀ row ∈ rows, IsRoute row.toObjectColumns → row.ipPrefix ≠ none) :
    FullyEvaluated s rows' ↔ ∀ row ∈ rows, IsRoute row.toObjectColumns →
      (status row = .suppressed ↔
        Outranked s (rows.map RPSLDatabaseObject.toObjectColumns) row.toObjectColumns) := by
  have hunique' : (rows'.map RPSLDatabaseObject.pk).Nodup := by
    rw [hset.set, List.map_map]
    exact hunique
  rw [Routepref.fullyEvaluated_iff hpreference hunique']
  · constructor
    · intro hall row hrow hroute
      have hrow' : { row with routePreferenceStatus := status row } ∈ rows' := by
        rw [hset.set]
        exact List.mem_map_of_mem hrow
      rw [← hset.outranked row]
      exact hall _ hrow' hroute
    · intro hall row' hrow' hroute
      rw [hset.set] at hrow'
      obtain ⟨row, hrow, rfl⟩ := List.mem_map.mp hrow'
      exact (hall row hrow hroute).trans (hset.outranked row).symm
  · intro row' hrow' hroute
    rw [hset.set] at hrow'
    obtain ⟨row, hrow, rfl⟩ := List.mem_map.mp hrow'
    exact hprefixes row hrow hroute

/-- With too many prefixes, every route gets its status from all routes. -/
theorem StatusesSet.long (hset : StatusesSet s prefixes rows rows' status)
    (hlong : maxFilterPrefixLen < prefixes.length) (hrow : row ∈ rows)
    (hroute : IsRoute row.toObjectColumns) :
    status row = .suppressed ↔
      Outranked s (rows.map RPSLDatabaseObject.toObjectColumns) row.toObjectColumns := by
  have hsome : prefixes ≠ [] := List.ne_nil_of_length_pos (Nat.zero_lt_of_lt hlong)
  rw [hset.loaded row hrow hsome ((loaded_iff _ hsome).mpr ⟨hroute, Or.inl hlong⟩)]
  constructor
  · rintro ⟨other, hother, houtranks⟩
    exact ⟨other, (List.mem_filter.mp hother).1, houtranks⟩
  · rintro ⟨other, hother, houtranks⟩
    refine ⟨other, List.mem_filter.mpr ⟨hother, decide_eq_true ?_⟩, houtranks⟩
    exact (loaded_iff _ hsome).mpr ⟨houtranks.1, Or.inl hlong⟩

/-- A route near the prefixes gets its status from the routes near them. -/
theorem StatusesSet.near (hset : StatusesSet s prefixes rows rows' status)
    (hshort : ¬ maxFilterPrefixLen < prefixes.length) (hrow : row ∈ rows)
    (hroute : IsRoute row.toObjectColumns) (hnear : Near prefixes row.toObjectColumns) :
    status row = .suppressed ↔ ∃ other ∈ rows.map RPSLDatabaseObject.toObjectColumns,
      Near prefixes other ∧ Outranks s other row.toObjectColumns := by
  have hsome : prefixes ≠ [] := by
    obtain ⟨q, -, p, hp, -⟩ := hnear
    exact List.ne_nil_of_mem hp
  rw [hset.loaded row hrow hsome ((loaded_iff _ hsome).mpr ⟨hroute, Or.inr hnear⟩)]
  constructor
  · rintro ⟨other, hother, houtranks⟩
    obtain ⟨hother, hloaded⟩ := List.mem_filter.mp hother
    have hloaded := (loaded_iff _ hsome).mp (of_decide_eq_true hloaded)
    exact ⟨other, hother, hloaded.2.resolve_left hshort, houtranks⟩
  · rintro ⟨other, hother, hnearOther, houtranks⟩
    refine ⟨other, List.mem_filter.mpr ⟨hother, decide_eq_true ?_⟩, houtranks⟩
    exact (loaded_iff _ hsome).mpr ⟨houtranks.1, Or.inr hnearOther⟩

/-- A route away from the prefixes keeps its status. -/
theorem StatusesSet.away (hset : StatusesSet s prefixes rows rows' status)
    (hshort : ¬ maxFilterPrefixLen < prefixes.length) (hrow : row ∈ rows)
    (haway : ¬ Near prefixes row.toObjectColumns) : status row = row.routePreferenceStatus := by
  refine hset.kept row hrow (or_iff_not_imp_left.mpr (fun hsome hloaded ↦ ?_))
  exact ((loaded_iff _ hsome).mp hloaded).2.elim hshort haway

/-- Setting the statuses of routes evaluates them fully exactly if there are too many prefixes, so
that every route is loaded, or every other route is evaluated already and those near the prefixes
can be without the others. -/
theorem StatusesSet.fullyEvaluated (hset : StatusesSet s prefixes rows rows' status)
    (hpreference : HasPreference s) (hunique : (rows.map RPSLDatabaseObject.pk).Nodup)
    (hprefixes : ∀ row ∈ rows, IsRoute row.toObjectColumns → row.ipPrefix ≠ none) :
    FullyEvaluated s rows' ↔ maxFilterPrefixLen < prefixes.length ∨
      RankedNear s prefixes (rows.map RPSLDatabaseObject.toObjectColumns) ∧
        EvaluatedAway s prefixes (rows.map RPSLDatabaseObject.toObjectColumns) := by
  rw [hset.fullyEvaluated_iff hpreference hunique hprefixes]
  by_cases hlong : maxFilterPrefixLen < prefixes.length
  · exact iff_of_true (fun row hrow hroute ↦ hset.long hlong hrow hroute) (Or.inl hlong)
  rw [or_iff_right hlong]
  constructor
  · intro hall
    refine ⟨fun c hc hroute hnear houtranked ↦ ?_, fun c hc hroute haway ↦ ?_⟩
    · obtain ⟨row, hrow, rfl⟩ := List.mem_map.mp hc
      exact (hset.near hlong hrow hroute hnear).mp ((hall row hrow hroute).mpr houtranked)
    · obtain ⟨row, hrow, rfl⟩ := List.mem_map.mp hc
      rw [← hall row hrow hroute, hset.away hlong hrow haway]
  · rintro ⟨hranked, hevaluated⟩ row hrow hroute
    by_cases hnear : Near prefixes row.toObjectColumns
    · rw [hset.near hlong hrow hroute hnear]
      constructor
      · rintro ⟨other, hother, -, houtranks⟩
        exact ⟨other, hother, houtranks⟩
      · exact hranked _ (List.mem_map_of_mem hrow) hroute hnear
    · rw [hset.away hlong hrow hnear]
      exact hevaluated _ (List.mem_map_of_mem hrow) hroute hnear

end Sets

/-- In every state of a run that starts with fully evaluated routes: the statuses that a commit
leaves are those of a full evaluation exactly if the changed prefixes are too many, or every route
near them that another one outranks is outranked by a route near them. Routes of the reserved
source are not followed: where it has a preference, routes away from the prefixes matter as
well. -/
theorem fullyEvaluated_commit_iff (hpreference : HasPreference s)
    (hinitial : InitialWrites initial) (hstart : EvaluatedStart s prefixOf initial.handler)
    (hreach : Reaches (writeStep s limit) (fun _ a ↦ ParsedObjects prefixOf a.2) initial t)
    (hcommit : { t.handler with now }.commit s = some h') :
    (FullyEvaluated s h'.committed.objects.rows ↔
      maxFilterPrefixLen < t.handler.changedObjectsTracker.filterPrefixes.length ∨
        RankedNear s t.handler.changedObjectsTracker.filterPrefixes t.store.objects.columns ∧
          EvaluatedAway s t.handler.changedObjectsTracker.filterPrefixes
            t.store.objects.columns) ∧
      ((preferencesOfSources s).lookup rpkiIrrPseudoSource = none →
        EvaluatedAway s t.handler.changedObjectsTracker.filterPrefixes
          t.store.objects.columns) := by
  have htracked := trackedChanges_of_reaches hinitial hstart hreach
  have hview : BufferedView s initial.handler { t.handler with now } t.store :=
    (view_of_reaches hinitial (hreach.mono (fun _ _ _ ↦ trivial))).congr rfl rfl rfl rfl rfl
      (view_of_reaches hinitial (hreach.mono (fun _ _ _ ↦ trivial))).guaranteed
  obtain ⟨h₃, h₄, hevaluated⟩ := hview.evaluatedCommit hcommit
  refine ⟨?_, evaluatedAway_of_trackedChanges hpreference hstart.unique hstart.route
    hstart.evaluated htracked⟩
  have hcolumns : h₃.working.objects.columns = t.store.objects.columns := by
    have hmap := congrArg (List.map Prod.fst) hevaluated.contents
    unfold ObjectTable.contents at hmap
    rwa [List.map_map, List.map_map] at hmap
  have hpks : h₃.working.objects.PksUnique := by
    have hsame : h₃.working.objects.rows.map RPSLDatabaseObject.pk =
        t.store.objects.rows.map RPSLDatabaseObject.pk := by
      have hmap := congrArg (List.map Prod.snd) hevaluated.contents
      unfold ObjectTable.contents at hmap
      rwa [List.map_map, List.map_map] at hmap
    unfold ObjectTable.PksUnique
    rw [hsame]
    exact htracked.unique
  have hprefixes : ∀ row ∈ h₃.working.objects.rows, IsRoute row.toObjectColumns →
      row.ipPrefix ≠ none := by
    intro row hrow hisRoute
    obtain ⟨row', hrow', hsame, -⟩ := exists_of_contents hevaluated.contents.symm hrow
    have hprefixOf := htracked.route row' hrow' (hsame ▸ hisRoute)
    rw [hsame] at hprefixOf
    rw [hprefixOf]
    exact Option.some_ne_none _
  obtain ⟨status, hset⟩ := preCommit_statuses hpreference hevaluated.buffer hpks hprefixes
    hevaluated.preCommit
  rw [hevaluated.changed] at hset
  rw [hevaluated.committed, ← hcolumns]
  exact hset.fullyEvaluated hpreference hpks hprefixes

end Commit

section Examples

/-- Two sources, one preferred. -/
def preferenceSettings : Settings :=
  ⟨false, none, [("LOW", ⟨true, false, false, some 100, none⟩),
    ("HIGH", ⟨true, false, false, some 200, none⟩)]⟩

/-- A route object of a source. -/
def sourceRoute (pk source : String) (ip : IP) : RPSLObject :=
  { routeObject .notFound with pk, source, ipPrefix := some ip, prefixLength := some ip.prefixlen }

/-- A route with less specific and more specific routes. -/
def lowRoute : RPSLObject := sourceRoute "10.0.0.0/16AS65530" "LOW" ⟨4, 0x0A000000, 16⟩

/-- A preferred route inside it. -/
def highRoute : RPSLObject := sourceRoute "10.0.2.0/24AS65530" "HIGH" ⟨4, 0x0A000200, 24⟩

/-- Another route inside it, next to the preferred one. -/
def nextRoute : RPSLObject := sourceRoute "10.0.1.0/24AS65530" "LOW" ⟨4, 0x0A000100, 24⟩

/-- The prefixes of these routes. -/
def examplePrefix (pk : String) : IP :=
  if pk = "10.0.0.0/16AS65530" then ⟨4, 0x0A000000, 16⟩
  else if pk = "10.0.2.0/24AS65530" then ⟨4, 0x0A000200, 24⟩
  else ⟨4, 0x0A000100, 24⟩

/-- Submit a route. -/
def routeCall (o : RPSLObject) : WriteCall := .upsertRpslObject o .authChange none none

/-- One call, with preferences. -/
def preferredStep : WriteRun → Nat × WriteCall → Option WriteRun :=
  writeStep preferenceSettings DatabaseHandler.maxRecordsBufferBeforeInsert

/-- The run after one more call. -/
def WriteRun.nextPreferred (t : WriteRun) (a : Nat × WriteCall)
    (hstep : (preferredStep t a).isSome) : WriteRun :=
  (preferredStep t a).get hstep

theorem WriteRun.step_nextPreferred (t : WriteRun) (a : Nat × WriteCall)
    (hstep : (preferredStep t a).isSome) :
    preferredStep t a = some (t.nextPreferred a hstep) :=
  (Option.some_get hstep).symm

/-- Both routes, before they are committed. -/
def bothRoutesRun : WriteRun :=
  (newWriteRun.nextPreferred (1, routeCall lowRoute) rfl).nextPreferred (2, routeCall highRoute) rfl

/-- A handler with both routes: the less preferred one is suppressed. -/
def preferredHandler : DatabaseHandler :=
  ({ bothRoutesRun.handler with now := 3 }.commit preferenceSettings).get rfl

/-- The next transaction. -/
def preferredRun : WriteRun :=
  ⟨preferredHandler, ⟨preferredHandler.working.objects, preferredHandler.nextPk, []⟩⟩

theorem parsedObjects_routeCall : ParsedObjects examplePrefix (routeCall lowRoute) ∧
    ParsedObjects examplePrefix (routeCall highRoute) ∧
    ParsedObjects examplePrefix (routeCall nextRoute) :=
  ⟨⟨rfl, fun _ ↦ rfl⟩, ⟨rfl, fun _ ↦ rfl⟩, ⟨rfl, fun _ ↦ rfl⟩⟩

theorem evaluatedStart_newHandler :
    EvaluatedStart preferenceSettings examplePrefix newHandler where
  evaluated := rfl
  unique := List.nodup_nil
  fresh _ hrow := (List.not_mem_nil hrow).elim
  route _ hrow := (List.not_mem_nil hrow).elim
  unchanged := rfl

theorem evaluatedStart_preferredHandler :
    EvaluatedStart preferenceSettings examplePrefix preferredHandler where
  evaluated := rfl
  unique := by
    show [0, 1].Nodup
    decide
  fresh := by
    intro row hrow
    have hrows : preferredHandler.working.objects.rows.all (fun row ↦
      row.pk < preferredHandler.nextPk) = true := rfl
    exact of_decide_eq_true (List.all_eq_true.mp hrows row hrow)
  route := by
    intro row hrow _
    have hrows : preferredHandler.working.objects.rows.all (fun row ↦
      row.ipPrefix = some (examplePrefix row.rpslPk)) = true := rfl
    exact of_decide_eq_true (List.all_eq_true.mp hrows row hrow)
  unchanged := rfl

/-- A commit of the first routes evaluates them fully exactly under the condition. -/
theorem fullyEvaluated_bothRoutesRun :
    (FullyEvaluated preferenceSettings preferredHandler.committed.objects.rows ↔
      maxFilterPrefixLen <
          bothRoutesRun.handler.changedObjectsTracker.filterPrefixes.length ∨
        RankedNear preferenceSettings
            bothRoutesRun.handler.changedObjectsTracker.filterPrefixes
            bothRoutesRun.store.objects.columns ∧
          EvaluatedAway preferenceSettings
            bothRoutesRun.handler.changedObjectsTracker.filterPrefixes
            bothRoutesRun.store.objects.columns) ∧
      ((preferencesOfSources preferenceSettings).lookup rpkiIrrPseudoSource = none →
        EvaluatedAway preferenceSettings
          bothRoutesRun.handler.changedObjectsTracker.filterPrefixes
          bothRoutesRun.store.objects.columns) := by
  have hinitial : InitialWrites newWriteRun := ⟨rfl, rfl⟩
  have hpreference : HasPreference preferenceSettings := rfl
  have hreach : Reaches preferredStep (fun _ a ↦ ParsedObjects examplePrefix a.2) newWriteRun
      bothRoutesRun := by
    refine Reaches.tail (a := (2, routeCall highRoute)) ?_ parsedObjects_routeCall.2.1
      (WriteRun.step_nextPreferred _ _ rfl)
    exact (Reaches.refl newWriteRun).tail (a := (1, routeCall lowRoute)) parsedObjects_routeCall.1
      (WriteRun.step_nextPreferred _ _ rfl)
  exact fullyEvaluated_commit_iff hpreference hinitial evaluatedStart_newHandler hreach
    (Option.some_get _).symm

/-- The less preferred route becomes visible when a route next to the preferred one is added. -/
theorem fullyEvaluated_nextRoute :
    HasPreference preferenceSettings ∧
      (preferencesOfSources preferenceSettings).lookup rpkiIrrPseudoSource = none ∧
      InitialWrites preferredRun ∧
      EvaluatedStart preferenceSettings examplePrefix preferredRun.handler ∧
      ∃ t h, Reaches preferredStep (fun _ a ↦ ParsedObjects examplePrefix a.2)
          preferredRun t ∧
        { t.handler with now := 5 }.commit preferenceSettings = some h ∧
        ¬ FullyEvaluated preferenceSettings h.committed.objects.rows := by
  refine ⟨rfl, rfl, ⟨rfl, rfl⟩, evaluatedStart_preferredHandler,
    preferredRun.nextPreferred (4, routeCall nextRoute) rfl, _, ?_, (Option.some_get ?_).symm, ?_⟩
  · exact (Reaches.refl preferredRun).tail (a := (4, routeCall nextRoute))
      parsedObjects_routeCall.2.2 (WriteRun.step_nextPreferred _ _ rfl)
  · rfl
  · intro hevaluated
    have hsuppressed := congrArg (fun c ↦ c.map (fun c ↦ c.2.map RPSLDatabaseObject.pk)) hevaluated
    revert hsuppressed
    decide

end Examples

end Irrd.Storage
