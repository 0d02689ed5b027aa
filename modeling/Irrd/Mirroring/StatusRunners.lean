import Irrd.Base.BulkRefresh
import Irrd.Rpki.Validators
import Irrd.Scopefilter.Validators
import Irrd.Storage.BufferedWriting
import Irrd.Storage.JournalReplaySteps

/-!
# Refreshing statuses

Runners evaluate all stored objects again when the scope filter or the ROAs have changed. Source:
`irrd/mirroring/mirror_runners_import.py`, `irrd/storage/database_handler.py`.
-/

namespace Irrd.Mirroring

open Irrd.Base Irrd.Conf Irrd.Rpki Irrd.Scopefilter Irrd.Storage Irrd.Utils

/-- `DatabaseHandler()`: a new handler on the tables as they were last committed. -/
def connect (h : DatabaseHandler) : DatabaseHandler := { h.rollback with journalingEnabled := true }

/-- `ScopeFilterUpdateRunner.run`, `irrd/mirroring/mirror_runners_import.py:267–291`. Where a
statement fails, nothing is committed. -/
def scopeFilterUpdateRun (s : Settings) (c : ScopeFilterSettings) (h : DatabaseHandler) :
    Option DatabaseHandler := do
  let h := connect h
  let validator := ScopeFilterValidator.loadFilters c
  let (nowInScope, nowOutScopeAs, nowOutScopePrefix) :=
    validator.validateAllRpslObjects s h.working.objects.rows
  let h ← h.updateScopefilterStatus s nowInScope nowOutScopeAs nowOutScopePrefix
  h.commit s

section Commit

variable {s : Settings} {h h' : DatabaseHandler}

/-- Without pending upserts, a commit only changes route preference statuses of objects. -/
theorem commit_unevaluated (hempty : h.rpslUpsertBuffer = []) (hcommit : h.commit s = some h') :
    h'.committed.objects.rows.map RPSLDatabaseObject.unevaluated =
      h.working.objects.rows.map RPSLDatabaseObject.unevaluated := by
  obtain ⟨h₁, h₂, h₃, h₄, hparts⟩ := commit_parts hcommit
  obtain ⟨hframe, -⟩ := finaliseTransaction_spec (s := s) h₂
  obtain ⟨hflushed, -, -⟩ := flush_objects hparts.flush
  have hobjects : h₃.working.objects = h.working.objects := by
    have hsame : h.working.objects = h₁.working.objects := by
      simpa [flushedObjects, hempty] using hflushed
    rw [hparts.finalise, hsame]
    exact hframe.objects.trans hparts.objects
  have hbuffer : h₃.rpslUpsertBuffer = [] := by
    rw [hparts.finalise]
    exact hframe.buffer.trans hparts.buffer
  rw [← hobjects, ← (preCommit_unevaluated hbuffer hparts.preCommit).1, hparts.result]
  rfl

/-- A tracker that has seen nothing leaves status rows as they are. -/
theorem finaliseTransaction_reset (hreset : h.statusTracker = .reset) :
    h.finaliseTransaction s = h := by
  have hrow (row : RPSLDatabaseStatus) : h.finaliseColumns (h.finaliseSerials row) = row := by
    simp [DatabaseHandler.finaliseColumns, DatabaseHandler.finaliseSerials, hreset,
      DatabaseStatusTracker.reset]
  have hstatus : h.working.status.map (fun row ↦ h.finaliseColumns (h.finaliseSerials row))
      (fun row ↦ by rw [hrow]) = h.working.status := by
    apply KeyedTable.ext
    show h.working.status.rows.map _ = _
    simp [hrow]
  have hseen : h.statusTracker.sourcesSeen = [] := by
    rw [hreset]
    rfl
  unfold DatabaseHandler.finaliseTransaction DatabaseHandler.updateStatus
  simp only [hseen, List.foldl_nil, hstatus]

/-- Without any changes, a commit changes nothing. -/
theorem commit_connect (h : DatabaseHandler) :
    ∃ h', (connect h).commit s = some h' ∧ h'.committed = h.committed ∧ h'.written = h.written := by
  unfold DatabaseHandler.commit DatabaseHandler.flushRpslObjectWritingBuffer
    DatabaseHandler.flushRoaWritingBuffer DatabaseHandler.preCommit
  simp only [Option.bind_eq_bind]
  rw [if_pos (show (connect h).rpslUpsertBuffer = [] from rfl), Option.bind_some,
    if_pos (show (connect h).roaInsertBuffer = [] from rfl), Option.bind_some]
  refine ⟨_, rfl, ?_, ?_⟩
  · rw [finaliseTransaction_reset rfl]
    rfl
  · rw [finaliseTransaction_reset rfl]
    rfl

end Commit

section Scopefilter

variable (s : Settings) (v : ScopeFilterValidator)

/-- The scope filter status that a row should have: the verdict for the row, or its own where the
scope filter is not about its class. -/
def scopefilterStatusFor (row : RPSLDatabaseObject) : ScopeFilterStatus :=
  if row.objectClass ∈ scopefilterObjectClasses then v.verdict s row else row.scopefilterStatus

/-- The statuses in the order in which they are written. -/
def scopefilterOrder : List ScopeFilterStatus := [.inScope, .outScopeAs, .outScopePrefix]

/-- The status of a row after it has been refreshed together with others. -/
def refreshedScopefilterStatus (rows : List RPSLDatabaseObject) (row : RPSLDatabaseObject) :
    ScopeFilterStatus :=
  refreshedStatus (fun row : RPSLDatabaseObject ↦ row.rpslPk) (fun row ↦ row.scopefilterStatus)
    (scopefilterStatusFor s v) scopefilterOrder rows row

theorem changedTo_rpslPks (rows : List RPSLDatabaseObject) (status : ScopeFilterStatus) :
    (v.changedTo s rows status).map (fun d ↦ d.rpslPk) =
      (collectedFor (fun row ↦ row.scopefilterStatus) (scopefilterStatusFor s v) rows status).map
        (fun row ↦ row.rpslPk) := by
  unfold ScopeFilterValidator.changedTo collectedFor
  rw [List.map_map, List.filter_filter]
  have hpk : (fun d : ChangedObjectDict ScopeFilterStatus ↦ d.rpslPk) ∘ (fun row ↦
      ScopeFilterValidator.enrich rows (v.evaluated s row)) = fun row ↦ row.rpslPk := by
    funext row
    simp only [Function.comp_apply, ScopeFilterValidator.enrich]
    split <;> rfl
  rw [hpk]
  congr 1
  refine List.filter_congr (fun row _ ↦ ?_)
  by_cases hclass : row.objectClass ∈ scopefilterObjectClasses
  · simp [scopefilterStatusFor, hclass]
  · simp [scopefilterStatusFor, hclass]

/-- What the three updates of a refresh do to a row. -/
theorem withScopefilterStatuses_changedTo (rows : List RPSLDatabaseObject)
    (row : RPSLDatabaseObject) :
    withScopefilterStatuses ((v.changedTo s rows .inScope).map (fun d ↦ d.rpslPk))
        ((v.changedTo s rows .outScopeAs).map (fun d ↦ d.rpslPk))
        ((v.changedTo s rows .outScopePrefix).map (fun d ↦ d.rpslPk)) row =
      { row with scopefilterStatus := refreshedScopefilterStatus s v rows row } := by
  unfold withScopefilterStatuses refreshedScopefilterStatus refreshedStatus
  simp only [changedTo_rpslPks, scopefilterOrder, lastHit, List.foldl_cons, List.foldl_nil,
    decide_eq_true_eq]

/-- A refresh commits the rows with their refreshed statuses. Route preferences may have been
evaluated. -/
theorem scopeFilterUpdateRun_rows {c : ScopeFilterSettings} {h h' : DatabaseHandler}
    (hrun : scopeFilterUpdateRun s c h = some h') :
    h'.committed.objects.rows.map RPSLDatabaseObject.unevaluated =
      h.committed.objects.rows.map (fun row ↦ RPSLDatabaseObject.unevaluated { row with
        scopefilterStatus := refreshedScopefilterStatus s (.loadFilters c)
          h.committed.objects.rows row }) := by
  unfold scopeFilterUpdateRun ScopeFilterValidator.validateAllRpslObjects at hrun
  obtain ⟨h₁, hupdate, hcommit⟩ := Option.bind_eq_some_iff.mp hrun
  obtain ⟨h₂, hvisible, hinvisible⟩ := Option.bind_eq_some_iff.mp hupdate
  obtain ⟨hbuffer₂, hobjects₂⟩ := recordDicts_frame hvisible
  obtain ⟨hbuffer₁, hobjects₁⟩ := recordDicts_frame hinvisible
  rw [commit_unevaluated (hbuffer₁.trans hbuffer₂) hcommit, hobjects₁, hobjects₂,
    (rowsMapped_scopefilterStatuses _ _ _ _).rows, List.map_map]
  refine List.map_congr_left (fun row _ ↦ ?_)
  rw [Function.comp_apply, withScopefilterStatuses_changedTo]
  rfl

/-- What a refresh is for: every row that the scope filter is about has the status that is right
for its own source, prefix and AS number, and no other row has another status than before. -/
structure ScopefilterRefreshed (t t' : ObjectTable) : Prop where
  evaluated : ∀ row ∈ t'.rows, row.objectClass ∈ scopefilterObjectClasses →
    row.scopefilterStatus = v.verdict s row
  others : ∀ {key row row'}, t.find key = some row → t'.find key = some row' →
    row.objectClass ∉ scopefilterObjectClasses → row'.scopefilterStatus = row.scopefilterStatus

/-- Rows that share their primary key with one whose status changes, in any source and class,
should have the same status as it. -/
def SharedKeysSameStatus (rows : List RPSLDatabaseObject) : Prop :=
  ∀ c ∈ rows, c.objectClass ∈ scopefilterObjectClasses → v.verdict s c ≠ c.scopefilterStatus →
    ∀ row ∈ rows, row.rpslPk = c.rpslPk → scopefilterStatusFor s v row = v.verdict s c

end Scopefilter

section ScopefilterResults

variable {s : Settings} {v : ScopeFilterValidator} {t t' : ObjectTable}

/-- What two rows have in common that only differ in their statuses and creation times. -/
theorem unevaluated_eq {row row' : RPSLDatabaseObject} {status : ScopeFilterStatus}
    (hsame : row'.unevaluated = RPSLDatabaseObject.unevaluated
      { row with scopefilterStatus := status }) :
    row'.key = row.key ∧ row'.objectClass = row.objectClass ∧ row'.scopefilterStatus = status ∧
      v.verdict s row' = v.verdict s row := by
  have hcolumns := congrArg Prod.fst hsame
  have hsource : row'.source = row.source := (congrArg ObjectColumns.source hcolumns :)
  have hclass : row'.objectClass = row.objectClass :=
    (congrArg ObjectColumns.objectClass hcolumns :)
  have hprefix : row'.ipPrefix = row.ipPrefix := (congrArg ObjectColumns.ipPrefix hcolumns :)
  have hasn : row'.asnFirst = row.asnFirst := (congrArg ObjectColumns.asnFirst hcolumns :)
  refine ⟨(congrArg ObjectColumns.key hcolumns :), hclass,
    (congrArg ObjectColumns.scopefilterStatus hcolumns :), ?_⟩
  unfold ScopeFilterValidator.verdict
  rw [hsource, hclass, hprefix, hasn]

/-- A refresh does what it is for exactly where every row gets its own status. -/
theorem scopefilterRefreshed_iff {status : RPSLDatabaseObject → ScopeFilterStatus}
    (hrows : t'.rows.map RPSLDatabaseObject.unevaluated = t.rows.map (fun row ↦
      RPSLDatabaseObject.unevaluated { row with scopefilterStatus := status row })) :
    ScopefilterRefreshed s v t t' ↔ ∀ row ∈ t.rows, status row = scopefilterStatusFor s v row := by
  have hafter : ∀ row ∈ t.rows, ∃ row' ∈ t'.rows, row'.unevaluated =
      RPSLDatabaseObject.unevaluated { row with scopefilterStatus := status row } := by
    intro row hrow
    exact List.mem_map.mp (hrows ▸ List.mem_map_of_mem (f := fun row ↦
      RPSLDatabaseObject.unevaluated { row with scopefilterStatus := status row }) hrow)
  have hbefore : ∀ row' ∈ t'.rows, ∃ row ∈ t.rows, row'.unevaluated =
      RPSLDatabaseObject.unevaluated { row with scopefilterStatus := status row } := by
    intro row' hrow'
    obtain ⟨row, hrow, hsame⟩ := List.mem_map.mp (hrows ▸ List.mem_map_of_mem
      (f := RPSLDatabaseObject.unevaluated) hrow')
    exact ⟨row, hrow, hsame.symm⟩
  constructor
  · intro hrefreshed row hrow
    obtain ⟨row', hrow', hsame⟩ := hafter row hrow
    obtain ⟨hkey, hclass, hstatus, hverdict⟩ := unevaluated_eq (s := s) (v := v) hsame
    unfold scopefilterStatusFor
    rw [← hstatus]
    split
    · next hrelevant =>
      rw [hrefreshed.evaluated row' hrow' (hclass ▸ hrelevant), hverdict]
    · next hother =>
      refine hrefreshed.others ((KeyedTable.mem_rows_iff _ _).mp hrow) ?_ hother
      rw [← hkey]
      exact (KeyedTable.mem_rows_iff _ _).mp hrow'
  · intro hall
    refine ⟨fun row' hrow' hrelevant ↦ ?_, fun {key row row'} hfind hfind' hother ↦ ?_⟩
    · obtain ⟨row, hrow, hsame⟩ := hbefore row' hrow'
      obtain ⟨-, hclass, hstatus, hverdict⟩ := unevaluated_eq (s := s) (v := v) hsame
      rw [hstatus, hall row hrow, hverdict, scopefilterStatusFor, if_pos (hclass ▸ hrelevant)]
    · obtain ⟨old, hold, hsame⟩ := hbefore row' (KeyedTable.find_mem hfind')
      obtain ⟨hkey, -, hstatus, -⟩ := unevaluated_eq (s := s) (v := v) hsame
      have hsameKey : old.key = key := hkey.symm.trans (KeyedTable.find_key hfind')
      have hrow : old = row := by
        have hfound := (KeyedTable.mem_rows_iff _ _).mp hold
        rw [hsameKey, hfind] at hfound
        exact (Option.some_inj.mp hfound).symm
      subst hrow
      rw [hstatus, hall old hold, scopefilterStatusFor, if_neg hother]

theorem sharedKeysSameStatus_iff (rows : List RPSLDatabaseObject) :
    SharedKeysSameStatus s v rows ↔
      ∀ row ∈ rows, refreshedScopefilterStatus s v rows row = scopefilterStatusFor s v row := by
  have hcovers : ∀ row ∈ rows, scopefilterStatusFor s v row ∈ scopefilterOrder := by
    intro row _
    cases scopefilterStatusFor s v row <;> simp [scopefilterOrder]
  unfold refreshedScopefilterStatus
  rw [refreshedStatus_eq_target_iff _ _ _ hcovers]
  unfold SharedKeysSameStatus
  refine forall₂_congr (fun c _ ↦ ?_)
  by_cases hclass : c.objectClass ∈ scopefilterObjectClasses
  · simp [scopefilterStatusFor, hclass]
  · simp [scopefilterStatusFor, hclass]

/-- Where every status is right, there is nothing to refresh. -/
theorem changedTo_of_evaluated (rows : List RPSLDatabaseObject)
    (hevaluated : ∀ row ∈ rows, row.objectClass ∈ scopefilterObjectClasses →
      row.scopefilterStatus = v.verdict s row) (status : ScopeFilterStatus) :
    v.changedTo s rows status = [] := by
  unfold ScopeFilterValidator.changedTo
  rw [List.map_eq_nil_iff, List.filter_eq_nil_iff]
  intro row hrow
  obtain ⟨hmem, hclass⟩ := List.mem_filter.mp hrow
  simp [hevaluated row hmem (of_decide_eq_true hclass)]

/-- An update without objects changes nothing. -/
theorem updateScopefilterStatus_nil (h : DatabaseHandler) :
    h.updateScopefilterStatus s [] [] [] = some h := by
  have hset (status : ScopeFilterStatus) : h.setScopefilterStatus status [] = h := by
    unfold DatabaseHandler.setScopefilterStatus DatabaseHandler.updateObjects
    have hobjects : ∀ hkeys, h.working.objects.map (fun row ↦
        if decide (row.rpslPk ∈ ([] : List String)) = true then
          { row with scopefilterStatus := status } else row) hkeys = h.working.objects := by
      intro hkeys
      apply KeyedTable.ext
      show h.working.objects.rows.map _ = _
      simp
    rw [hobjects]
  unfold DatabaseHandler.updateScopefilterStatus
  simp only [List.map_nil, hset]
  rfl

/-- A refresh that commits gives every row that the scope filter is about its own status, changes
no other, and leaves nothing to do for a second one, exactly where rows that share a primary key
with a row whose status changes should have the same status as it. -/
theorem scopeFilterUpdateRun_iff {c : ScopeFilterSettings} {h h' : DatabaseHandler}
    (hrun : scopeFilterUpdateRun s c h = some h') :
    (ScopefilterRefreshed s (.loadFilters c) h.committed.objects h'.committed.objects ∧
      ∀ now, ∃ h'', scopeFilterUpdateRun s c { h' with now } = some h'' ∧
        h''.committed = h'.committed ∧ h''.written = h'.written) ↔
      SharedKeysSameStatus s (.loadFilters c) h.committed.objects.rows := by
  have hrefreshed := scopefilterRefreshed_iff (scopeFilterUpdateRun_rows s hrun) (s := s)
    (v := .loadFilters c)
  rw [sharedKeysSameStatus_iff, ← hrefreshed]
  refine ⟨fun h ↦ h.1, fun hevaluated ↦ ⟨hevaluated, fun now ↦ ?_⟩⟩
  unfold scopeFilterUpdateRun ScopeFilterValidator.validateAllRpslObjects
  have hnone := changedTo_of_evaluated (connect { h' with now }).working.objects.rows
    hevaluated.evaluated
  simp only [hnone, updateScopefilterStatus_nil, Option.bind_eq_bind, Option.bind_some]
  exact commit_connect { h' with now }

section Examples

/-- One source with and one without a scope filter. -/
def filteredSettings : Settings :=
  ⟨true, none, [("TEST", ⟨false, false, false, none, none⟩),
    ("EXCLUDED", ⟨false, true, false, none, none⟩)]⟩

/-- A prefix that is out of scope. -/
def filteredPrefix : ScopeFilterSettings := ⟨[⟨4, 0xC0000200, 24⟩], []⟩

/-- A visible route object for this prefix. -/
def storedRoute (pk : Nat) (source : String) : RPSLDatabaseObject where
  rpslPk := "192.0.2.0/24AS65530"
  source := source
  objectClass := "route"
  parsedData := []
  objectText := ""
  ipVersion := some 4
  ipFirst := some ⟨4, 0xC0000200, 32⟩
  ipLast := some ⟨4, 0xC00002FF, 32⟩
  ipSize := some 256
  prefixLength := some 24
  ipPrefix := some ⟨4, 0xC0000200, 24⟩
  asnFirst := some 65530
  asnLast := some 65530
  rpkiStatus := .notFound
  scopefilterStatus := .inScope
  routePreferenceStatus := .visible
  updated := 0
  pk := pk
  created := 0

/-- A handler on a database with these rows. -/
def handlerOn (rows : List RPSLDatabaseObject) (hnodup : (rows.map RPSLDatabaseObject.key).Nodup) :
    DatabaseHandler :=
  { newHandler with
    committed := { emptyDatabase with objects := ⟨rows, hnodup⟩ }
    working := { emptyDatabase with objects := ⟨rows, hnodup⟩ } }

/-- Routes with one primary key in two sources with a scope filter, and another one in a source
without. -/
def threeRoutes : DatabaseHandler :=
  handlerOn [storedRoute 0 "TEST", storedRoute 1 "OTHER",
    { storedRoute 2 "EXCLUDED" with rpslPk := "192.0.2.0/24AS65531", asnFirst := some 65531 }]
    (by decide)

/-- A refresh of these routes. -/
theorem scopeFilterUpdateRun_threeRoutes : ∃ h',
    scopeFilterUpdateRun filteredSettings filteredPrefix threeRoutes = some h' ∧
    ScopefilterRefreshed filteredSettings (.loadFilters filteredPrefix)
      threeRoutes.committed.objects h'.committed.objects ∧
    h'.committed.objects.rows.map (fun row ↦ (row.source, row.scopefilterStatus)) =
      [("TEST", .outScopePrefix), ("OTHER", .outScopePrefix), ("EXCLUDED", .inScope)] := by
  obtain ⟨h', hrun, hstatuses⟩ : ∃ h',
      scopeFilterUpdateRun filteredSettings filteredPrefix threeRoutes = some h' ∧
      h'.committed.objects.rows.map (fun row ↦ (row.source, row.scopefilterStatus)) =
        [("TEST", .outScopePrefix), ("OTHER", .outScopePrefix), ("EXCLUDED", .inScope)] :=
    ⟨_, rfl, rfl⟩
  refine ⟨h', hrun, ((scopeFilterUpdateRun_iff hrun).mpr ?_).1, hstatuses⟩
  unfold SharedKeysSameStatus
  decide

/-- A route with the same primary key in a source without a scope filter becomes invisible too. -/
theorem scopeFilterUpdateRun_sharedKey :
    (scopeFilterUpdateRun filteredSettings filteredPrefix
      (handlerOn [storedRoute 0 "TEST", storedRoute 1 "EXCLUDED"] (by decide))).map (fun h ↦
        h.committed.objects.rows.map (fun row ↦ (row.source, row.scopefilterStatus,
          (ScopeFilterValidator.loadFilters filteredPrefix).verdict filteredSettings row))) =
      some [("TEST", .outScopePrefix, .outScopePrefix),
        ("EXCLUDED", .outScopePrefix, .inScope)] := rfl

end Examples

end ScopefilterResults

section RpkiRefresh

variable (s : Settings) (trie : PrefixItems) (v : BulkRouteROAValidator)

/-- The RPKI status that a row should have: the verdict for a route outside the pseudo-source, or
its own. -/
def rpkiStatusFor (row : RPSLDatabaseObject) : RPKIStatus :=
  if BulkRouteROAValidator.isValidated row then (v.verdict trie row).getD row.rpkiStatus
  else row.rpkiStatus

/-- A row with the status that it should have. -/
def withRpkiStatusFor (row : RPSLDatabaseObject) : RPSLDatabaseObject :=
  { row with rpkiStatus := rpkiStatusFor trie v row }

/-- The operation that shows mirrors that a row became visible or invisible. -/
def visibilityOperation (origin : JournalEntryOrigin) (before after : RPSLDatabaseObject) :
    Option Operation :=
  if after.isVisible && !before.isVisible then
    some ⟨.addOrUpdate, before.rpslPk, before.source, before.objectClass, before.objectText, origin,
      none⟩
  else if before.isVisible && !after.isVisible then
    some ⟨.delete, before.rpslPk, before.source, before.objectClass, before.objectText, origin,
      none⟩
  else none

/-- `validate_all_routes`, whose queries flush the buffer, and `update_rpki_status`, as
`ROAImportRunner.run` calls them, `irrd/mirroring/mirror_runners_import.py:206–212`. -/
def refreshRpkiStatus (h : DatabaseHandler) : Option DatabaseHandler := do
  let h ← h.flushRpslObjectWritingBuffer s
  let (nowValid, nowInvalid, nowNotFound) ← v.validateAllRoutes trie h.working.objects.rows
  h.updateRpkiStatus s nowValid nowInvalid nowNotFound

end RpkiRefresh

section RpkiResults

variable {s : Settings} {trie : PrefixItems} {v : BulkRouteROAValidator} {h h' : DatabaseHandler}

/-- The dict of a row that gets another RPKI status. -/
def rpkiChange (status : RPKIStatus) (row : RPSLDatabaseObject) : ChangedObjectDict RPKIStatus :=
  ⟨RPSLDatabaseObject.toDict { row with rpkiStatus := status }, row.rpkiStatus⟩

/-- The routes that change to a status, with all their columns. -/
theorem changedTo_eq {t : ObjectTable} (hunique : t.PksUnique) (status : RPKIStatus) :
    v.changedTo trie t.rows status = (collectedFor (fun row ↦ row.rpkiStatus)
      (rpkiStatusFor trie v) t.rows status).map (rpkiChange status) := by
  unfold BulkRouteROAValidator.changedTo collectedFor
  rw [List.filter_filter]
  have hfilter : t.rows.filter (fun row ↦ decide (v.verdict trie row = some status ∧
        status ≠ row.rpkiStatus) && BulkRouteROAValidator.isValidated row) =
      t.rows.filter (fun row ↦ rpkiStatusFor trie v row ≠ row.rpkiStatus ∧
        rpkiStatusFor trie v row = status) := by
    refine List.filter_congr (fun row _ ↦ ?_)
    unfold rpkiStatusFor
    cases hvalidated : BulkRouteROAValidator.isValidated row with
    | false => simp
    | true =>
      cases hverdict : v.verdict trie row with
      | none => simp
      | some new =>
        by_cases hnew : new = status
        · simp [hnew]
        · simp [hnew]
  rw [hfilter]
  refine List.map_congr_left (fun row hrow ↦ ?_)
  have hmem := (List.mem_filter.mp hrow).1
  have hfind : t.rows.find? (fun other ↦ other.pk = row.pk) = some row := by
    cases hfound : t.rows.find? (fun other ↦ other.pk = row.pk) with
    | none => exact absurd (decide_eq_true rfl) (List.find?_eq_none.mp hfound row hmem)
    | some other =>
      have hpk : other.pk = row.pk := by simpa using List.find?_some hfound
      rw [hunique.eq_of_pk (List.mem_of_find?_eq_some hfound) hmem hpk]
  unfold BulkRouteROAValidator.enrich
  rw [show (BulkRouteROAValidator.evaluated row status).pk = row.pk from rfl, hfind]
  rfl

/-- What the three updates of a refresh do to a row. -/
theorem withRpkiStatuses_changedTo {t : ObjectTable} (hunique : t.PksUnique)
    {row : RPSLDatabaseObject} (hrow : row ∈ t.rows) :
    withRpkiStatuses ((v.changedTo trie t.rows .valid).map (fun d ↦ d.pk))
        ((v.changedTo trie t.rows .invalid).map (fun d ↦ d.pk))
        ((v.changedTo trie t.rows .notFound).map (fun d ↦ d.pk)) row =
      withRpkiStatusFor trie v row := by
  have hpks (status : RPKIStatus) : (v.changedTo trie t.rows status).map (fun d ↦ d.pk) =
      (collectedFor (fun row ↦ row.rpkiStatus) (rpkiStatusFor trie v) t.rows status).map
        (fun row ↦ row.pk) := by
    rw [changedTo_eq hunique, List.map_map]
    rfl
  have hcovers : ∀ row ∈ t.rows, rpkiStatusFor trie v row ∈
      [RPKIStatus.valid, RPKIStatus.invalid, RPKIStatus.notFound] := by
    intro row _
    cases rpkiStatusFor trie v row <;> simp
  have htarget := refreshedStatus_eq_target (fun row : RPSLDatabaseObject ↦ row.pk)
    (fun row ↦ row.rpkiStatus) (rpkiStatusFor trie v) hcovers hunique hrow
  unfold withRpkiStatuses withRpkiStatusFor
  rw [← htarget]
  simp only [hpks, refreshedStatus, lastHit, List.foldl_cons, List.foldl_nil, decide_eq_true_eq]

/-- The operations for the routes that change to a status, row by row. -/
theorem rpkiOperations_eq {t : ObjectTable} (hunique : t.PksUnique) {status : RPKIStatus}
    {operation : DatabaseOperation} {qualifies : ChangedObjectDict RPKIStatus → Bool}
    (hqualifies : ∀ row : RPSLDatabaseObject,
      (if qualifies (rpkiChange status row) then some (dictOperation operation .rpkiStatus
          (rpkiChange status row).toRPSLObjectDict) else none) =
        visibilityOperation .rpkiStatus row { row with rpkiStatus := status }) :
    ((v.changedTo trie t.rows status).filter qualifies).map (fun d ↦
        dictOperation operation .rpkiStatus d.toRPSLObjectDict) =
      t.rows.filterMap (fun row ↦ if rpkiStatusFor trie v row ≠ row.rpkiStatus ∧
          rpkiStatusFor trie v row = status then
        visibilityOperation .rpkiStatus row (withRpkiStatusFor trie v row) else none) := by
  rw [changedTo_eq hunique, collectedFor, map_filter_map_filter]
  refine List.filterMap_congr (fun row _ ↦ ?_)
  by_cases hchanges : rpkiStatusFor trie v row ≠ row.rpkiStatus ∧
      rpkiStatusFor trie v row = status
  · rw [if_pos hchanges, withRpkiStatusFor, hchanges.2, ← hqualifies row]
    simp [hchanges.2 ▸ hchanges.1]
  · rw [if_neg hchanges]
    simp [hchanges]

/-- A dict of a route says what its row was and will be. -/
theorem rpkiVisibility_rpkiChange (status : RPKIStatus) (row : RPSLDatabaseObject) :
    DatabaseHandler.rpkiVisibility (rpkiChange status row) =
      (row.isVisible, RPSLDatabaseObject.isVisible { row with rpkiStatus := status }) := rfl

/-- Routes that become valid or not found can only become visible. -/
theorem qualifies_becameVisible {status : RPKIStatus} (hstatus : status.isVisible = true)
    (row : RPSLDatabaseObject) :
    (if DatabaseHandler.becameVisible (DatabaseHandler.rpkiVisibility (rpkiChange status row)) then
        some (dictOperation .addOrUpdate .rpkiStatus (rpkiChange status row).toRPSLObjectDict)
      else none) = visibilityOperation .rpkiStatus row { row with rpkiStatus := status } := by
  rw [rpkiVisibility_rpkiChange]
  unfold visibilityOperation DatabaseHandler.becameVisible
  cases hbefore : row.isVisible with
  | false => simp [rpkiChange, dictOperation, RPSLDatabaseObject.toDict]
  | true => simp [isVisible_withRpkiStatus hstatus hbefore]

/-- Routes that become invalid can only become invisible. -/
theorem qualifies_becameInvisible (row : RPSLDatabaseObject) :
    (if DatabaseHandler.becameInvisible (DatabaseHandler.rpkiVisibility (rpkiChange .invalid row))
      then some (dictOperation .delete .rpkiStatus (rpkiChange .invalid row).toRPSLObjectDict)
      else none) = visibilityOperation .rpkiStatus row { row with rpkiStatus := .invalid } := by
  have hhidden : RPSLDatabaseObject.isVisible { row with rpkiStatus := .invalid } = false := rfl
  rw [rpkiVisibility_rpkiChange, hhidden]
  unfold visibilityOperation DatabaseHandler.becameInvisible
  rw [hhidden]
  cases row.isVisible <;> rfl

/-- The operations for all routes that change, row by row. -/
theorem rpkiOperations_perm (rows : List RPSLDatabaseObject) :
    List.Perm
      ((rows.filterMap (fun row ↦ if rpkiStatusFor trie v row ≠ row.rpkiStatus ∧
            rpkiStatusFor trie v row = .valid then
          visibilityOperation .rpkiStatus row (withRpkiStatusFor trie v row) else none) ++
        rows.filterMap (fun row ↦ if rpkiStatusFor trie v row ≠ row.rpkiStatus ∧
            rpkiStatusFor trie v row = .notFound then
          visibilityOperation .rpkiStatus row (withRpkiStatusFor trie v row) else none)) ++
        rows.filterMap (fun row ↦ if rpkiStatusFor trie v row ≠ row.rpkiStatus ∧
            rpkiStatusFor trie v row = .invalid then
          visibilityOperation .rpkiStatus row (withRpkiStatusFor trie v row) else none))
      (rows.filterMap (fun row ↦
        visibilityOperation .rpkiStatus row (withRpkiStatusFor trie v row))) := by
  refine ((filterMap_append_perm rows _ _ ?_).append_right _).trans
    ((filterMap_append_perm rows _ _ ?_).trans (List.Perm.of_eq ?_))
  · intro row _
    cases rpkiStatusFor trie v row <;> simp
  · intro row _
    cases rpkiStatusFor trie v row <;> simp
  · refine List.filterMap_congr (fun row _ ↦ ?_)
    by_cases hsame : rpkiStatusFor trie v row = row.rpkiStatus
    · have hrow : withRpkiStatusFor trie v row = row := by
        unfold withRpkiStatusFor
        rw [hsame]
      have hnone : visibilityOperation .rpkiStatus row row = none := by
        unfold visibilityOperation
        cases row.isVisible <;> rfl
      simp [hsame, hrow, hnone]
    · cases hstatus : rpkiStatusFor trie v row <;> simp [hstatus ▸ hsame]

/-- A refresh of the RPKI statuses gives every route outside the pseudo-source its verdict, changes
no other row, and writes journal entries for exactly the routes that became visible or
invisible. -/
theorem refreshRpkiStatus_spec (trie : PrefixItems) (hempty : h.rpslUpsertBuffer = [])
    (hunique : h.working.objects.PksUnique) (hrefresh : refreshRpkiStatus s trie v h = some h') :
    h'.working.objects.rows = h.working.objects.rows.map (withRpkiStatusFor trie v) ∧
      (∀ row ∈ h'.working.objects.rows, BulkRouteROAValidator.isValidated row = true →
        v.verdict trie row = some row.rpkiStatus) ∧
      ∃ entries, h'.working.journal.rows = h.working.journal.rows ++ entries ∧
        (entries.map RPSLDatabaseJournal.toOperation).Perm (journalOperations s h.journalingEnabled
          (h.working.objects.rows.filterMap (fun row ↦
            visibilityOperation .rpkiStatus row (withRpkiStatusFor trie v row)))) := by
  unfold refreshRpkiStatus DatabaseHandler.flushRpslObjectWritingBuffer at hrefresh
  rw [if_pos hempty] at hrefresh
  simp only [Option.bind_eq_bind, Option.bind_some] at hrefresh
  obtain ⟨⟨nowValid, nowInvalid, nowNotFound⟩, hvalidate, hupdate⟩ :=
    Option.bind_eq_some_iff.mp hrefresh
  unfold BulkRouteROAValidator.validateAllRoutes at hvalidate
  split at hvalidate
  · next hverdicts =>
    cases hvalidate
    obtain ⟨h₁, hvisible, hinvisible⟩ := Option.bind_eq_some_iff.mp hupdate
    have hrows : h'.working.objects.rows =
        h.working.objects.rows.map (withRpkiStatusFor trie v) := by
      rw [(recordDicts_frame hinvisible).2, (recordDicts_frame hvisible).2,
        (rowsMapped_rpkiStatuses _ _ _ _).rows]
      exact List.map_congr_left (fun row hrow ↦ withRpkiStatuses_changedTo hunique hrow)
    refine ⟨hrows, fun row hrow hvalidated ↦ ?_, ?_⟩
    · rw [hrows] at hrow
      obtain ⟨old, hold, rfl⟩ := List.mem_map.mp hrow
      have hisSome := List.all_eq_true.mp hverdicts old (List.mem_filter.mpr ⟨hold, hvalidated⟩)
      obtain ⟨status, hstatus⟩ := Option.isSome_iff_exists.mp hisSome
      have hnew : (withRpkiStatusFor trie v old).rpkiStatus = status := by
        unfold withRpkiStatusFor rpkiStatusFor
        rw [if_pos (show BulkRouteROAValidator.isValidated old = true from hvalidated), hstatus]
        rfl
      rw [hnew, ← hstatus]
      rfl
    · have hrecorded := (recordedOperations_dicts hvisible).trans
        (recordedOperations_dicts hinvisible)
      obtain ⟨entries, hjournal, hentries⟩ := hrecorded.journaled.journal
      refine ⟨entries, hjournal, ?_⟩
      rw [hentries, List.filter_append, List.map_append,
        rpkiOperations_eq hunique (qualifies_becameVisible rfl),
        rpkiOperations_eq hunique (qualifies_becameVisible rfl),
        rpkiOperations_eq hunique qualifies_becameInvisible]
      exact ((rpkiOperations_perm h.working.objects.rows).filter _).map _
  · cases hvalidate

/-- A refresh of the RPKI statuses succeeds where every route has an address and the sources with
a journal number its entries themselves. -/
theorem refreshRpkiStatus_isSome (trie : PrefixItems) (hempty : h.rpslUpsertBuffer = [])
    (hroutes : ∀ row ∈ h.working.objects.rows, BulkRouteROAValidator.isValidated row = true →
      (v.verdict trie row).isSome = true)
    (hnumbers : ∀ source, s.keepJournal source = true → NumbersEntries s source h) :
    (refreshRpkiStatus s trie v h).isSome = true := by
  have hverdicts : (h.working.objects.rows.filter BulkRouteROAValidator.isValidated).all
      (fun row ↦ (v.verdict trie row).isSome) = true := by
    rw [List.all_eq_true]
    intro row hrow
    obtain ⟨hmem, hvalidated⟩ := List.mem_filter.mp hrow
    exact hroutes row hmem hvalidated
  have hset (status : RPKIStatus) (pks : List Nat) {h : DatabaseHandler}
      (hnumbers : ∀ source, s.keepJournal source = true → NumbersEntries s source h) :
      ∀ source, s.keepJournal source = true →
        NumbersEntries s source (h.setRpkiStatus status pks) :=
    fun source hkeep ↦ (hnumbers source hkeep).same (sameSerials_updateObjects _ _ _ _)
  unfold refreshRpkiStatus DatabaseHandler.flushRpslObjectWritingBuffer
    BulkRouteROAValidator.validateAllRoutes DatabaseHandler.updateRpkiStatus
  rw [if_pos hempty]
  simp only [Option.bind_eq_bind, Option.bind_some, hverdicts, if_true]
  obtain ⟨h₁, hvisible, hnumbers₁⟩ := recordDicts_isSome .addOrUpdate .rpkiStatus
    ChangedObjectDict.toRPSLObjectDict
    (fun d ↦ DatabaseHandler.becameVisible (DatabaseHandler.rpkiVisibility d))
    (v.changedTo trie h.working.objects.rows .valid ++
      v.changedTo trie h.working.objects.rows .notFound)
    (hset .notFound ((v.changedTo trie h.working.objects.rows .notFound).map (fun d ↦ d.pk))
      (hset .invalid ((v.changedTo trie h.working.objects.rows .invalid).map (fun d ↦ d.pk))
        (hset .valid ((v.changedTo trie h.working.objects.rows .valid).map (fun d ↦ d.pk))
          hnumbers)))
  obtain ⟨h₂, hinvisible, -⟩ := recordDicts_isSome .delete .rpkiStatus
    ChangedObjectDict.toRPSLObjectDict
    (fun d ↦ DatabaseHandler.becameInvisible (DatabaseHandler.rpkiVisibility d))
    (v.changedTo trie h.working.objects.rows .invalid) hnumbers₁
  rw [hvisible, Option.bind_some, hinvisible]
  rfl

section Examples

/-- A ROA for another origin. -/
def otherOriginRoa : ROADatabaseObject := ⟨⟨4, 0xC0000200, 24⟩, 65531, 24, some "TA", 4⟩

/-- A route becomes invalid, and its deletion is in the journal. -/
theorem refreshRpkiStatus_oneRoute : ∃ h',
    refreshRpkiStatus localSettings .scan (.new localSettings [otherOriginRoa])
      (handlerOn [storedRoute 0 "TEST"] (by decide)) = some h' ∧
    h'.working.objects.rows = [{ storedRoute 0 "TEST" with rpkiStatus := .invalid }] ∧
    ∃ entries, h'.working.journal.rows = entries ∧
      entries.map (fun e ↦ (e.operation, e.rpslPk, e.origin)) =
        [(.delete, "192.0.2.0/24AS65530", .rpkiStatus)] := by
  have hunique :
      (handlerOn [storedRoute 0 "TEST"] (by decide)).working.objects.PksUnique := by
    unfold ObjectTable.PksUnique
    decide
  refine ⟨_, rfl, ?_, _, rfl, rfl⟩
  exact (refreshRpkiStatus_spec (s := localSettings) (v := .new localSettings [otherOriginRoa])
    .scan rfl hunique rfl).1

end Examples

end RpkiResults

end Irrd.Mirroring
