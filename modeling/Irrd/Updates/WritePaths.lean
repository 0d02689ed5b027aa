import Irrd.Mirroring.StatusRunners
import Irrd.Updates.ChangeRequest

/-!
# Statuses of written objects

Every path that writes an object sets its RPKI and scope filter statuses before the upsert, or
leaves those it has after parsing. This compares them with the verdicts of the validators, and
with what the next refresh computes. Sources: `irrd/mirroring/parsers.py`,
`irrd/mirroring/nrtm_operation.py`, `irrd/updates/suspension.py`, `irrd/updates/parser.py`.
-/

namespace Irrd.Updates

open Irrd.Base Irrd.Conf Irrd.Mirroring Irrd.Rpki Irrd.Rpsl Irrd.Scopefilter Irrd.Storage Irrd.Utils

/-- The ways in which objects are written that were accepted elsewhere or before. An import of a
file or snapshot may have an origin validator. -/
inductive ImportPath
  | fileImport (roaValidator : Bool)
  | nrtmOperation
  | reactivation
  deriving DecidableEq

section Paths

variable (s : Settings) (v : ScopeFilterValidator) (trie : PrefixItems)
  (roas : List ROADatabaseObject)

/-- The RPKI status in `parse_object`, `irrd/mirroring/parsers.py:118–121`. -/
def fileImportRpkiStatus (roaValidator : Option BulkRouteROAValidator) (o : RPSLObject) :
    RPKIStatus :=
  match roaValidator, o.ipFirst, o.prefixLength, o.asnFirst with
  | some validator, some ipFirst, some prefixLength, some asn =>
    if o.isRoute ∧ prefixLength ≠ 0 ∧ asn ≠ 0 then
      validator.validateRoute trie ipFirst prefixLength (some asn) o.source
    else o.rpkiStatus
  | _, _, _, _ => o.rpkiStatus

/-- The RPKI status in `NRTMOperation.save`, `irrd/mirroring/nrtm_operation.py:110–112`, where
`rpki_aware` says that there is a source of ROAs, and in `reactivate_for_mntner`,
`irrd/updates/suspension.py:167–170`. Every network counts as true. -/
def singleRpkiStatus (o : RPSLObject) : RPKIStatus :=
  match o.ipPrefix, o.asnFirst with
  | some ip, some asn =>
    if isSet s.roaSource ∧ o.isRoute ∧ asn ≠ 0 then singleValidateRoute s roas ip asn o.source
    else o.rpkiStatus
  | _, _ => o.rpkiStatus

/-- The object with the statuses that both of them give it. -/
def withSingleStatuses (o : RPSLObject) : RPSLObject :=
  { o with
    rpkiStatus := singleRpkiStatus s roas o
    scopefilterStatus := v.validateRpslObject s o }

/-- The object that a path writes. -/
def ImportPath.assign (o : RPSLObject) : ImportPath → RPSLObject
  | .fileImport roaValidator => { o with
      rpkiStatus := fileImportRpkiStatus trie (if roaValidator then some (.new s roas) else none) o
      scopefilterStatus := v.validateRpslObject s o }
  | .nrtmOperation => withSingleStatuses s v roas o
  | .reactivation => withSingleStatuses s v roas o

/-- The ways in which objects are written. A change request creates an object, or modifies the
current one. -/
inductive WritePath
  | changeRequest (current : Option RPSLObject)
  | imported (path : ImportPath)

/-- `DATETIME_SENTINEL`. -/
def datetimeSentinel : Nat := 0

/-- The object that a path writes, if it does: a change request writes the object as it is, if
its checks succeed and it is not identical to the current one, `irrd/updates/parser.py:195–208`. -/
def WritePath.write (o : RPSLObject) : WritePath → Option RPSLObject
  | .changeRequest current =>
    let requestType : UpdateRequestType := if current.isSome then .modify else .create
    if checkConflictingRoa s requestType o roas = some true ∧ checkScopefilter s requestType o v ∧
        ¬ current.any (fun c ↦
          o.renderRpslText datetimeSentinel = c.renderRpslText datetimeSentinel) then some o
    else none
  | .imported path => some (path.assign s v trie roas o)

end Paths

section Statuses

variable (s : Settings) (v : ScopeFilterValidator) (roas : List ROADatabaseObject)

/-- What parsing gives a route object: its network and its origin. -/
structure ParsedRoute (o : RPSLObject) (ip : IP) (asn : Nat) : Prop where
  isRoute : o.isRoute = true
  ipPrefix : o.ipPrefix = some ip
  ipFirst : o.ipFirst = some ip.net
  prefixLength : o.prefixLength = some ip.prefixlen
  asnFirst : o.asnFirst = some asn
  wellFormed : WellFormed ip

/-- Whether a path validates the origin of a route: the conditions on its prefix and origin exclude
the prefix of length 0, in files, and AS 0. -/
def ImportPath.validates (o : RPSLObject) : ImportPath → Bool
  | .fileImport roaValidator =>
    roaValidator && o.prefixLength.any (· ≠ 0) && o.asnFirst.any (· ≠ 0)
  | .nrtmOperation => isSet s.roaSource && o.asnFirst.any (· ≠ 0)
  | .reactivation => isSet s.roaSource && o.asnFirst.any (· ≠ 0)

/-- The verdict of the origin validator for the source, prefix and origin of a route. -/
def originVerdict (o : RPSLObject) : RPKIStatus :=
  match o.ipPrefix, o.asnFirst with
  | some ip, some asn => singleValidateRoute s roas ip asn o.source
  | _, _ => .notFound

variable {s v roas}

@[simp] theorem assign_scopefilterStatus (trie : PrefixItems) (o : RPSLObject) (path : ImportPath) :
    (path.assign s v trie roas o).scopefilterStatus = v.validateRpslObject s o := by
  cases path <;> rfl

/-- The RPKI status of a route is the verdict for it, or that of an object without one. -/
theorem assign_rpkiStatus {o : RPSLObject} {ip : IP} {asn : Nat} (trie : PrefixItems)
    (hroas : ∀ roa ∈ roas, WellFormed roa.ipPrefix) (hroute : ParsedRoute o ip asn)
    (path : ImportPath) :
    (path.assign s v trie roas o.asParsed).rpkiStatus =
      if path.validates s o then originVerdict s roas o else .notFound := by
  have hisRoute : o.asParsed.isRoute = true := hroute.isRoute
  have hsingle : singleRpkiStatus s roas o.asParsed =
      if isSet s.roaSource && o.asnFirst.any (· ≠ 0) then originVerdict s roas o
      else .notFound := by
    unfold singleRpkiStatus originVerdict
    simp only [hisRoute]
    simp [RPSLObject.asParsed, hroute.ipPrefix, hroute.asnFirst]
  cases path with
  | nrtmOperation => exact hsingle
  | reactivation => exact hsingle
  | fileImport roaValidator =>
    show fileImportRpkiStatus trie _ o.asParsed = _
    unfold fileImportRpkiStatus ImportPath.validates originVerdict
    simp only [hisRoute]
    simp only [RPSLObject.asParsed, hroute.ipPrefix, hroute.ipFirst, hroute.prefixLength,
      hroute.asnFirst]
    cases roaValidator with
    | false => simp
    | true =>
      simp only [if_true, true_and]
      rw [validateRoute_eq_single trie hroas hroute.wellFormed]
      simp

/-- A path changes no other column. -/
theorem objectColumns_assign (trie : PrefixItems) (h : DatabaseHandler) (o : RPSLObject)
    (path : ImportPath) :
    h.objectColumns (path.assign s v trie roas o.asParsed) = { h.objectColumns o with
      rpkiStatus := (path.assign s v trie roas o.asParsed).rpkiStatus
      scopefilterStatus := v.validateRpslObject s o
      routePreferenceStatus := .visible } := by
  cases path <;> rfl

/-- No path gives an object of another class an RPKI status. -/
theorem assign_rpkiStatus_of_not_route {o : RPSLObject} (trie : PrefixItems)
    (hother : o.isRoute = false) (path : ImportPath) :
    (path.assign s v trie roas o.asParsed).rpkiStatus = .notFound := by
  have hother' : o.asParsed.isRoute = false := hother
  have hsingle : singleRpkiStatus s roas o.asParsed = .notFound := by
    unfold singleRpkiStatus
    split
    · rw [if_neg (by simp [hother'])]
      rfl
    · rfl
  cases path with
  | nrtmOperation => exact hsingle
  | reactivation => exact hsingle
  | fileImport roaValidator =>
    show fileImportRpkiStatus trie _ o.asParsed = _
    unfold fileImportRpkiStatus
    split
    · rw [if_neg (by simp [hother'])]
      rfl
    · rfl

end Statuses

section Results

variable {s : Settings} {v : ScopeFilterValidator} {trie : PrefixItems}
  {roas : List ROADatabaseObject} {o : RPSLObject} {limit now later : Nat} {initial t t' : WriteRun}
  {origin : JournalEntryOrigin} {sourceSerial created : Option Nat} {h : DatabaseHandler}

/-- What is committed for an upsert: its columns, whatever the route preference. -/
theorem committedRow_of_upsert (hinitial : InitialWrites initial)
    (hreach : Reaches (writeStep s limit) (fun _ _ ↦ True) initial t)
    (hstep : writeStep s limit t (now, .upsertRpslObject o origin sourceSerial created) = some t')
    (hcommit : { t'.handler with now := later }.commit s = some h) :
    ∃ row ∈ h.committed.objects.rows,
      ({ row.toObjectColumns with routePreferenceStatus := .visible } : ObjectColumns) =
        { { t.handler with now }.objectColumns o with routePreferenceStatus := .visible } := by
  obtain ⟨-, -, -, hcommitted⟩ := writes_of_reaches hinitial (hreach.tail trivial hstep)
  have hobjects := (hcommitted later h hcommit).objects
  obtain ⟨h', -, rfl⟩ := Option.map_eq_some_iff.mp hstep
  obtain ⟨stored, hfound, hcolumns⟩ := Option.map_eq_some_iff.mp
    ((find_upsertRow t.store.objects (t.store.newRow now
      ⟨{ t.handler with now }.objectColumns o, created, origin, sourceSerial⟩) _).trans
        (if_pos rfl))
  have hmem : stored.unevaluated ∈
      h.committed.objects.rows.map RPSLDatabaseObject.unevaluated := by
    rw [hobjects]
    exact List.mem_map_of_mem (KeyedTable.find_mem hfound)
  obtain ⟨row, hrow, hsame⟩ := List.mem_map.mp hmem
  refine ⟨row, hrow, ?_⟩
  have hunevaluated : ({ row.toObjectColumns with routePreferenceStatus := .visible } :
      ObjectColumns) = { stored.toObjectColumns with routePreferenceStatus := .visible } :=
    congrArg Prod.fst hsame
  rw [hunevaluated, hcolumns]
  rfl

/-- A route is without a status exactly if its source is excluded or no ROA covers it. -/
theorem singleValidateRoute_eq_notFound_iff (ip : IP) (asn : Nat) (source : String) :
    singleValidateRoute s roas ip asn source = .notFound ↔
      (s.source source).rpkiExcluded = true ∨ ∀ roa ∈ roas, roa.ipPrefix.contains ip = false := by
  unfold singleValidateRoute
  split
  · next hexcluded => simp [hexcluded]
  · next hincluded =>
    simp only [List.filter_eq_nil_iff, Bool.not_eq_true, hincluded]
    split
    · next hnone => simpa using hnone
    · next hcovered =>
      simp only [hcovered]
      split <;> simp

/-- The status that a refresh gives to the row of a route. -/
theorem rpkiStatusFor_route {ip : IP} {asn : Nat} {row : RPSLDatabaseObject} (trie : PrefixItems)
    (hroas : ∀ roa ∈ roas, WellFormed roa.ipPrefix) (hroute : ParsedRoute o ip asn)
    (hsource : row.source = o.source) (hclass : row.objectClass = o.rpslObjectClass)
    (hipFirst : row.ipFirst = o.ipFirst) (hprefixLength : row.prefixLength = o.prefixLength)
    (hasnFirst : row.asnFirst = o.asnFirst) :
    rpkiStatusFor trie (.new s roas) row =
      if o.source = rpkiIrrPseudoSource then row.rpkiStatus
      else originVerdict s roas o := by
  have hrelevant : row.objectClass ∈ ["route", "route6"] := by
    rw [hclass]
    exact of_decide_eq_true hroute.isRoute
  have hverdict : BulkRouteROAValidator.verdict trie (.new s roas) row =
      some (originVerdict s roas o) := by
    unfold BulkRouteROAValidator.verdict originVerdict
    rw [hipFirst, hprefixLength, hasnFirst, hsource, hroute.ipFirst, hroute.prefixLength,
      hroute.ipPrefix, hroute.asnFirst]
    exact congrArg some (validateRoute_eq_single trie hroas hroute.wellFormed asn o.source)
  unfold rpkiStatusFor BulkRouteROAValidator.isValidated
  rw [hverdict, hsource]
  by_cases hpseudo : o.source = rpkiIrrPseudoSource
  · simp [hpseudo]
  · simp only [hrelevant, hpseudo, ne_eq, not_false_eq_true, and_self, decide_true, if_true,
      if_false, Option.getD_some]

/-- The row of a route that was just imported keeps its RPKI status in a refresh with the same ROAs
exactly if the path validated it, or the refresh gives it no status either. -/
theorem refreshed_eq_imported_iff {ip : IP} {asn : Nat} (trie : PrefixItems) (path : ImportPath)
    (hroas : ∀ roa ∈ roas, WellFormed roa.ipPrefix) (hroute : ParsedRoute o ip asn)
    (hinitial : InitialWrites initial)
    (hreach : Reaches (writeStep s limit) (fun _ _ ↦ True) initial t)
    (hstep : writeStep s limit t (now, .upsertRpslObject (path.assign s v trie roas o.asParsed)
      origin sourceSerial created) = some t')
    (hcommit : { t'.handler with now := later }.commit s = some h) :
    ∃ row ∈ h.committed.objects.rows, row.key = ⟨o.pk, o.source, o.rpslObjectClass⟩ ∧
      (rpkiStatusFor trie (.new s roas) row = row.rpkiStatus ↔
        path.validates s o = true ∨ (s.source o.source).rpkiExcluded = true ∨
          (∀ roa ∈ roas, roa.ipPrefix.contains ip = false) ∨ o.source = rpkiIrrPseudoSource) := by
  obtain ⟨row, hrow, hcolumns⟩ := committedRow_of_upsert hinitial hreach hstep hcommit
  rw [objectColumns_assign] at hcolumns
  have hkey : row.key = ⟨o.pk, o.source, o.rpslObjectClass⟩ :=
    (congrArg ObjectColumns.key hcolumns :)
  have hstatus : row.rpkiStatus =
      if path.validates s o then originVerdict s roas o else .notFound :=
    (congrArg ObjectColumns.rpkiStatus hcolumns :).trans (assign_rpkiStatus trie hroas hroute path)
  have hrefreshed := rpkiStatusFor_route trie (s := s) hroas hroute
    (congrArg ObjectColumns.source hcolumns :) (congrArg ObjectColumns.objectClass hcolumns :)
    (congrArg ObjectColumns.ipFirst hcolumns :) (congrArg ObjectColumns.prefixLength hcolumns :)
    (congrArg ObjectColumns.asnFirst hcolumns :)
  refine ⟨row, hrow, hkey, ?_⟩
  rw [hrefreshed, hstatus]
  by_cases hpseudo : o.source = rpkiIrrPseudoSource
  · simp [hpseudo]
  by_cases hvalidates : path.validates s o = true
  · simp [hpseudo, hvalidates]
  · have hverdict : originVerdict s roas o = singleValidateRoute s roas ip asn o.source := by
      simp [originVerdict, hroute.ipPrefix, hroute.asnFirst]
    rw [if_neg hpseudo, if_neg hvalidates, hverdict, singleValidateRoute_eq_notFound_iff]
    simp [hpseudo, hvalidates]

/-- Whether an object may be visible: it is in scope and, where there is a source of ROAs, it is no
invalid route. -/
def MayBeVisible (s : Settings) (v : ScopeFilterValidator) (roas : List ROADatabaseObject)
    (o : RPSLObject) : Prop :=
  v.validateRpslObject s o = .inScope ∧
    (isSet s.roaSource = true → o.isRoute = true → originVerdict s roas o ≠ .invalid)

/-- When a path stores an object as visible exactly where it may be. A request that creates an
object always does, and one that modifies it does where it is in scope. The other paths do for
objects out of scope or of another class and for other verdicts, and for invalid routes where they
validate them exactly if there is a source of ROAs. -/
def WritePath.Permits (s : Settings) (v : ScopeFilterValidator) (roas : List ROADatabaseObject)
    (o : RPSLObject) : WritePath → Prop
  | .changeRequest current => current.isSome = true → v.validateRpslObject s o = .inScope
  | .imported path => v.validateRpslObject s o = .inScope → o.isRoute = true →
      originVerdict s roas o = .invalid → path.validates s o = isSet s.roaSource

/-- A change request that succeeds has found no invalid route, and nothing out of scope unless it
modifies an object. -/
theorem write_changeRequest {current : Option RPSLObject} {o' : RPSLObject}
    (hwrite : (WritePath.changeRequest current).write s v trie roas o = some o') :
    o' = o ∧ (isSet s.roaSource = true → o.isRoute = true → originVerdict s roas o ≠ .invalid) ∧
      (current.isSome = false → v.validateRpslObject s o = .inScope) := by
  obtain ⟨⟨hroa, hscope, -⟩, hsame⟩ := Option.ite_none_right_eq_some.mp hwrite
  refine ⟨(Option.some_inj.mp hsame).symm, fun haware hisRoute ↦ ?_, fun hnew ↦ ?_⟩
  · have hnoDelete : (if current.isSome then UpdateRequestType.modify else .create) ≠ .delete := by
      cases current <;> simp
    unfold checkConflictingRoa at hroa
    rw [haware, hisRoute, if_neg (by simp), if_neg hnoDelete] at hroa
    unfold originVerdict
    rcases hip : o.ipPrefix with _ | ip
    · simp [hip] at hroa
    rcases hasn : o.asnFirst with _ | asn
    · simp [hip, hasn] at hroa
    rw [hip, hasn] at hroa
    dsimp only at hroa
    split at hroa
    · cases hroa
    · exact of_decide_eq_true (Option.some_inj.mp hroa)
  · unfold checkScopefilter at hscope
    simpa [hnew] using hscope

/-- What a path writes is visible in scope exactly where it may be, under the condition for the
path. -/
theorem writtenVisible_iff {path : WritePath} {o' : RPSLObject}
    (hroas : ∀ roa ∈ roas, WellFormed roa.ipPrefix)
    (hroute : o.isRoute = true → ∃ ip asn, ParsedRoute o ip asn)
    (hwrite : path.write s v trie roas o.asParsed = some o') :
    ((o'.rpkiStatus.isVisible = true ∧ o'.scopefilterStatus.isVisible = true) ↔
        MayBeVisible s v roas o) ↔ path.Permits s v roas o := by
  cases path with
  | changeRequest current =>
    obtain ⟨rfl, hroa, hscope⟩ := write_changeRequest hwrite
    have hroa : isSet s.roaSource = true → o.isRoute = true → originVerdict s roas o ≠ .invalid :=
      hroa
    have hscope : current.isSome = false → v.validateRpslObject s o = .inScope := hscope
    have hvisible : o.asParsed.rpkiStatus.isVisible = true ∧
        o.asParsed.scopefilterStatus.isVisible = true := ⟨rfl, rfl⟩
    have hmay : MayBeVisible s v roas o ↔ v.validateRpslObject s o = .inScope :=
      ⟨fun h ↦ h.1, fun h ↦ ⟨h, hroa⟩⟩
    rw [hmay, iff_true_left hvisible]
    unfold WritePath.Permits
    cases hcurrent : current.isSome with
    | false => simp [hcurrent, hscope hcurrent]
    | true => simp [hcurrent]
  | imported path =>
    obtain rfl := Option.some_inj.mp hwrite
    have hscope : (path.assign s v trie roas o.asParsed).scopefilterStatus =
        v.validateRpslObject s o := assign_scopefilterStatus trie o.asParsed path
    have hinScope : (v.validateRpslObject s o).isVisible = true ↔
        v.validateRpslObject s o = .inScope := by
      cases v.validateRpslObject s o <;> simp [ScopeFilterStatus.isVisible]
    unfold MayBeVisible WritePath.Permits
    rw [hscope, hinScope]
    by_cases hin : v.validateRpslObject s o = .inScope
    · cases hisRoute : o.isRoute with
      | false =>
        rw [assign_rpkiStatus_of_not_route trie hisRoute]
        simp [hin, RPKIStatus.isVisible]
      | true =>
        obtain ⟨ip, asn, hparsed⟩ := hroute hisRoute
        rw [assign_rpkiStatus trie hroas hparsed]
        cases hvalidates : path.validates s o <;> cases haware : isSet s.roaSource <;>
          cases hverdict : originVerdict s roas o <;> simp [hin, hvalidates, RPKIStatus.isVisible]
    · simp [hin]

/-- The row of an object that a path writes is visible, as far as the RPKI and the scope filter are
concerned, exactly where the object may be, under the condition for the path. -/
theorem committedVisible_iff {o' : RPSLObject} (trie : PrefixItems) (path : WritePath)
    (hroas : ∀ roa ∈ roas, WellFormed roa.ipPrefix)
    (hroute : o.isRoute = true → ∃ ip asn, ParsedRoute o ip asn)
    (hwrite : path.write s v trie roas o.asParsed = some o') (hinitial : InitialWrites initial)
    (hreach : Reaches (writeStep s limit) (fun _ _ ↦ True) initial t)
    (hstep : writeStep s limit t (now, .upsertRpslObject o' origin sourceSerial created) = some t')
    (hcommit : { t'.handler with now := later }.commit s = some h) :
    ∃ row ∈ h.committed.objects.rows, row.key = ⟨o.pk, o.source, o.rpslObjectClass⟩ ∧
      (((row.rpkiStatus.isVisible = true ∧ row.scopefilterStatus.isVisible = true) ↔
        MayBeVisible s v roas o) ↔ path.Permits s v roas o) := by
  obtain ⟨row, hrow, hcolumns⟩ := committedRow_of_upsert hinitial hreach hstep hcommit
  have hkey : row.key = ⟨o'.pk, o'.source, o'.rpslObjectClass⟩ :=
    (congrArg ObjectColumns.key hcolumns :)
  have hrpki : row.rpkiStatus = o'.rpkiStatus := (congrArg ObjectColumns.rpkiStatus hcolumns :)
  have hscope : row.scopefilterStatus = o'.scopefilterStatus :=
    (congrArg ObjectColumns.scopefilterStatus hcolumns :)
  refine ⟨row, hrow, hkey.trans ?_, ?_⟩
  · cases path with
    | changeRequest current =>
      rw [(write_changeRequest hwrite).1]
      rfl
    | imported path =>
      obtain rfl := Option.some_inj.mp hwrite
      cases path <;> rfl
  · rw [hrpki, hscope]
    exact writtenVisible_iff hroas hroute hwrite

end Results

section Examples

/-- A route object. -/
def routeObject (asn : Nat) : RPSLObject where
  rpslObjectClass := "route"
  pk := "192.0.2.0/24AS" ++ toString asn
  source := "TEST"
  parsedData := []
  renderRpslText _ := "route: 192.0.2.0/24\norigin: AS" ++ toString asn ++ "\n"
  ipVersion := some 4
  ipFirst := some ⟨4, 0xC0000200, 32⟩
  ipLast := some ⟨4, 0xC00002FF, 32⟩
  ipPrefix := some ⟨4, 0xC0000200, 24⟩
  prefixLength := some 24
  asnFirst := some asn
  asnLast := some asn
  rpkiStatus := .notFound
  scopefilterStatus := .inScope
  routePreferenceStatus := .visible

theorem parsedRoute_routeObject (asn : Nat) :
    ParsedRoute (routeObject asn) ⟨4, 0xC0000200, 24⟩ asn :=
  ⟨rfl, rfl, rfl, rfl, rfl, ⟨by decide, by decide, by decide⟩⟩

/-- A source of ROAs, and one source of objects. -/
def rpkiAwareSettings : Settings :=
  ⟨true, some "https://example.net/roas.json", [("TEST", ⟨false, false, false, none, none⟩)]⟩

/-- The route of an NRTM operation, with a ROA for another origin. -/
def operationRoute (asn : Nat) : RPSLObject :=
  ImportPath.nrtmOperation.assign rpkiAwareSettings (.loadFilters ⟨[], []⟩) .scan [otherOriginRoa]
    (routeObject asn).asParsed

theorem operationRoute_invalid :
    operationRoute 65530 = { routeObject 65530 with rpkiStatus := .invalid } := rfl

theorem operationRoute_asZero : operationRoute 0 = routeObject 0 := rfl

theorem wellFormed_otherOriginRoa : ∀ roa ∈ [otherOriginRoa], WellFormed roa.ipPrefix := by
  intro roa hroa
  rw [List.mem_singleton.mp hroa]
  exact ⟨by decide, by decide, by decide⟩

/-- A write of an object. -/
def writeObject (s : Settings) (t : WriteRun) (origin : JournalEntryOrigin) (o : RPSLObject) :
    Option WriteRun :=
  writeStep s DatabaseHandler.maxRecordsBufferBeforeInsert t
    (1, .upsertRpslObject o origin none none)

/-- A route that another path validated keeps its RPKI status in a refresh. -/
theorem refreshed_operationRoute : ∃ t' h,
    writeObject rpkiAwareSettings newWriteRun .mirror (operationRoute 65530) = some t' ∧
    { t'.handler with now := 2 }.commit rpkiAwareSettings = some h ∧
    ∃ row ∈ h.committed.objects.rows, row.key = ⟨"192.0.2.0/24AS65530", "TEST", "route"⟩ ∧
      rpkiStatusFor .scan (.new rpkiAwareSettings [otherOriginRoa]) row = row.rpkiStatus := by
  have hwrite : ∃ t', writeObject rpkiAwareSettings newWriteRun .mirror
      (operationRoute 65530) = some t' ∧
      ∃ h, { t'.handler with now := 2 }.commit rpkiAwareSettings = some h := by
    rw [operationRoute_invalid]
    exact ⟨_, rfl, _, rfl⟩
  obtain ⟨t', hstep, h, hcommit⟩ := hwrite
  obtain ⟨row, hrow, hkey, hiff⟩ := refreshed_eq_imported_iff .scan .nrtmOperation
    wellFormed_otherOriginRoa (parsedRoute_routeObject 65530) ⟨rfl, rfl⟩ (Reaches.refl newWriteRun)
    hstep hcommit
  exact ⟨t', h, hstep, hcommit, row, hrow, hkey, hiff.mpr (Or.inl (by decide))⟩

/-- A route of AS 0 with a covering ROA is stored without a status, and becomes invalid in the next
refresh. -/
theorem refreshed_asZero : ∃ t' h,
    writeObject rpkiAwareSettings newWriteRun .mirror (operationRoute 0) = some t' ∧
    { t'.handler with now := 2 }.commit rpkiAwareSettings = some h ∧
    h.committed.objects.rows.map (fun row ↦ (row.rpslPk, row.rpkiStatus,
        rpkiStatusFor .scan (.new rpkiAwareSettings [otherOriginRoa]) row)) =
      [("192.0.2.0/24AS0", .notFound, .invalid)] := by
  rw [operationRoute_asZero]
  refine ⟨_, _, rfl, rfl, ?_⟩
  decide +kernel

/-- An invalid route is not visible. -/
theorem committed_operationRoute : ∃ t' h,
    writeObject rpkiAwareSettings newWriteRun .mirror (operationRoute 65530) = some t' ∧
    { t'.handler with now := 2 }.commit rpkiAwareSettings = some h ∧
    ∃ row ∈ h.committed.objects.rows, row.key = ⟨"192.0.2.0/24AS65530", "TEST", "route"⟩ ∧
      ((row.rpkiStatus.isVisible = true ∧ row.scopefilterStatus.isVisible = true) ↔
        MayBeVisible rpkiAwareSettings (.loadFilters ⟨[], []⟩) [otherOriginRoa]
          (routeObject 65530)) := by
  have hwrite : ∃ t', writeObject rpkiAwareSettings newWriteRun .mirror (operationRoute 65530) =
      some t' ∧ ∃ h, { t'.handler with now := 2 }.commit rpkiAwareSettings = some h := by
    rw [operationRoute_invalid]
    exact ⟨_, rfl, _, rfl⟩
  obtain ⟨t', hstep, h, hcommit⟩ := hwrite
  obtain ⟨row, hrow, hkey, hiff⟩ := committedVisible_iff .scan (.imported .nrtmOperation)
    wellFormed_otherOriginRoa
    (fun _ ↦ ⟨_, _, parsedRoute_routeObject 65530⟩) rfl ⟨rfl, rfl⟩ (Reaches.refl newWriteRun)
    hstep hcommit
  exact ⟨t', h, hstep, hcommit, row, hrow, hkey, hiff.mpr (fun _ _ _ ↦ by decide)⟩

/-- A database with a route. -/
def storedRun : WriteRun where
  handler := handlerOn [{ storedRoute 0 "TEST" with scopefilterStatus := .outScopePrefix }]
    (by decide)
  store :=
    ⟨⟨[{ storedRoute 0 "TEST" with scopefilterStatus := .outScopePrefix }], by decide⟩, 0, []⟩

/-- A route that is suppressed by the scope filter is visible after it is modified. -/
theorem committed_modifiedOutOfScope : ∃ o' t' h,
    (WritePath.changeRequest (some { routeObject 65530 with renderRpslText _ := "" })).write
      filteredSettings (.loadFilters filteredPrefix) .scan [] (routeObject 65530).asParsed =
        some o' ∧
    InitialWrites storedRun ∧
    writeObject filteredSettings storedRun .authChange o' = some t' ∧
    { t'.handler with now := 2 }.commit filteredSettings = some h ∧
    h.committed.objects.rows.map (fun row ↦ (row.rpslPk, row.scopefilterStatus,
        (ScopeFilterValidator.loadFilters filteredPrefix).verdict filteredSettings row)) =
      [("192.0.2.0/24AS65530", .inScope, .outScopePrefix)] := by
  refine ⟨routeObject 65530, _, _, rfl, ⟨rfl, rfl⟩, rfl, rfl, ?_⟩
  decide +kernel

end Examples

end Irrd.Updates
