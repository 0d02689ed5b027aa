import Irrd.Conf.Settings
import Irrd.Storage.DatabaseHandler

/-!
# Scope filter

Which prefixes, AS numbers and objects are in scope, and which stored objects have to change
their status. Source: `irrd/scopefilter/validators.py`. Explanations are left out.
-/

namespace Irrd.Scopefilter

open Irrd.Conf Irrd.Rpsl Irrd.Storage Irrd.Utils

/-- An item of `scopefilter.asns`: an AS number, or a range of them. -/
inductive AsnFilter
  | asn (number : Nat)
  | range (start stop : Nat)
  deriving DecidableEq

/-- The settings `scopefilter.prefixes` and `scopefilter.asns`; without the section, both are
empty. -/
structure ScopeFilterSettings where
  prefixes : List IP
  asns : List AsnFilter
  deriving DecidableEq

/-- `ScopeFilterValidator`, `irrd/scopefilter/validators.py:13–38`. -/
structure ScopeFilterValidator where
  filteredPrefixes : List IP
  filteredAsns : List Nat
  filteredAsnRanges : List (Nat × Nat)

/-- `load_filters`, `irrd/scopefilter/validators.py:22–38`. -/
def ScopeFilterValidator.loadFilters (c : ScopeFilterSettings) : ScopeFilterValidator where
  filteredPrefixes := c.prefixes
  filteredAsns := c.asns.filterMap (fun item ↦
    match item with
    | .asn number => some number
    | .range _ _ => none)
  filteredAsnRanges := c.asns.filterMap (fun item ↦
    match item with
    | .asn _ => none
    | .range start stop => some (start, stop))

/-- The classes that a scope filter is about. -/
def scopefilterObjectClasses : List String := ["route", "route6", "aut-num"]

namespace ScopeFilterValidator

variable (s : Settings) (v : ScopeFilterValidator)

/-- `validate`, `irrd/scopefilter/validators.py:40–65`, of a prefix, an AS number or both. -/
def validate (source : String) (ipPrefix : Option IP) (asn : Option Nat)
    (_hgiven : ipPrefix.isSome ∨ asn.isSome) : ScopeFilterStatus :=
  if (s.source source).scopefilterExcluded then .inScope
  else if ipPrefix.any (fun ip ↦ v.filteredPrefixes.any (fun filtered ↦
      ip.version = filtered.version ∧ filtered.overlaps ip)) then .outScopePrefix
  else if asn.any (fun asn ↦ asn ∈ v.filteredAsns) then .outScopeAs
  else if asn.any (fun asn ↦ v.filteredAsnRanges.any (fun range ↦
      range.1 ≤ asn ∧ asn ≤ range.2)) then .outScopeAs
  else .inScope

/-- The status of an AS number, if there is one. -/
def validateAsn (source : String) : Option Nat → ScopeFilterStatus
  | none => .inScope
  | some asn =>
    match v.validate s source none (some asn) (Or.inr rfl) with
    | .inScope => .inScope
    | asnState => asnState

/-- `_validate_rpsl_data`, `irrd/scopefilter/validators.py:67–87`. -/
def validateRpslData (source objectClass : String) (ipPrefix : Option IP) (asnFirst : Option Nat) :
    ScopeFilterStatus :=
  if objectClass ∉ scopefilterObjectClasses then .inScope
  else
    match ipPrefix with
    | none => v.validateAsn s source asnFirst
    | some ip =>
      match v.validate s source (some ip) none (Or.inl rfl) with
      | .inScope => v.validateAsn s source asnFirst
      | prefixState => prefixState

/-- `validate_rpsl_object`, `irrd/scopefilter/validators.py:89–99`. -/
def validateRpslObject (o : RPSLObject) : ScopeFilterStatus :=
  v.validateRpslData s o.source o.rpslObjectClass o.ipPrefix o.asnFirst

/-- The verdict for a row. -/
def verdict (row : RPSLDatabaseObject) : ScopeFilterStatus :=
  v.validateRpslData s row.source row.objectClass row.ipPrefix row.asnFirst

/-- An object as the first query returns it, with its new status and the one before,
`irrd/scopefilter/validators.py:122–141`. The columns of the second query are not set yet. -/
def evaluated (row : RPSLDatabaseObject) : ChangedObjectDict ScopeFilterStatus where
  pk := row.pk
  rpslPk := row.rpslPk
  source := row.source
  objectClass := row.objectClass
  objectText := ""
  ipPrefix := row.ipPrefix
  rpkiStatus := .notFound
  scopefilterStatus := v.verdict s row
  routePreferenceStatus := .visible
  oldStatus := row.scopefilterStatus

/-- The object with the columns of the second query, `irrd/scopefilter/validators.py:143–152`. -/
def enrich (rows : List RPSLDatabaseObject) (d : ChangedObjectDict ScopeFilterStatus) :
    ChangedObjectDict ScopeFilterStatus :=
  match rows.find? (fun row ↦ row.pk = d.pk) with
  | some row => { d with
      objectText := row.objectText
      rpkiStatus := row.rpkiStatus
      routePreferenceStatus := row.routePreferenceStatus }
  | none => d

/-- The objects that should get a status and do not have it. -/
def changedTo (rows : List RPSLDatabaseObject) (status : ScopeFilterStatus) :
    List (ChangedObjectDict ScopeFilterStatus) :=
  ((rows.filter (fun row ↦ row.objectClass ∈ scopefilterObjectClasses)).filter (fun row ↦
    v.verdict s row ≠ row.scopefilterStatus ∧ v.verdict s row = status)).map (fun row ↦
      enrich rows (v.evaluated s row))

/-- `validate_all_rpsl_objects`, `irrd/scopefilter/validators.py:101–157`. -/
def validateAllRpslObjects (rows : List RPSLDatabaseObject) :
    List (ChangedObjectDict ScopeFilterStatus) × List (ChangedObjectDict ScopeFilterStatus) ×
      List (ChangedObjectDict ScopeFilterStatus) :=
  (v.changedTo s rows .inScope, v.changedTo s rows .outScopeAs, v.changedTo s rows .outScopePrefix)

end ScopeFilterValidator

end Irrd.Scopefilter
