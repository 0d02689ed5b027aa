import Irrd.Base.ThreeValued
import Irrd.Rpki.Importer
import Irrd.Rpsl.ObjectAddresses
import Irrd.Rpsl.WrittenObject
import Irrd.Storage.HandlerRun

/-!
# Queries for objects

The query builder for `rpsl_objects`, by the conditions that its filters add. Lookups by address
use the prefix or the first and last address, depending on the filters before them. For objects
other than inetnums both are the same. Source: `irrd/storage/queries.py`.
-/

namespace Irrd.Storage

open Irrd.Base Irrd.Conf Irrd.Rpki Irrd.Rpsl Irrd.Scopefilter Irrd.Utils

/-- A condition on a row of `rpsl_objects`. -/
abbrev RowCondition := RPSLDatabaseObject → Truth

section Operators

/-- Comparison of `inet` values: the leading bits that both have, their lengths, then all bits. -/
def networkCmp (a b : IP) : Ordering :=
  let n := min a.prefixlen b.prefixlen
  (compare a.version b.version).then ((compare (a.networkBits n) (b.networkBits n)).then
    ((compare a.prefixlen b.prefixlen).then (compare a.int b.int)))

/-- `<=` of `inet` values. -/
def networkLe (a b : IP) : Bool := (networkCmp a b).isLE

/-- `>=` of `inet` values. -/
def networkGe (a b : IP) : Bool := (networkCmp a b).isGE

/-- `=` of `inet` values. -/
def networkEq (a b : IP) : Bool := (networkCmp a b).isEq

end Operators

section Conditions

variable (ip : IP) (row : RPSLDatabaseObject)

/-- `ip_exact`. -/
def ipExactCondition : Truth :=
  Truth.all [.compare networkEq row.ipFirst ip.net, .compare networkEq row.ipLast ip.broadcast,
    .compare (· = ·) row.ipVersion ip.version]

/-- `ip_less_specific` on the prefix. -/
def ipLessSpecificPrefix : Truth := .compare IP.contains row.ipPrefix ip

/-- `ip_less_specific` on the first and last address. -/
def ipLessSpecificRange : Truth :=
  Truth.all [.compare networkLe row.ipFirst ip.net, .compare networkGe row.ipLast ip.broadcast,
    .compare (· = ·) row.ipVersion ip.version]

/-- `ip_more_specific` on the prefix. -/
def ipMoreSpecificPrefix : Truth := .compare IP.strictlyInside row.ipPrefix ip

/-- `ip_more_specific` on the first and last address. -/
def ipMoreSpecificRange : Truth :=
  Truth.all [.compare networkGe row.ipFirst ip.net, .compare networkLe row.ipFirst ip.broadcast,
    .compare networkLe row.ipLast ip.broadcast, .compare networkGe row.ipLast ip.net,
    .compare (· = ·) row.ipVersion ip.version,
    .not (.and (.compare networkEq row.ipFirst ip.net)
      (.compare networkEq row.ipLast ip.broadcast))]

/-- `ip_any` on the prefix. -/
def ipAnyPrefix : Truth :=
  .or (.compare IP.contains row.ipPrefix ip) (.compare IP.strictlyInside row.ipPrefix ip)

/-- `ip_any` on the first and last address. -/
def ipAnyRange : Truth :=
  .and (.or
      (.and (.compare networkLe row.ipFirst ip.net) (.compare networkGe row.ipLast ip.broadcast))
      (Truth.all [.compare networkGe row.ipFirst ip.net,
        .compare networkLe row.ipFirst ip.broadcast, .compare networkLe row.ipLast ip.broadcast,
        .compare networkGe row.ipLast ip.net]))
    (.compare (· = ·) row.ipVersion ip.version)

end Conditions

/-- The lookups by address that have two conditions. -/
inductive AddressLookup
  | ipLessSpecific
  | ipMoreSpecific
  | ipAny
  deriving DecidableEq

namespace AddressLookup

/-- The condition on the prefix. -/
def prefixCondition : AddressLookup → IP → RowCondition
  | ipLessSpecific => ipLessSpecificPrefix
  | ipMoreSpecific => ipMoreSpecificPrefix
  | ipAny => ipAnyPrefix

/-- The condition on the first and last address. -/
def rangeCondition : AddressLookup → IP → RowCondition
  | ipLessSpecific => ipLessSpecificRange
  | ipMoreSpecific => ipMoreSpecificRange
  | ipAny => ipAnyRange

end AddressLookup

/-- `RPSLDatabaseQuery`, by the classes of the last `object_classes` and the conditions so far.
Sorting, limits and freezing are left out. -/
structure RPSLDatabaseQuery where
  setObjectClasses : List String
  conditions : List RowCondition

namespace RPSLDatabaseQuery

variable (inetnumSearchDisabled : Bool) (q : RPSLDatabaseQuery)

/-- `__init__`. -/
def new : RPSLDatabaseQuery := ⟨[], []⟩

/-- `_filter`. -/
def filter (fltr : RowCondition) : RPSLDatabaseQuery :=
  { q with conditions := q.conditions ++ [fltr] }

/-- `rpsl_pks`. -/
def rpslPks (pks : List String) : RPSLDatabaseQuery :=
  let pks := pks.map (fun pk ↦ display (strip (upper pk).toList))
  q.filter (fun row ↦ some (decide (row.rpslPk ∈ pks)))

/-- `sources`. -/
def sources (sources : List String) : RPSLDatabaseQuery :=
  let sources := sources.map (fun source ↦ display (strip (upper source).toList))
  q.filter (fun row ↦ some (decide (row.source ∈ sources)))

/-- `object_classes`. -/
def objectClasses (classes : List String) : RPSLDatabaseQuery :=
  { q with setObjectClasses := classes }.filter
    (fun row ↦ some (decide (row.objectClass ∈ classes)))

/-- `_prefix_query_permitted`, `irrd/storage/queries.py:444–447`. -/
def prefixQueryPermitted : Bool :=
  inetnumSearchDisabled || (q.setObjectClasses ≠ [] && "inetnum" ∉ q.setObjectClasses)

/-- `ip_exact`. -/
def ipExact (ip : IP) : RPSLDatabaseQuery := q.filter (ipExactCondition ip)

/-- `ip_less_specific`, `ip_more_specific` or `ip_any`,
`irrd/storage/queries.py:244–255,287–340`. -/
def addressLookup (lookup : AddressLookup) (ip : IP) : RPSLDatabaseQuery :=
  q.filter (if q.prefixQueryPermitted inetnumSearchDisabled then lookup.prefixCondition ip
    else lookup.rangeCondition ip)

/-- `asn`. -/
def asn (asn : Nat) : RPSLDatabaseQuery :=
  q.filter (fun row ↦ .and (.compare (· = ·) row.asnFirst asn) (.compare (· = ·) row.asnLast asn))

/-- `asns_first`. -/
def asnsFirst (asns : List Nat) : RPSLDatabaseQuery :=
  q.filter (fun row ↦ .compare (· ∈ ·) row.asnFirst asns)

/-- `asn_less_specific`. -/
def asnLessSpecific (asn : Nat) : RPSLDatabaseQuery :=
  q.filter (fun row ↦ .and (.compare (· ≤ ·) row.asnFirst asn) (.compare (· ≥ ·) row.asnLast asn))

/-- `rpki_status`. -/
def rpkiStatus (status : List RPKIStatus) : RPSLDatabaseQuery :=
  q.filter (fun row ↦ some (decide (row.rpkiStatus ∈ status)))

/-- `scopefilter_status`. -/
def scopefilterStatus (status : List ScopeFilterStatus) : RPSLDatabaseQuery :=
  q.filter (fun row ↦ some (decide (row.scopefilterStatus ∈ status)))

/-- `route_preference_status`. -/
def routePreferenceStatus (status : List RoutePreferenceStatus) : RPSLDatabaseQuery :=
  q.filter (fun row ↦ some (decide (row.routePreferenceStatus ∈ status)))

/-- `default_suppression`. -/
def defaultSuppression : RPSLDatabaseQuery :=
  ((q.rpkiStatus [.notFound, .valid]).scopefilterStatus [.inScope]).routePreferenceStatus
    [.visible]

/-- The rows that the statement selects. -/
def select (rows : List RPSLDatabaseObject) : List RPSLDatabaseObject :=
  rows.filter (fun row ↦ q.conditions.all (fun fltr ↦ (fltr row).holds))

end RPSLDatabaseQuery

/-- A filter that is added to a query. -/
inductive QueryFilter
  | rpslPks (pks : List String)
  | sources (names : List String)
  | objectClasses (classes : List String)
  | ipExact (ip : IP)
  | addressLookup (lookup : AddressLookup) (ip : IP)
  | asn (n : Nat)
  | asnsFirst (asns : List Nat)
  | asnLessSpecific (n : Nat)
  | rpkiStatus (values : List RPKIStatus)
  | scopefilterStatus (values : List ScopeFilterStatus)
  | routePreferenceStatus (values : List RoutePreferenceStatus)

namespace QueryFilter

/-- The query with the filter. -/
def apply (inetnumSearchDisabled : Bool) (q : RPSLDatabaseQuery) :
    QueryFilter → RPSLDatabaseQuery
  | rpslPks pks => q.rpslPks pks
  | sources names => q.sources names
  | objectClasses classes => q.objectClasses classes
  | ipExact ip => q.ipExact ip
  | addressLookup lookup ip => q.addressLookup inetnumSearchDisabled lookup ip
  | asn n => q.asn n
  | asnsFirst asns => q.asnsFirst asns
  | asnLessSpecific n => q.asnLessSpecific n
  | rpkiStatus values => q.rpkiStatus values
  | scopefilterStatus values => q.scopefilterStatus values
  | routePreferenceStatus values => q.routePreferenceStatus values

end QueryFilter

/-- A query with filters added one after the other. -/
def queryWith (inetnumSearchDisabled : Bool) (filters : List QueryFilter) : RPSLDatabaseQuery :=
  filters.foldl (QueryFilter.apply inetnumSearchDisabled) .new

section Addresses

variable {a b : IP}

/-- Single addresses of a version are compared as numbers. -/
theorem networkCmp_of_isAddress (ha : a.IsAddress) (hb : b.IsAddress)
    (hversion : a.version = b.version) : networkCmp a b = compare a.int b.int := by
  have hbits := IP.bits_eq_bits hversion
  have hlength : a.prefixlen = b.prefixlen := by rw [ha, hb, hbits]
  have hmin : min a.prefixlen b.prefixlen = a.bits := by rw [← hlength, min_self, ha]
  have hall (ip : IP) (h : ip.bits = a.bits) : ip.networkBits a.bits = ip.int := by
    rw [IP.networkBits, h, Nat.sub_self, Nat.pow_zero, Nat.div_one]
  simp only [networkCmp, hmin, hall a rfl, hall b hbits.symm]
  rw [Nat.compare_eq_eq.mpr hversion, Nat.compare_eq_eq.mpr hlength]
  cases compare a.int b.int <;> rfl

theorem networkLe_eq (ha : a.IsAddress) (hb : b.IsAddress) (hversion : a.version = b.version) :
    networkLe a b = decide (a.int ≤ b.int) := by
  rw [networkLe, networkCmp_of_isAddress ha hb hversion, Bool.eq_iff_iff, Nat.isLE_compare,
    decide_eq_true_eq]

theorem networkGe_eq (ha : a.IsAddress) (hb : b.IsAddress) (hversion : a.version = b.version) :
    networkGe a b = decide (b.int ≤ a.int) := by
  rw [networkGe, networkCmp_of_isAddress ha hb hversion, Bool.eq_iff_iff, Nat.isGE_compare,
    decide_eq_true_eq]

theorem networkEq_eq (ha : a.IsAddress) (hb : b.IsAddress) (hversion : a.version = b.version) :
    networkEq a b = decide (a.int = b.int) := by
  rw [networkEq, networkCmp_of_isAddress ha hb hversion, Bool.eq_iff_iff, decide_eq_true_eq,
    ← Nat.compare_eq_eq]
  cases compare a.int b.int <;> simp [Ordering.isEq]

end Addresses

section Rows

variable {row : RPSLDatabaseObject} {ip : IP}

/-- The columns of a row hold the addresses of a network, or none. -/
def RPSLDatabaseObject.HasNetwork (row : RPSLDatabaseObject) : Prop :=
  (row.ipFirst = none ∧ row.ipLast = none ∧ row.ipPrefix = none) ∨
    ∃ net : IP, net.IsNetwork ∧ row.ipVersion = some net.version ∧ row.ipFirst = some net.net ∧
      row.ipLast = some net.broadcast ∧ row.ipPrefix = some net

/-- The condition on the first and last address of the rows that hold a network. -/
theorem holds_rangeCondition_iff {net : IP} (hversion : row.ipVersion = some net.version)
    (hfirst : row.ipFirst = some net.net) (hlast : row.ipLast = some net.broadcast)
    (lookup : AddressLookup) :
    (lookup.rangeCondition ip row).holds = true ↔ net.version = ip.version ∧
      match lookup with
      | .ipLessSpecific => net.net.int ≤ ip.net.int ∧ ip.broadcast.int ≤ net.broadcast.int
      | .ipMoreSpecific => (ip.net.int ≤ net.net.int ∧ net.broadcast.int ≤ ip.broadcast.int) ∧
          ¬ (net.net.int = ip.net.int ∧ net.broadcast.int = ip.broadcast.int)
      | .ipAny => (net.net.int ≤ ip.net.int ∧ ip.broadcast.int ≤ net.broadcast.int) ∨
          (ip.net.int ≤ net.net.int ∧ net.broadcast.int ≤ ip.broadcast.int) := by
  have hfirst' := IP.isAddress_net net
  have hfirstIp := IP.isAddress_net ip
  have hlast' := IP.isAddress_broadcast net
  have hlastIp := IP.isAddress_broadcast ip
  have hsize : net.net.int ≤ net.broadcast.int := IP.int_le_broadcast net
  have hsizeIp : ip.net.int ≤ ip.broadcast.int := IP.int_le_broadcast ip
  by_cases hsame : net.version = ip.version
  · cases lookup with
    | ipLessSpecific =>
      simp only [AddressLookup.rangeCondition, ipLessSpecificRange, hversion, hfirst, hlast,
        Truth.compare_some, networkLe_eq hfirst' hfirstIp hsame,
        networkGe_eq hlast' hlastIp hsame]
      simp [hsame]
    | ipMoreSpecific =>
      simp only [AddressLookup.rangeCondition, ipMoreSpecificRange, hversion, hfirst, hlast,
        Truth.compare_some, networkGe_eq hfirst' hfirstIp hsame, networkLe_eq hfirst' hlastIp hsame,
        networkLe_eq hlast' hlastIp hsame, networkGe_eq hlast' hfirstIp hsame,
        networkEq_eq hfirst' hfirstIp hsame, networkEq_eq hlast' hlastIp hsame]
      simp [hsame]
      omega
    | ipAny =>
      simp only [AddressLookup.rangeCondition, ipAnyRange, hversion, hfirst, hlast,
        Truth.compare_some, networkGe_eq hfirst' hfirstIp hsame, networkLe_eq hfirst' hlastIp hsame,
        networkLe_eq hlast' hlastIp hsame, networkGe_eq hlast' hfirstIp hsame,
        networkLe_eq hfirst' hfirstIp hsame, networkGe_eq hlast' hlastIp hsame]
      simp [hsame]
      omega
  · cases lookup <;> simp [AddressLookup.rangeCondition, ipLessSpecificRange, ipMoreSpecificRange,
      ipAnyRange, hversion, hsame]

/-- For the addresses of a network, the conditions of a lookup select the same rows. -/
theorem holds_prefixCondition (hrow : row.HasNetwork) (hip : ip.IsNetwork)
    (lookup : AddressLookup) :
    (lookup.prefixCondition ip row).holds = (lookup.rangeCondition ip row).holds := by
  rcases hrow with ⟨hfirst, hlast, hnetwork⟩ | ⟨net, hnet, hversion, hfirst, hlast, hnetwork⟩
  · cases lookup <;> simp [AddressLookup.prefixCondition, AddressLookup.rangeCondition,
      ipLessSpecificPrefix, ipMoreSpecificPrefix, ipAnyPrefix, ipLessSpecificRange,
      ipMoreSpecificRange, ipAnyRange, hfirst, hlast, hnetwork]
  · have hcontains := IP.contains_iff hnet hip
    have hinside := IP.strictlyInside_iff hnet hip
    rw [IP.contains_iff hip hnet, eq_comm (a := ip.version)] at hinside
    rw [Bool.eq_iff_iff, holds_rangeCondition_iff hversion hfirst hlast lookup]
    cases lookup with
    | ipLessSpecific =>
      simp only [AddressLookup.prefixCondition, ipLessSpecificPrefix, hnetwork, Truth.compare_some,
        Truth.holds_some]
      exact hcontains
    | ipMoreSpecific =>
      simp only [AddressLookup.prefixCondition, ipMoreSpecificPrefix, hnetwork, Truth.compare_some,
        Truth.holds_some]
      rw [hinside, and_assoc]
    | ipAny =>
      simp only [AddressLookup.prefixCondition, ipAnyPrefix, hnetwork, Truth.compare_some,
        Truth.holds_or, Truth.holds_some, Bool.or_eq_true]
      rw [hcontains, hinside]
      constructor
      · rintro (⟨hsame, hless⟩ | ⟨⟨hsame, hmore⟩, -⟩)
        · exact ⟨hsame, .inl hless⟩
        · exact ⟨hsame, .inr hmore⟩
      · rintro ⟨hsame, hless | hmore⟩
        · exact .inl ⟨hsame, hless⟩
        · by_cases hequal : net.net.int = ip.net.int ∧ net.broadcast.int = ip.broadcast.int
          · exact .inl ⟨hsame, by omega, by omega⟩
          · exact .inr ⟨⟨hsame, hmore⟩, hequal⟩

end Rows

section Written

variable {env : Environment}

/-- An object that is written: one that was parsed, or the pseudo-IRR object of a ROA. -/
inductive IsWritten (env : Environment) : RPSLObject → Prop
  | parsed (text : List Char) (strictValidation : Bool) (defaultSource : Option (List Char))
      (obj : ParsedObject) (render : RenderSettings)
      (h : rpslObjectFromText env text strictValidation defaultSource = .ok obj) :
      IsWritten env (writtenObject render obj)
  | pseudoIrr (s : Settings) (v : ScopeFilterValidator) (ipy : IPyFunctions)
      (pseudoIrrRemarks : Nat → String → String) (r : ROA) (hnetwork : r.ipPrefix.IsNetwork) :
      IsWritten env (r.rpslObject s v ipy pseudoIrrRemarks)

/-- The class and addresses of a row are as the handler wrote them. -/
def RPSLDatabaseObject.HoldsWritten (env : Environment) (row : RPSLDatabaseObject) : Prop :=
  ∃ (h : DatabaseHandler) (o : RPSLObject), IsWritten env o ∧
    row.objectClass = (h.objectColumns o).objectClass ∧
    row.ipVersion = (h.objectColumns o).ipVersion ∧ row.ipFirst = (h.objectColumns o).ipFirst ∧
    row.ipLast = (h.objectColumns o).ipLast ∧ row.ipPrefix = (h.objectColumns o).ipPrefix

/-- A row of a class other than inetnum holds the addresses of a network, or none. -/
theorem hasNetwork_of_holdsWritten (henv : ReadsNetworks env) {row : RPSLDatabaseObject}
    (hrow : row.HoldsWritten env) (hclass : row.objectClass ≠ "inetnum") : row.HasNetwork := by
  obtain ⟨h, o, ho, hclass', hversion, hfirst, hlast, hnetwork⟩ := hrow
  cases ho with
  | parsed text strictValidation defaultSource obj render hobj =>
    have hnetwork := isOfNetwork_rpslObjectFromText henv hobj (fun heq ↦ hclass (hclass'.trans heq))
    rcases hnetwork with ⟨hfirst', hlast', hnetwork'⟩ | ⟨ip, hip, hfirst', hlast', hnetwork'⟩
    · exact .inl ⟨hfirst.trans hfirst', hlast.trans hlast', hnetwork.trans hnetwork'⟩
    · apply Or.inr
      refine ⟨ip, hip, ?_, hfirst.trans hfirst', hlast.trans hlast', hnetwork.trans hnetwork'⟩
      rw [hversion]
      change obj.resources.ipFirst.map IP.version = _
      rw [hfirst']
      rfl
  | pseudoIrr s v ipy pseudoIrrRemarks r hip =>
    exact .inr ⟨r.ipPrefix, hip, hversion, hfirst, hlast, hnetwork⟩

end Written

section Filters

variable {row : RPSLDatabaseObject} {inetnumSearchDisabled : Bool}

/-- The condition of a filter, on the first and last address where it is a lookup by address. -/
def QueryFilter.condition : QueryFilter → RowCondition
  | .addressLookup lookup ip => lookup.rangeCondition ip
  | fltr => fun row ↦ Truth.all (((fltr.apply false .new).conditions).map (fun c ↦ c row))

/-- The networks that a filter looks up are networks. -/
def QueryFilter.LooksUpNetwork : QueryFilter → Prop
  | .addressLookup _ ip => ip.IsNetwork
  | _ => True

/-- A filter adds its condition to those of a query. -/
theorem all_conditions_apply (hrow : row.HasNetwork) {fltr : QueryFilter}
    (hfltr : fltr.LooksUpNetwork) (q : RPSLDatabaseQuery) :
    (fltr.apply inetnumSearchDisabled q).conditions.all (fun c ↦ (c row).holds) =
      (q.conditions.all (fun c ↦ (c row).holds) && (fltr.condition row).holds) := by
  cases fltr with
  | addressLookup lookup ip =>
    change (q.addressLookup inetnumSearchDisabled lookup ip).conditions.all _ = _
    unfold RPSLDatabaseQuery.addressLookup RPSLDatabaseQuery.filter QueryFilter.condition
    rw [List.all_append, List.all_cons, List.all_nil, Bool.and_true]
    split
    · rw [holds_prefixCondition hrow hfltr]
    · rfl
  | _ =>
    simp only [QueryFilter.condition, Truth.holds_all]
    simp [QueryFilter.apply, RPSLDatabaseQuery.new, RPSLDatabaseQuery.filter,
      RPSLDatabaseQuery.rpslPks, RPSLDatabaseQuery.sources, RPSLDatabaseQuery.objectClasses,
      RPSLDatabaseQuery.ipExact, RPSLDatabaseQuery.asn, RPSLDatabaseQuery.asnsFirst,
      RPSLDatabaseQuery.asnLessSpecific, RPSLDatabaseQuery.rpkiStatus,
      RPSLDatabaseQuery.scopefilterStatus, RPSLDatabaseQuery.routePreferenceStatus]

/-- A query selects the rows that all of its filters select. -/
theorem all_conditions_queryWith (hrow : row.HasNetwork) (filters : List QueryFilter)
    (hfilters : ∀ fltr ∈ filters, fltr.LooksUpNetwork) :
    (queryWith inetnumSearchDisabled filters).conditions.all (fun c ↦ (c row).holds) =
      filters.all (fun fltr ↦ (fltr.condition row).holds) := by
  have hfold (q : RPSLDatabaseQuery) :
      (filters.foldl (QueryFilter.apply inetnumSearchDisabled) q).conditions.all
          (fun c ↦ (c row).holds) =
        (q.conditions.all (fun c ↦ (c row).holds) &&
          filters.all (fun fltr ↦ (fltr.condition row).holds)) := by
    induction filters generalizing q with
    | nil => simp
    | cons fltr filters ih =>
      obtain ⟨hfltr, hfilters⟩ := List.forall_mem_cons.mp hfilters
      rw [List.foldl_cons, ih hfilters, all_conditions_apply hrow hfltr, List.all_cons,
        Bool.and_assoc]
  rw [queryWith, hfold]
  rfl

end Filters

section Paths

variable {env : Environment} {rows : List RPSLDatabaseObject}

theorem select_queryWith (hrows : ∀ row ∈ rows, row.HasNetwork) (inetnumSearchDisabled : Bool)
    {filters : List QueryFilter} (hfilters : ∀ fltr ∈ filters, fltr.LooksUpNetwork) :
    (queryWith inetnumSearchDisabled filters).select rows =
      rows.filter (fun row ↦ filters.all (fun fltr ↦ (fltr.condition row).holds)) :=
  List.filter_congr (fun row hrow ↦ all_conditions_queryWith (hrows row hrow) filters hfilters)

/-- For routes and IPv6 networks, a lookup by address selects the same rows by prefix as by first
and last address, and no order of filters, nor the setting, changes what a query selects. -/
theorem select_eq_of_perm (henv : ReadsNetworks env)
    (hwritten : ∀ row ∈ rows, row.HoldsWritten env)
    (hclasses : ∀ row ∈ rows, row.objectClass ∈ ["route", "route6", "inet6num"]) :
    (∀ (lookup : AddressLookup) (ip : IP), ip.IsNetwork →
      rows.filter (fun row ↦ (lookup.prefixCondition ip row).holds) =
        rows.filter (fun row ↦ (lookup.rangeCondition ip row).holds)) ∧
    ∀ (filters filters' : List QueryFilter) (disabled disabled' : Bool),
      filters.Perm filters' → (∀ fltr ∈ filters, fltr.LooksUpNetwork) →
        (queryWith disabled filters).select rows = (queryWith disabled' filters').select rows := by
  have hrows : ∀ row ∈ rows, row.HasNetwork := by
    intro row hrow
    apply hasNetwork_of_holdsWritten henv (hwritten row hrow)
    intro hinetnum
    have hclass := hclasses row hrow
    rw [hinetnum] at hclass
    exact absurd hclass (by decide)
  constructor
  · intro lookup ip hip
    exact List.filter_congr (fun row hrow ↦ holds_prefixCondition (hrows row hrow) hip lookup)
  · intro filters filters' disabled disabled' hperm hfilters
    have hfilters' : ∀ fltr ∈ filters', fltr.LooksUpNetwork :=
      fun fltr hfltr ↦ hfilters fltr (hperm.mem_iff.mpr hfltr)
    rw [select_queryWith hrows disabled hfilters, select_queryWith hrows disabled' hfilters']
    exact List.filter_congr (fun row _ ↦ hperm.all_eq)

/-- A row that a filter by class leaves out is not selected. -/
theorem all_conditions_of_objectClasses {filters : List QueryFilter} {classes : List String}
    (hmem : .objectClasses classes ∈ filters) {row : RPSLDatabaseObject}
    (hclass : row.objectClass ∉ classes) (inetnumSearchDisabled : Bool) :
    (queryWith inetnumSearchDisabled filters).conditions.all (fun c ↦ (c row).holds) = false := by
  have hkeeps (fltr : QueryFilter) (q : RPSLDatabaseQuery) :
      ∃ c, (fltr.apply inetnumSearchDisabled q).conditions = q.conditions ++ c := by
    cases fltr <;> exact ⟨_, rfl⟩
  have hfold (filters : List QueryFilter) (q : RPSLDatabaseQuery) :
      ∃ c, (filters.foldl (QueryFilter.apply inetnumSearchDisabled) q).conditions =
        q.conditions ++ c := by
    induction filters generalizing q with
    | nil => exact ⟨[], (List.append_nil _).symm⟩
    | cons fltr filters ih =>
      obtain ⟨c, hc⟩ := hkeeps fltr q
      obtain ⟨c', hc'⟩ := ih (fltr.apply inetnumSearchDisabled q)
      exact ⟨c ++ c', by rw [List.foldl_cons, hc', hc, List.append_assoc]⟩
  obtain ⟨before, after, rfl⟩ := List.append_of_mem hmem
  obtain ⟨c, hc⟩ := hfold after ((before.foldl (QueryFilter.apply inetnumSearchDisabled)
    .new).objectClasses classes)
  have hquery : queryWith inetnumSearchDisabled (before ++ .objectClasses classes :: after) =
      after.foldl (QueryFilter.apply inetnumSearchDisabled)
        ((before.foldl (QueryFilter.apply inetnumSearchDisabled) .new).objectClasses classes) := by
    rw [queryWith, List.foldl_append]
    rfl
  rw [hquery, hc]
  simp [RPSLDatabaseQuery.objectClasses, RPSLDatabaseQuery.filter, hclass]

/-- In a table with objects of any class, the order of filters makes no difference to a query for
classes other than inetnum. -/
theorem select_eq_of_objectClasses (henv : ReadsNetworks env)
    (hwritten : ∀ row ∈ rows, row.HoldsWritten env) {filters filters' : List QueryFilter}
    (hperm : filters.Perm filters') (hfilters : ∀ fltr ∈ filters, fltr.LooksUpNetwork)
    {classes : List String} (hmem : .objectClasses classes ∈ filters)
    (hinetnum : "inetnum" ∉ classes) (disabled disabled' : Bool) :
    (queryWith disabled filters).select rows = (queryWith disabled' filters').select rows := by
  apply List.filter_congr
  intro row hrow
  by_cases hclass : row.objectClass = "inetnum"
  · have hnot : row.objectClass ∉ classes := hclass ▸ hinetnum
    rw [all_conditions_of_objectClasses hmem hnot,
      all_conditions_of_objectClasses (hperm.mem_iff.mp hmem) hnot]
  · have hnetwork := hasNetwork_of_holdsWritten henv (hwritten row hrow) hclass
    have hfilters' : ∀ fltr ∈ filters', fltr.LooksUpNetwork :=
      fun fltr hfltr ↦ hfilters fltr (hperm.mem_iff.mpr hfltr)
    rw [all_conditions_queryWith hnetwork filters hfilters,
      all_conditions_queryWith hnetwork filters' hfilters']
    exact hperm.all_eq

end Paths

section Examples

/-- A route, as it is written. -/
def writtenRoute : RPSLDatabaseObject :=
  { newHandler.objectColumns (writtenObject ⟨fun _ ↦ false, fun _ ↦ false, fun _ ↦ []⟩
      ((rpslObjectFromText plainEnvironment
        "route: 192.0.2.0/24\norigin: AS65530\nsource: TEST\n".toList false none).toOption.getD
          (extractObject rpslRoute [] false none))) with
    pk := 0
    created := 0 }

theorem holdsWritten_writtenRoute : writtenRoute.HoldsWritten plainEnvironment :=
  ⟨newHandler, _, .parsed "route: 192.0.2.0/24\norigin: AS65530\nsource: TEST\n".toList false none
    _ ⟨fun _ ↦ false, fun _ ↦ false, fun _ ↦ []⟩ rfl, rfl, rfl, rfl, rfl, rfl⟩

/-- A route is found as less specific of a part of it, whichever filter comes first. -/
theorem select_writtenRoute :
    (queryWith false [.objectClasses ["route"], .addressLookup .ipLessSpecific
      ⟨4, 3221225984, 25⟩]).select [writtenRoute] =
    (queryWith false [.addressLookup .ipLessSpecific ⟨4, 3221225984, 25⟩,
      .objectClasses ["route"]]).select [writtenRoute] ∧
    ((queryWith false [.objectClasses ["route"], .addressLookup .ipLessSpecific
      ⟨4, 3221225984, 25⟩]).select [writtenRoute]).map (fun row ↦ row.rpslPk) =
        ["192.0.2.0/24AS65530"] := by
  have hwritten : ∀ row ∈ [writtenRoute], row.HoldsWritten plainEnvironment :=
    fun row hrow ↦ List.mem_singleton.mp hrow ▸ holdsWritten_writtenRoute
  have hclasses : ∀ row ∈ [writtenRoute], row.objectClass ∈ ["route", "route6", "inet6num"] :=
    fun row hrow ↦ List.mem_singleton.mp hrow ▸ by decide +kernel
  constructor
  · apply (select_eq_of_perm readsNetworks_plainEnvironment hwritten hclasses).2
    · exact List.Perm.swap _ _ _
    · intro fltr hfltr
      rcases List.mem_cons.mp hfltr with rfl | hfltr
      · trivial
      · cases List.mem_singleton.mp hfltr
        exact ⟨.inl rfl, by decide, by decide, by decide⟩
  · decide +kernel

end Examples

end Irrd.Storage
