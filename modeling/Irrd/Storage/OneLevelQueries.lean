import Irrd.Base.Fallible
import Irrd.Base.OrderedRows
import Irrd.Storage.Queries

/-!
# Queries one level less specific

Queries with their order and limit, and the lookup of the smallest objects that strictly contain a
range. The size of these is selected by a second statement with the same conditions and a limit of
its own. Source: `irrd/storage/queries.py`.
-/

namespace Irrd.Storage

open Irrd.Base Irrd.Rpsl Irrd.Utils

/-- `lookup_field_names`, `irrd/rpsl/rpsl_objects.py:839–844`. -/
def lookupFieldNames : List String :=
  "origin" :: objectClasses.flatMap (fun c ↦
    ((c.fields.filter RPSLField.lookupKey).map RPSLField.name).filter (· ∉ c.pkFields))

-- The names that `irrd/storage/models.py:654–666` expects.
example : lookupFieldNames.dedup.Perm ["admin-c", "tech-c", "zone-c", "member-of", "mnt-by", "role",
    "members", "person", "mp-members", "origin", "mbrs-by-ref"] := by decide +kernel

/-- A value of `lookup_attrs_in`: `True`, for any value, or a text. -/
inductive LookupValue
  | any
  | text (value : String)
  deriving DecidableEq

/-- `parsed_data ? name`, or `parsed_data->name ? value`. -/
def lookupCondition (name : String) : LookupValue → RowCondition
  | .any => fun row ↦ some (row.parsedData.lookup name).isSome
  | .text value => fun row ↦ (row.parsedData.lookup name).map (fun values ↦ upper value ∈ values)

/-- `ip_less_specific_one_level`, without the size. -/
def oneLevelCondition (ip : IP) : RowCondition := fun row ↦
  Truth.all [.compare networkLe row.ipFirst ip.net, .compare networkGe row.ipLast ip.broadcast,
    .compare (· = ·) row.ipVersion ip.version,
    .not (.and (.compare networkEq row.ipFirst ip.net)
      (.compare networkEq row.ipLast ip.broadcast))]

/-- `RPSLDatabaseQuery` with what decides the order and number of its results. The statement that
selects a size is kept by its conditions. -/
structure LimitedQuery extends RPSLDatabaseQuery where
  sourcesList : List String
  orderedBySources : Bool
  enableOrdering : Bool
  queryFrozen : Bool
  recordLimit : Option Nat
  sizeSubquery : Option (List RowCondition)

namespace LimitedQuery

variable (q : LimitedQuery)

/-- `__init__`. -/
def new (orderedBySources enableOrdering : Bool) : LimitedQuery :=
  ⟨.new, [], orderedBySources, enableOrdering, false, none, none⟩

/-- `_check_query_frozen`. -/
def checkQueryFrozen : Except String Unit :=
  if q.queryFrozen then .error "This query was frozen - no more filters can be applied."
  else .ok ()

/-- `_filter`. -/
def addFilter (fltr : RowCondition) : Except String LimitedQuery := do
  q.checkQueryFrozen
  return { q with toRPSLDatabaseQuery := q.filter fltr }

/-- `pks`. -/
def pks (pks : List Nat) : Except String LimitedQuery :=
  q.addFilter (fun row ↦ some (decide (row.pk ∈ pks)))

/-- `lookup_attrs_in`, `irrd/storage/queries.py:190–229`. Without names or values there is nothing
to add. -/
def lookupAttrsIn (attrNames : List String) (attrValues : List LookupValue) :
    Except String LimitedQuery := do
  let attrNames := attrNames.map (fun name ↦ display (lower name.toList))
  match attrNames.find? (· ∉ lookupFieldNames) with
  | some name => .error s!"Invalid lookup attribute: {name}"
  | none =>
    q.checkQueryFrozen
    match attrNames.flatMap (fun name ↦ attrValues.map (lookupCondition name)) with
    | [] => return q
    | fltrs => q.addFilter (fun row ↦ (fltrs.map (· row)).foldr .or (some false))

/-- `limit`. -/
def limit (n : Nat) : LimitedQuery := { q with recordLimit := some n }

/-- `first_only`. -/
def firstOnly : LimitedQuery := q.limit 1

/-- `ip_less_specific_one_level`, `irrd/storage/queries.py:257–285`. -/
def ipLessSpecificOneLevel (ip : IP) : Except String LimitedQuery := do
  q.checkQueryFrozen
  let q := { q with toRPSLDatabaseQuery := q.filter (oneLevelCondition ip) }
  return { q with sizeSubquery := some q.conditions, queryFrozen := true }

/-- Where a source is in the order of the results. -/
def sourcePosition (row : RPSLDatabaseObject) : Nat :=
  match q.sourcesList.idxOf? row.source with
  | some i => i + 1
  | none => 100000

/-- The criteria of `finalise_statement`, `irrd/storage/queries.py:109–136`. -/
def orderBy (collate : String → String → Bool) :
    List (RPSLDatabaseObject → RPSLDatabaseObject → Bool) :=
  let bySource := fun row row' ↦ decide (q.sourcePosition row ≤ q.sourcePosition row')
  (if q.orderedBySources && q.sourcesList ≠ [] then [bySource] else []) ++
    [fun row row' ↦ nullsLast networkLe row.ipFirst row'.ipFirst,
      fun row row' ↦ ascending row.asnFirst row'.asnFirst,
      fun row row' ↦ collate row.rpslPk row'.rpslPk]

/-- Whether the size of a row is the one that the second statement selects, if there is one. -/
def hasSelectedSize (rows : List RPSLDatabaseObject) (row : RPSLDatabaseObject) : Bool :=
  match q.sizeSubquery with
  | none => true
  | some conditions =>
    (Truth.isIn row.ipSize (smallest
      ((RPSLDatabaseQuery.select { q with conditions := conditions } rows).map
        (fun row ↦ row.ipSize)))).holds

/-- The rows of the finalised statement. -/
def execute (collate : String → String → Bool) (rows : List RPSLDatabaseObject) :
    List RPSLDatabaseObject :=
  let selected := (q.select rows).filter (q.hasSelectedSize rows)
  let ordered := if q.enableOrdering then selected.mergeSort (orderedBy (q.orderBy collate))
    else selected
  match q.recordLimit with
  | none => ordered
  | some n => ordered.take n

end LimitedQuery

/-- A call on a query, before that of one level. -/
inductive QueryCall
  | filter (fltr : QueryFilter)
  | pks (keys : List Nat)
  | lookupAttrsIn (attrNames : List String) (attrValues : List LookupValue)
  | limit (n : Nat)
  | firstOnly

namespace QueryCall

/-- The query after a call. -/
def apply (inetnumSearchDisabled : Bool) (q : LimitedQuery) : QueryCall → Except String LimitedQuery
  | filter fltr => do
    q.checkQueryFrozen
    return { q with
      toRPSLDatabaseQuery := fltr.apply inetnumSearchDisabled q.toRPSLDatabaseQuery
      sourcesList :=
        match fltr with
        | .sources names => names.map (fun source ↦ display (strip (upper source).toList))
        | _ => q.sourcesList }
  | .pks keys => q.pks keys
  | lookupAttrsIn attrNames attrValues => q.lookupAttrsIn attrNames attrValues
  | limit n => return q.limit n
  | firstOnly => return q.firstOnly

/-- What a call that looks up no address asks of a row. -/
def condition : QueryCall → RowCondition
  | filter fltr => fltr.condition
  | .pks keys => fun row ↦ some (decide (row.pk ∈ keys))
  | lookupAttrsIn attrNames attrValues => fun row ↦
    match attrNames.flatMap (fun name ↦ attrValues.map (fun value ↦
      lookupCondition (display (lower name.toList)) value row)) with
    | [] => some true
    | found => found.foldr .or (some false)
  | _ => fun _ ↦ some true

/-- Whether a call looks up an address by one of two conditions. -/
def LooksUpAddress : QueryCall → Prop
  | filter (.addressLookup ..) => True
  | _ => False

/-- The limit that is set after a call. -/
def limitAfter (previous : Option Nat) : QueryCall → Option Nat
  | limit n => some n
  | firstOnly => some 1
  | _ => previous

/-- Whether a call names an attribute that is not for lookups. -/
def Invalid : QueryCall → Prop
  | lookupAttrsIn attrNames _ =>
    ∃ name ∈ attrNames, display (lower name.toList) ∉ lookupFieldNames
  | _ => False

end QueryCall

/-- A query with calls one after the other. -/
def queryOf (inetnumSearchDisabled orderedBySources enableOrdering : Bool)
    (calls : List QueryCall) : Except String LimitedQuery :=
  calls.foldlM (QueryCall.apply inetnumSearchDisabled) (.new orderedBySources enableOrdering)

/-- The limit that calls leave. -/
def limitOf (calls : List QueryCall) : Option Nat := calls.foldl QueryCall.limitAfter none

section Containing

/-- The range of a row contains another range of its version, and is not the same. -/
def RPSLDatabaseObject.strictlyContains (row : RPSLDatabaseObject) (ip : IP) : Bool :=
  match row.ipFirst, row.ipLast with
  | some first, some last =>
    row.ipVersion = some ip.version && networkLe first ip.net && networkGe last ip.broadcast &&
      !(networkEq first ip.net && networkEq last ip.broadcast)
  | _, _ => false

/-- Of the rows that strictly contain a range, those that have a size, with none smaller. -/
def oneLevelRows (ip : IP) (rows : List RPSLDatabaseObject) : List RPSLDatabaseObject :=
  let containing := rows.filter (·.strictlyContains ip)
  containing.filter (fun row ↦ row.ipSize.isSome &&
    containing.all (fun other ↦ ascending row.ipSize other.ipSize))

variable {row : RPSLDatabaseObject} {ip : IP} {rows : List RPSLDatabaseObject}

theorem mem_oneLevelRows_iff :
    row ∈ oneLevelRows ip rows ↔ row ∈ rows ∧ row.strictlyContains ip = true ∧
      ∃ size, row.ipSize = some size ∧ ∀ other ∈ rows, other.strictlyContains ip = true →
        ∀ otherSize, other.ipSize = some otherSize → size ≤ otherSize := by
  unfold oneLevelRows
  rw [List.mem_filter, List.mem_filter, and_assoc]
  apply and_congr_right
  intro _
  apply and_congr_right
  intro _
  rw [Bool.and_eq_true, List.all_eq_true, Option.isSome_iff_exists]
  constructor
  · rintro ⟨⟨size, hsize⟩, hleast⟩
    refine ⟨size, hsize, fun other hother hcontains otherSize hotherSize ↦ ?_⟩
    have hle := hleast other (List.mem_filter.mpr ⟨hother, hcontains⟩)
    rw [hsize, hotherSize] at hle
    exact of_decide_eq_true hle
  · rintro ⟨size, hsize, hleast⟩
    refine ⟨⟨size, hsize⟩, fun other hother ↦ ?_⟩
    obtain ⟨hother, hcontains⟩ := List.mem_filter.mp hother
    rw [hsize]
    cases hotherSize : other.ipSize with
    | none => rfl
    | some otherSize => exact decide_eq_true (hleast other hother hcontains otherSize hotherSize)

/-- For single addresses of a version, the ends are compared as numbers. -/
theorem strictlyContains_iff {first last : IP} (hfirst : row.ipFirst = some first)
    (hlast : row.ipLast = some last) (hfirstAddress : first.IsAddress)
    (hlastAddress : last.IsAddress) (hfirstVersion : first.version = ip.version)
    (hlastVersion : last.version = ip.version) (hversion : row.ipVersion = some ip.version) :
    row.strictlyContains ip = true ↔ first.int ≤ ip.net.int ∧ ip.broadcast.int ≤ last.int ∧
      ¬ (first.int = ip.net.int ∧ last.int = ip.broadcast.int) := by
  have hnet := IP.isAddress_net ip
  have hbroadcast := IP.isAddress_broadcast ip
  simp only [RPSLDatabaseObject.strictlyContains, hfirst, hlast, hversion,
    networkLe_eq hfirstAddress hnet hfirstVersion,
    networkGe_eq hlastAddress hbroadcast hlastVersion,
    networkEq_eq hfirstAddress hnet hfirstVersion,
    networkEq_eq hlastAddress hbroadcast hlastVersion]
  simp [and_assoc, imp_iff_not_or]

theorem holds_oneLevelCondition :
    (oneLevelCondition ip row).holds = row.strictlyContains ip := by
  unfold oneLevelCondition RPSLDatabaseObject.strictlyContains
  cases row.ipFirst with
  | none => simp
  | some first =>
    cases row.ipLast with
    | none => simp
    | some last =>
      cases row.ipVersion with
      | none => simp
      | some version => simp [Bool.and_assoc, Bool.and_comm, Bool.and_left_comm]

end Containing

section Building

variable {inetnumSearchDisabled orderedBySources enableOrdering : Bool} {q q' : LimitedQuery}
  {call : QueryCall} {calls : List QueryCall}

/-- A query that filters can still be added to, with the limit and the conditions of its calls. -/
structure LimitedQuery.IsOpen (calls : List QueryCall) (q : LimitedQuery) : Prop where
  queryFrozen : q.queryFrozen = false
  recordLimit : q.recordLimit = limitOf calls
  conditions : (∀ call ∈ calls, ¬ call.LooksUpAddress) → ∀ row,
    q.conditions.all (fun c ↦ (c row).holds) = calls.all (fun call ↦ (call.condition row).holds)

theorem LimitedQuery.checkQueryFrozen_of_open {done : List QueryCall} (hq : q.IsOpen done) :
    q.checkQueryFrozen = .ok () := by
  unfold LimitedQuery.checkQueryFrozen
  rw [hq.queryFrozen]
  rfl

theorem limitOf_append_singleton :
    limitOf (calls ++ [call]) = call.limitAfter (limitOf calls) := by
  unfold limitOf
  rw [List.foldl_append]
  rfl

theorem addFilter_of_open (hq : q.IsOpen calls) (fltr : RowCondition) :
    q.addFilter fltr = .ok { q with toRPSLDatabaseQuery := q.filter fltr } := by
  unfold LimitedQuery.addFilter
  rw [LimitedQuery.checkQueryFrozen_of_open hq]
  rfl

theorem find?_of_forall {attrNames : List String}
    (hnames : ∀ name ∈ attrNames, display (lower name.toList) ∈ lookupFieldNames) :
    (attrNames.map (fun name ↦ display (lower name.toList))).find?
      (· ∉ lookupFieldNames) = none := by
  rw [List.find?_eq_none]
  intro name hname
  obtain ⟨attrName, hattrName, rfl⟩ := List.mem_map.mp hname
  simpa using hnames attrName hattrName

/-- A call fails if it is invalid. -/
theorem apply_of_invalid (hcall : call.Invalid) :
    ∃ e, call.apply inetnumSearchDisabled q = .error e := by
  cases call with
  | lookupAttrsIn attrNames attrValues =>
    obtain ⟨name, hname, hnot⟩ := hcall
    change ∃ e, q.lookupAttrsIn attrNames attrValues = .error e
    unfold LimitedQuery.lookupAttrsIn
    cases hfind : (attrNames.map (fun name ↦ display (lower name.toList))).find?
        (· ∉ lookupFieldNames) with
    | none =>
      have hall := List.find?_eq_none.mp hfind _ (List.mem_map_of_mem hname)
      exact absurd hnot (by simpa using hall)
    | some found =>
      simp only [hfind]
      exact ⟨_, rfl⟩
  | _ => exact hcall.elim

theorem conditions_apply (fltr : QueryFilter) (hfltr : ¬ (QueryCall.filter fltr).LooksUpAddress)
    (q : RPSLDatabaseQuery) :
    (fltr.apply inetnumSearchDisabled q).conditions =
      q.conditions ++ (fltr.apply false .new).conditions := by
  cases fltr with
  | addressLookup lookup ip => exact absurd trivial hfltr
  | _ => rfl

theorem holds_condition (fltr : QueryFilter) (hfltr : ¬ (QueryCall.filter fltr).LooksUpAddress)
    (row : RPSLDatabaseObject) :
    (fltr.condition row).holds = (fltr.apply false .new).conditions.all
      (fun c ↦ (c row).holds) := by
  cases fltr with
  | addressLookup lookup ip => exact absurd trivial hfltr
  | _ => simp only [QueryFilter.condition, Truth.holds_all, List.all_map, Function.comp_def]

/-- A query stays open with the conditions of one more call. -/
theorem isOpen_append (hq : q.IsOpen calls) (hfrozen : q'.queryFrozen = false)
    (hlimit : q'.recordLimit = call.limitAfter q.recordLimit)
    (hconditions : ¬ call.LooksUpAddress → ∀ row, q'.conditions.all (fun c ↦ (c row).holds) =
      (q.conditions.all (fun c ↦ (c row).holds) && (call.condition row).holds)) :
    q'.IsOpen (calls ++ [call]) := by
  refine ⟨hfrozen, ?_, fun hcalls row ↦ ?_⟩
  · rw [hlimit, hq.recordLimit, limitOf_append_singleton]
  · obtain ⟨hcalls, hcall⟩ := List.forall_mem_append.mp hcalls
    rw [hconditions (hcall call (List.mem_singleton_self call)) row, hq.conditions hcalls row,
      List.all_append, List.all_cons, List.all_nil, Bool.and_true]

/-- A valid call on an open query succeeds, and leaves it open. -/
theorem apply_of_open (hcall : ¬ call.Invalid) (hq : q.IsOpen calls) :
    ∃ q', call.apply inetnumSearchDisabled q = .ok q' ∧ q'.IsOpen (calls ++ [call]) := by
  have hadd (fltr : RowCondition) (row : RPSLDatabaseObject) :
      (q.filter fltr).conditions.all (fun c ↦ (c row).holds) =
        (q.conditions.all (fun c ↦ (c row).holds) && (fltr row).holds) := by
    unfold RPSLDatabaseQuery.filter
    rw [List.all_append, List.all_cons, List.all_nil, Bool.and_true]
  cases call with
  | filter fltr =>
    unfold QueryCall.apply
    rw [LimitedQuery.checkQueryFrozen_of_open hq]
    refine ⟨_, rfl, isOpen_append hq hq.queryFrozen rfl (fun hfltr row ↦ ?_)⟩
    change (fltr.apply inetnumSearchDisabled q.toRPSLDatabaseQuery).conditions.all _ = _
    rw [conditions_apply fltr hfltr, List.all_append]
    change _ = (_ && (fltr.condition row).holds)
    rw [holds_condition fltr hfltr]
  | pks keys =>
    exact ⟨_, addFilter_of_open hq _, isOpen_append hq hq.queryFrozen rfl (fun _ row ↦ hadd _ row)⟩
  | lookupAttrsIn attrNames attrValues =>
    have hnames : ∀ name ∈ attrNames, display (lower name.toList) ∈ lookupFieldNames := by
      intro name hname
      by_contra hnot
      exact hcall ⟨name, hname, hnot⟩
    change ∃ q', q.lookupAttrsIn attrNames attrValues = .ok q' ∧ _
    unfold LimitedQuery.lookupAttrsIn
    simp only [find?_of_forall hnames, LimitedQuery.checkQueryFrozen_of_open hq]
    have hfound (row : RPSLDatabaseObject) :
        attrNames.flatMap (fun name ↦ attrValues.map (fun value ↦
          lookupCondition (display (lower name.toList)) value row)) =
        ((attrNames.map (fun name ↦ display (lower name.toList))).flatMap
          (fun name ↦ attrValues.map (lookupCondition name))).map (· row) := by
      simp only [List.flatMap_map, List.map_flatMap, List.map_map, Function.comp_def]
    cases hfltrs : (attrNames.map (fun name ↦ display (lower name.toList))).flatMap
        (fun name ↦ attrValues.map (lookupCondition name)) with
    | nil =>
      refine ⟨q, rfl, isOpen_append hq hq.queryFrozen rfl (fun _ row ↦ ?_)⟩
      simp only [QueryCall.condition, hfound, hfltrs]
      exact (Bool.and_true _).symm
    | cons fltr fltrs =>
      refine ⟨_, addFilter_of_open hq _, isOpen_append hq hq.queryFrozen rfl (fun _ row ↦ ?_)⟩
      simp only [QueryCall.condition, hfound, hfltrs]
      exact hadd _ row
  | limit n =>
    refine ⟨_, rfl, isOpen_append hq hq.queryFrozen rfl (fun _ _ ↦ ?_)⟩
    exact (Bool.and_true _).symm
  | firstOnly =>
    refine ⟨_, rfl, isOpen_append hq hq.queryFrozen rfl (fun _ _ ↦ ?_)⟩
    exact (Bool.and_true _).symm

theorem isOpen_new : (LimitedQuery.new orderedBySources enableOrdering).IsOpen [] :=
  ⟨rfl, rfl, fun _ _ ↦ rfl⟩

/-- Calls succeed exactly if each is valid, and leave the query open. -/
theorem queryOf_spec (inetnumSearchDisabled orderedBySources enableOrdering : Bool)
    (calls : List QueryCall) :
    ((∀ call ∈ calls, ¬ call.Invalid) →
      ∃ q, queryOf inetnumSearchDisabled orderedBySources enableOrdering calls = .ok q ∧
        q.IsOpen calls) ∧
    ((∃ call ∈ calls, call.Invalid) →
      ∃ e, queryOf inetnumSearchDisabled orderedBySources enableOrdering calls = .error e) := by
  have hinvalid : ∀ call ∈ calls, call.Invalid → ∀ (done : List QueryCall) (q : LimitedQuery),
      q.IsOpen done → ∃ e, call.apply inetnumSearchDisabled q = .error e :=
    fun _ _ hcall _ _ _ ↦ apply_of_invalid hcall
  have hstep : ∀ call ∈ calls, ¬ call.Invalid → ∀ (done : List QueryCall) (q : LimitedQuery),
      q.IsOpen done → ∃ q', call.apply inetnumSearchDisabled q = .ok q' ∧
        q'.IsOpen (done ++ [call]) :=
    fun _ _ hcall _ _ hq ↦ apply_of_open hcall hq
  exact foldlM_spec hinvalid hstep isOpen_new

theorem isOpen_of_queryOf
    (hq : queryOf inetnumSearchDisabled orderedBySources enableOrdering calls = .ok q) :
    q.IsOpen calls := by
  have hspec := queryOf_spec inetnumSearchDisabled orderedBySources enableOrdering calls
  rw [hq] at hspec
  by_cases hvalid : ∃ call ∈ calls, call.Invalid
  · obtain ⟨e, he⟩ := hspec.2 hvalid
    exact nomatch he
  · obtain ⟨q', hq', hopen⟩ := hspec.1 (fun call hcall hinvalid ↦ hvalid ⟨call, hcall, hinvalid⟩)
    cases hq'
    exact hopen

end Building

section Selected

variable {inetnumSearchDisabled orderedBySources enableOrdering : Bool} {q : LimitedQuery}
  {call : QueryCall} {calls : List QueryCall}

/-- The rows that satisfy all calls are those that a query selects. -/
theorem select_queryOf
    (hq : queryOf inetnumSearchDisabled orderedBySources enableOrdering calls = .ok q)
    (hcalls : ∀ call ∈ calls, ¬ call.LooksUpAddress) (rows : List RPSLDatabaseObject) :
    q.select rows = rows.filter (fun row ↦ calls.all (fun call ↦ (call.condition row).holds)) :=
  List.filter_congr (fun row _ ↦ (isOpen_of_queryOf hq).conditions hcalls row)

/-- To a query that is frozen, only a limit can be added. -/
theorem apply_of_frozen (hq : q.queryFrozen = true) :
    (∃ e, call.apply inetnumSearchDisabled q = .error e) ∨
      ∃ n, call.apply inetnumSearchDisabled q = .ok (q.limit n) := by
  have hcheck : q.checkQueryFrozen =
      .error "This query was frozen - no more filters can be applied." := by
    unfold LimitedQuery.checkQueryFrozen
    rw [if_pos hq]
  cases call with
  | filter fltr =>
    apply Or.inl
    unfold QueryCall.apply
    rw [hcheck]
    exact ⟨_, rfl⟩
  | pks keys =>
    apply Or.inl
    unfold QueryCall.apply LimitedQuery.pks LimitedQuery.addFilter
    rw [hcheck]
    exact ⟨_, rfl⟩
  | lookupAttrsIn attrNames attrValues =>
    apply Or.inl
    change ∃ e, q.lookupAttrsIn attrNames attrValues = .error e
    unfold LimitedQuery.lookupAttrsIn
    cases hfind : (attrNames.map (fun name ↦ display (lower name.toList))).find?
        (· ∉ lookupFieldNames) with
    | none =>
      simp only [hfind, hcheck]
      exact ⟨_, rfl⟩
    | some name =>
      simp only [hfind]
      exact ⟨_, rfl⟩
  | limit n => exact .inr ⟨n, rfl⟩
  | firstOnly => exact .inr ⟨1, rfl⟩

end Selected

section OneLevel

variable {inetnumSearchDisabled orderedBySources enableOrdering : Bool} {q : LimitedQuery}
  {calls : List QueryCall}

/-- The query after the call of one level. -/
def LimitedQuery.oneLevel (q : LimitedQuery) (ip : IP) : LimitedQuery :=
  { q with
    toRPSLDatabaseQuery := q.filter (oneLevelCondition ip)
    sizeSubquery := some (q.filter (oneLevelCondition ip)).conditions
    queryFrozen := true }

theorem ipLessSpecificOneLevel_of_open (hq : q.IsOpen calls) (ip : IP) :
    q.ipLessSpecificOneLevel ip = .ok (q.oneLevel ip) := by
  unfold LimitedQuery.ipLessSpecificOneLevel
  rw [LimitedQuery.checkQueryFrozen_of_open hq]
  rfl

theorem select_filter (q : RPSLDatabaseQuery) (fltr : RowCondition)
    (rows : List RPSLDatabaseObject) :
    (q.filter fltr).select rows = (q.select rows).filter (fun row ↦ (fltr row).holds) := by
  unfold RPSLDatabaseQuery.select RPSLDatabaseQuery.filter
  rw [List.filter_filter]
  apply List.filter_congr
  intro row _
  rw [List.all_append, List.all_cons, List.all_nil, Bool.and_true, Bool.and_comm]

/-- The rows of the size that the second statement selects are those of one level. -/
theorem filter_hasSelectedSize (q : LimitedQuery) (ip : IP) (rows : List RPSLDatabaseObject) :
    ((q.oneLevel ip).select rows).filter ((q.oneLevel ip).hasSelectedSize rows) =
      oneLevelRows ip (q.select rows) := by
  have hselect : (q.oneLevel ip).select rows =
      (q.select rows).filter (·.strictlyContains ip) := by
    change (q.filter (oneLevelCondition ip)).select rows = _
    rw [select_filter]
    simp only [holds_oneLevelCondition]
  unfold oneLevelRows
  rw [hselect]
  apply List.filter_congr
  intro row hrow
  change (Truth.isIn row.ipSize (smallest (((q.oneLevel ip).select rows).map
    (fun row ↦ row.ipSize)))).holds = _
  rw [hselect, Bool.eq_iff_iff, Truth.holds_isIn_iff, mem_smallest_iff, Bool.and_eq_true,
    List.all_eq_true, List.forall_mem_map]
  apply and_congr_right
  intro _
  exact and_iff_right (List.mem_map_of_mem hrow)

/-- The rows of a query, in an order and up to a limit. -/
theorem exists_execute (collate : String → String → Bool) (q : LimitedQuery)
    (rows : List RPSLDatabaseObject) :
    ∃ ordered, ordered.Perm ((q.select rows).filter (q.hasSelectedSize rows)) ∧
      q.execute collate rows =
        match q.recordLimit with
        | none => ordered
        | some n => ordered.take n := by
  refine ⟨_, ?_, rfl⟩
  split
  · exact List.mergeSort_perm _ _
  · exact List.Perm.refl _

/-- A list that has one of these rows, or none if there are none. -/
def IsFirstOf (result rows : List RPSLDatabaseObject) : Prop :=
  (rows = [] ∧ result = []) ∨ ∃ row ∈ rows, result = [row]

theorem isFirstOf_take_one {ordered rows : List RPSLDatabaseObject} (hperm : ordered.Perm rows) :
    IsFirstOf (ordered.take 1) rows := by
  cases ordered with
  | nil => exact .inl ⟨List.Perm.nil_eq hperm |>.symm, rfl⟩
  | cons row ordered => exact .inr ⟨row, hperm.mem_iff.mp List.mem_cons_self, rfl⟩

/-- After any calls, the rows one level less specific are those selected so far that strictly
contain the range and have the smallest size of all these. A limit applies to them only. -/
theorem execute_ipLessSpecificOneLevel
    (hq : queryOf inetnumSearchDisabled orderedBySources enableOrdering calls = .ok q) (ip : IP)
    (collate : String → String → Bool) (rows : List RPSLDatabaseObject) :
    ((∀ call ∈ calls, ¬ call.LooksUpAddress) → q.select rows =
      rows.filter (fun row ↦ calls.all (fun call ↦ (call.condition row).holds))) ∧
    ∃ q', q.ipLessSpecificOneLevel ip = .ok q' ∧
      (limitOf calls = none →
        (q'.execute collate rows).Perm (oneLevelRows ip (q.select rows))) ∧
      (∀ n, limitOf calls = some n →
        ∃ ordered : List RPSLDatabaseObject, ordered.Perm (oneLevelRows ip (q.select rows)) ∧
          q'.execute collate rows = ordered.take n) ∧
      (limitOf calls = some 1 →
        IsFirstOf (q'.execute collate rows) (oneLevelRows ip (q.select rows))) ∧
      IsFirstOf (q'.firstOnly.execute collate rows) (oneLevelRows ip (q.select rows)) := by
  have hopen := isOpen_of_queryOf hq
  refine ⟨fun hcalls ↦ select_queryOf hq hcalls rows, q.oneLevel ip,
    ipLessSpecificOneLevel_of_open hopen ip, ?_⟩
  have hlimit : (q.oneLevel ip).recordLimit = limitOf calls := hopen.recordLimit
  have hrows := filter_hasSelectedSize q ip rows
  obtain ⟨ordered, hperm, hexecute⟩ := exists_execute collate (q.oneLevel ip) rows
  rw [hrows] at hperm
  rw [hlimit] at hexecute
  refine ⟨?_, ?_, ?_, ?_⟩
  · intro hnone
    rw [hexecute, hnone]
    exact hperm
  · intro n hn
    exact ⟨ordered, hperm, by rw [hexecute, hn]⟩
  · intro hone
    rw [hexecute, hone]
    exact isFirstOf_take_one hperm
  · obtain ⟨ordered, hperm, hexecute⟩ := exists_execute collate (q.oneLevel ip).firstOnly rows
    have hrows' : ((q.oneLevel ip).firstOnly.select rows).filter
        ((q.oneLevel ip).firstOnly.hasSelectedSize rows) = oneLevelRows ip (q.select rows) := hrows
    rw [hrows'] at hperm
    rw [hexecute]
    exact isFirstOf_take_one hperm

/-- An inetnum of a source, for a range of addresses. -/
def inetnumRow (source : String) (first last : Nat) : RPSLDatabaseObject where
  rpslPk := s!"{first} - {last}"
  source := source
  objectClass := "inetnum"
  parsedData := [("mnt-by", ["TEST-MNT"])]
  objectText := ""
  ipVersion := some 4
  ipFirst := some ⟨4, first, 32⟩
  ipLast := some ⟨4, last, 32⟩
  ipSize := some (last - first + 1)
  prefixLength := none
  ipPrefix := none
  asnFirst := none
  asnLast := none
  rpkiStatus := .notFound
  scopefilterStatus := .inScope
  routePreferenceStatus := .visible
  updated := 0
  pk := 0
  created := 0

/-- Inetnums of two sources around 192.0.2.0/25, the smallest of the other source. -/
def nestedInetnums : List RPSLDatabaseObject :=
  [inetnumRow "TEST" 3221225472 3221229567, inetnumRow "OTHER" 3221225984 3221226239,
    inetnumRow "TEST" 3221225983 3221226239, inetnumRow "TEST" 3221225984 3221226240,
    inetnumRow "TEST" 3221225984 3221226111]

/-- A lookup of the inetnums of a source with a maintainer. -/
def inetnumCalls : List QueryCall :=
  [.filter (.sources ["test"]), .filter (.objectClasses ["inetnum"]),
    .lookupAttrsIn ["mnt-by"] [.text "test-mnt"]]

/-- Both ranges of the smallest size are found, and the one that is smaller hides neither. -/
theorem execute_nestedInetnums :
    ∃ q q', queryOf false true true inetnumCalls = .ok q ∧
      q.ipLessSpecificOneLevel ⟨4, 3221225984, 25⟩ = .ok q' ∧
      (q'.execute (· ≤ ·) nestedInetnums).Perm
        [inetnumRow "TEST" 3221225983 3221226239, inetnumRow "TEST" 3221225984 3221226240] := by
  have hq : queryOf false true true inetnumCalls = .ok _ := rfl
  obtain ⟨hselect, q', hq', hall, -⟩ :=
    execute_ipLessSpecificOneLevel hq ⟨4, 3221225984, 25⟩ (· ≤ ·) nestedInetnums
  refine ⟨_, q', rfl, hq', ?_⟩
  have hrows := hall rfl
  rw [hselect (by simp [inetnumCalls, QueryCall.LooksUpAddress])] at hrows
  have hexpected : oneLevelRows ⟨4, 3221225984, 25⟩ (nestedInetnums.filter (fun row ↦
      inetnumCalls.all (fun call ↦ (call.condition row).holds))) =
      [inetnumRow "TEST" 3221225983 3221226239, inetnumRow "TEST" 3221225984 3221226240] := by
    decide +kernel
  rw [hexpected] at hrows
  exact hrows

end OneLevel

end Irrd.Storage
