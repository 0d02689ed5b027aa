import Irrd.Rpsl.ListedValues
import Irrd.Updates.AuthValidator

/-!
# Queries of submissions

What the queries find that look for objects by source, class, primary key or attribute.
-/

namespace Irrd.Updates

open Irrd.Base Irrd.Rpsl Irrd.Storage Irrd.Utils

/-- A name as a query compares it with a column. -/
def queriedName (name : String) : String := display (strip (upper name).toList)

section Messages

variable {r : ValidatorResult} {message : String}

theorem addMessage_ne_nil (messages : List String) (message : String) :
    addMessage messages message ≠ [] := by
  unfold addMessage
  split
  · next hmem => exact List.ne_nil_of_mem hmem
  · simp

@[simp] theorem isValid_addError (r : ValidatorResult) (message : String) :
    (r.addError message).isValid = false := by
  simp [ValidatorResult.isValid, ValidatorResult.addError, addMessage_ne_nil]

@[simp] theorem isValid_addInfo (r : ValidatorResult) (message : String) :
    (r.addInfo message).isValid = r.isValid := rfl

/-- Without an error for any of them, there are no items. -/
theorem eq_nil_of_foldl_addError {A : Type} {f : A → String} {items : List A}
    (h : (items.foldl (fun r item ↦ r.addError (f item)) r).isValid = true) :
    items = [] ∧ r.isValid = true := by
  have hkept (items : List A) (r : ValidatorResult) (hr : r.isValid = false) :
      (items.foldl (fun r item ↦ r.addError (f item)) r).isValid = false := by
    induction items generalizing r with
    | nil => exact hr
    | cons item items ih => exact ih _ (isValid_addError r _)
  cases items with
  | nil => exact ⟨rfl, h⟩
  | cons item items =>
    rw [List.foldl_cons, hkept items _ (isValid_addError r _)] at h
    cases h

end Messages

section Conditions

variable {row : RPSLDatabaseObject}

theorem holds_sources (name : String) :
    ((QueryCall.filter (.sources [name])).condition row).holds = true ↔
      row.source = queriedName name := by
  simp only [QueryCall.condition, QueryFilter.condition, Truth.holds_all]
  simp [QueryFilter.apply, RPSLDatabaseQuery.sources, RPSLDatabaseQuery.filter,
    RPSLDatabaseQuery.new, queriedName]

theorem holds_objectClasses (classes : List String) :
    ((QueryCall.filter (.objectClasses classes)).condition row).holds = true ↔
      row.objectClass ∈ classes := by
  simp only [QueryCall.condition, QueryFilter.condition, Truth.holds_all]
  simp [QueryFilter.apply, RPSLDatabaseQuery.objectClasses, RPSLDatabaseQuery.filter,
    RPSLDatabaseQuery.new]

theorem holds_rpslPks (pks : List String) :
    ((QueryCall.filter (.rpslPks pks)).condition row).holds = true ↔
      row.rpslPk ∈ pks.map queriedName := by
  simp only [QueryCall.condition, QueryFilter.condition, Truth.holds_all]
  simp [QueryFilter.apply, RPSLDatabaseQuery.rpslPks, RPSLDatabaseQuery.filter,
    RPSLDatabaseQuery.new, queriedName]

theorem holds_foldr_or (truths : List Truth) :
    (truths.foldr Truth.or (some false)).holds = truths.any Truth.holds := by
  induction truths with
  | nil => rfl
  | cons t truths ih => rw [List.foldr_cons, Truth.holds_or, ih, List.any_cons]

/-- Looking up one text in attributes that have names in lower case. -/
theorem holds_lookupAttrsIn {attrNames : List String} (hne : attrNames ≠ [])
    (hlower : ∀ name ∈ attrNames, display (lower name.toList) = name) (value : String) :
    ((QueryCall.lookupAttrsIn attrNames [.text value]).condition row).holds = true ↔
      ∃ name ∈ attrNames, ∃ values, row.parsedData.lookup name = some values ∧
        upper value ∈ values := by
  have hfound : ((QueryCall.lookupAttrsIn attrNames [.text value]).condition row).holds =
      attrNames.any (fun name ↦
        (lookupCondition (display (lower name.toList)) (.text value) row).holds) := by
    obtain ⟨first, rest, rfl⟩ := List.exists_cons_of_ne_nil hne
    simp only [QueryCall.condition, List.map_cons, List.map_nil, List.flatMap_cons,
      List.singleton_append, List.foldr_cons, Truth.holds_or, holds_foldr_or, List.any_cons]
    rw [List.any_flatMap]
    simp
  rw [hfound, List.any_eq_true]
  constructor
  · rintro ⟨name, hname, h⟩
    rw [hlower name hname] at h
    simp only [lookupCondition, Truth.holds, decide_eq_true_eq, Option.map_eq_some_iff] at h
    obtain ⟨values, hvalues, hmem⟩ := h
    exact ⟨name, hname, values, hvalues, hmem⟩
  · rintro ⟨name, hname, values, hvalues, hmem⟩
    refine ⟨name, hname, ?_⟩
    rw [hlower name hname]
    simp [lookupCondition, Truth.holds, hvalues, hmem]

end Conditions

section Results

variable {c : SubmissionContext} {rows results : List RPSLDatabaseObject} {calls : List QueryCall}

/-- No call that comes before it adds a statement that selects a size. -/
theorem sizeSubquery_queryOf {inetnumSearchDisabled orderedBySources enableOrdering : Bool}
    {q : LimitedQuery}
    (hq : queryOf inetnumSearchDisabled orderedBySources enableOrdering calls = .ok q) :
    q.sizeSubquery = none := by
  have hstep (call : QueryCall) (q q' : LimitedQuery) (hq : q.sizeSubquery = none)
      (h : call.apply inetnumSearchDisabled q = .ok q') : q'.sizeSubquery = none := by
    cases call with
    | filter fltr =>
      obtain ⟨-, -, h⟩ := bind_eq_ok_iff.mp h
      cases h
      exact hq
    | pks keys =>
      obtain ⟨-, -, h⟩ := bind_eq_ok_iff.mp h
      cases h
      exact hq
    | lookupAttrsIn attrNames attrValues =>
      simp only [QueryCall.apply, LimitedQuery.lookupAttrsIn] at h
      split at h
      · cases h
      · obtain ⟨-, -, h⟩ := bind_eq_ok_iff.mp h
        split at h
        · cases h
          exact hq
        · obtain ⟨-, -, h⟩ := bind_eq_ok_iff.mp h
          cases h
          exact hq
    | limit n =>
      cases h
      exact hq
    | firstOnly =>
      cases h
      exact hq
  have hfold (calls : List QueryCall) (q q' : LimitedQuery) (hq : q.sizeSubquery = none)
      (h : calls.foldlM (QueryCall.apply inetnumSearchDisabled) q = .ok q') :
      q'.sizeSubquery = none := by
    induction calls generalizing q with
    | nil =>
      cases h
      exact hq
    | cons call calls ih =>
      rw [List.foldlM_cons] at h
      obtain ⟨q'', hcall, h⟩ := bind_eq_ok_iff.mp h
      exact ih q'' (hstep call q q'' hq hcall) h
  exact hfold calls _ q rfl hq

/-- The rows of a query that has no limit, up to their order. -/
theorem perm_executeQuery (hcalls : ∀ call ∈ calls, ¬ call.LooksUpAddress)
    (hlimit : limitOf calls = none) (h : c.executeQuery rows calls = .ok results) :
    results.Perm (rows.filter (fun row ↦ calls.all (fun call ↦ (call.condition row).holds))) := by
  unfold SubmissionContext.executeQuery at h
  split at h
  · next q hq =>
    cases h
    obtain ⟨ordered, hperm, hresult⟩ := exists_execute c.collate q rows
    rw [(isOpen_of_queryOf hq).recordLimit, hlimit] at hresult
    rw [hresult, ← select_queryOf hq hcalls]
    have hsize : (q.select rows).filter (q.hasSelectedSize rows) = q.select rows := by
      refine List.filter_eq_self.mpr (fun row _ ↦ ?_)
      rw [LimitedQuery.hasSelectedSize, sizeSubquery_queryOf hq]
    rwa [hsize] at hperm
  · cases h

theorem mem_executeQuery (hcalls : ∀ call ∈ calls, ¬ call.LooksUpAddress)
    (hlimit : limitOf calls = none) (h : c.executeQuery rows calls = .ok results)
    {row : RPSLDatabaseObject} :
    row ∈ results ↔ row ∈ rows ∧ ∀ call ∈ calls, (call.condition row).holds = true := by
  rw [(perm_executeQuery hcalls hlimit h).mem_iff, List.mem_filter, List.all_eq_true]

/-- The calls of a query for objects of a source, by class and primary key. -/
def keyCalls (source : String) (classes pks : List String) : List QueryCall :=
  [.filter (.sources [source]), .filter (.objectClasses classes), .filter (.rpslPks pks)]

/-- A query for objects of a source, by class and primary key. -/
theorem mem_executeQuery_keyCalls {source : String} {classes pks : List String}
    (h : c.executeQuery rows (keyCalls source classes pks) = .ok results)
    {row : RPSLDatabaseObject} :
    row ∈ results ↔ row ∈ rows ∧ row.source = queriedName source ∧ row.objectClass ∈ classes ∧
      row.rpslPk ∈ pks.map queriedName := by
  rw [mem_executeQuery (by simp [keyCalls, QueryCall.LooksUpAddress]) rfl h]
  simp only [keyCalls, List.forall_mem_cons, List.not_mem_nil, false_imp_iff, implies_true,
    and_true, holds_sources, holds_objectClasses, holds_rpslPks]

end Results

end Irrd.Updates
