import Irrd.Base.ThreeValued
import Mathlib.Data.List.Sort
import Mathlib.Order.Defs.LinearOrder

/-!
# Order and limit of rows

`ORDER BY` several criteria, with `NULL` after all values, and `LIMIT`.
-/

namespace Irrd.Base

section Orders

variable {A : Type}

/-- `ASC`: values in their order, and `NULL` after them. -/
def nullsLast (le : A → A → Bool) : Option A → Option A → Bool
  | _, none => true
  | none, some _ => false
  | some a, some b => le a b

/-- `ORDER BY` the first criterion, then by those after it. -/
def orderedBy : List (A → A → Bool) → A → A → Bool
  | [], _, _ => true
  | le :: les, a, b => le a b && (!le b a || orderedBy les a b)

end Orders

section Smallest

variable {A : Type} [LinearOrder A]

/-- `ASC`, for values that are ordered. -/
def ascending : Option A → Option A → Bool := nullsLast (fun a b ↦ a ≤ b)

theorem ascending_trans (x y z : Option A) (hxy : ascending x y = true)
    (hyz : ascending y z = true) : ascending x z = true := by
  cases z with
  | none => cases x <;> rfl
  | some c =>
    cases y with
    | none => exact absurd hyz (by simp [ascending, nullsLast])
    | some b =>
      cases x with
      | none => exact absurd hxy (by simp [ascending, nullsLast])
      | some a =>
        simp only [ascending, nullsLast, decide_eq_true_eq] at hxy hyz ⊢
        exact le_trans hxy hyz

theorem ascending_total (x y : Option A) : (ascending x y || ascending y x) = true := by
  cases x <;> cases y <;> simp [ascending, nullsLast, le_total]

theorem ascending_refl (x : Option A) : ascending x x = true := by
  cases x <;> simp [ascending, nullsLast]

theorem ascending_antisymm {x y : Option A} (hxy : ascending x y = true)
    (hyx : ascending y x = true) : x = y := by
  cases x <;> cases y <;> simp_all [ascending, nullsLast]
  exact le_antisymm hxy hyx

/-- `SELECT x ... ORDER BY x ASC LIMIT 1`. -/
def smallest (xs : List (Option A)) : List (Option A) := (xs.mergeSort ascending).take 1

/-- The one value that is selected is at most every other. -/
theorem mem_smallest_iff {x : Option A} {xs : List (Option A)} :
    x ∈ smallest xs ↔ x ∈ xs ∧ ∀ y ∈ xs, ascending x y = true := by
  have hperm : (xs.mergeSort ascending).Perm xs := List.mergeSort_perm xs ascending
  have hsorted : (xs.mergeSort ascending).Pairwise (fun x y ↦ ascending x y = true) :=
    List.pairwise_mergeSort ascending_trans ascending_total xs
  unfold smallest
  cases hcases : xs.mergeSort ascending with
  | nil =>
    have hempty : xs = [] := List.Perm.nil_eq (hcases ▸ hperm) |>.symm
    subst hempty
    simp
  | cons first rest =>
    rw [hcases] at hperm hsorted
    have hfirst : ∀ y ∈ xs, ascending first y = true := by
      intro y hy
      rcases List.mem_cons.mp (hperm.mem_iff.mpr hy) with rfl | hrest
      · exact ascending_refl y
      · exact List.rel_of_pairwise_cons hsorted hrest
    have hmem : first ∈ xs := hperm.mem_iff.mp List.mem_cons_self
    rw [List.take_succ_cons, List.take_zero, List.mem_singleton]
    constructor
    · rintro rfl
      exact ⟨hmem, hfirst⟩
    · rintro ⟨hx, hleast⟩
      exact ascending_antisymm (hleast first hmem) (hfirst x hx)

end Smallest

end Irrd.Base
