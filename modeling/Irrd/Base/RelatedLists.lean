import Mathlib.Data.List.Forall2
import Irrd.Base.Fallible

/-!
# Related lists

Lists whose items are related one by one, or are the results of computations on those of another
list.
-/

namespace Irrd.Base

universe u v w

variable {A : Type u} {B : Type v} {D : Type w}

/-- An item has a related one in the other list. -/
theorem exists_of_forall₂ {R : A → B → Prop} {xs : List A} {ys : List B} (h : List.Forall₂ R xs ys)
    {y : B} (hy : y ∈ ys) : ∃ x ∈ xs, R x y := by
  induction h with
  | nil => cases hy
  | cons hfirst _ ih =>
    rcases List.mem_cons.mp hy with rfl | hy
    · exact ⟨_, List.mem_cons_self, hfirst⟩
    · obtain ⟨x, hx, hxy⟩ := ih hy
      exact ⟨x, List.mem_cons_of_mem _ hx, hxy⟩

theorem mem_getD_nil {xs : Option (List A)} {x : A} :
    x ∈ xs.getD [] ↔ ∃ ys, xs = some ys ∧ x ∈ ys := by
  cases xs <;> simp

/-- Relations between lists compose. -/
theorem forall₂_comp {R : A → B → Prop} {S : B → D → Prop} {T : A → D → Prop}
    (hcomp : ∀ x y z, R x y → S y z → T x z) {xs : List A} {ys : List B} {zs : List D}
    (h : List.Forall₂ R xs ys) (h' : List.Forall₂ S ys zs) : List.Forall₂ T xs zs := by
  induction h generalizing zs with
  | nil =>
    cases h'
    exact .nil
  | cons hxy _ ih =>
    cases h' with
    | cons hyz hrest => exact .cons (hcomp _ _ _ hxy hyz) (ih hrest)

/-- Functions with the same results on related items collect the same. -/
theorem filterMap_eq_of_forall₂ {f : A → Option D} {g : B → Option D} {xs : List A}
    {ys : List B} (h : List.Forall₂ (fun x y ↦ f x = g y) xs ys) :
    xs.filterMap f = ys.filterMap g := by
  induction h with
  | nil => rfl
  | cons hxy _ ih => rw [List.filterMap_cons, List.filterMap_cons, hxy, ih]

/-- What a filter and a function collect from items that others determine. -/
theorem map_filter_of_mapM {E : Type} {f : A → Except E B} {p : B → Bool} {g : B → D}
    {k : A → Option D} {q : A → Bool} {xs : List A} {ys : List B}
    (hk : ∀ x, q x = false → k x = none)
    (hf : ∀ x y, f x = .ok y → q x = true → k x = if p y then some (g y) else none)
    (h : (xs.filter q).mapM f = .ok ys) : (ys.filter p).map g = xs.filterMap k := by
  induction xs generalizing ys with
  | nil =>
    cases h
    rfl
  | cons x xs ih =>
    cases hq : q x with
    | false =>
      rw [List.filter_cons_of_neg (by simp [hq])] at h
      rw [List.filterMap_cons, hk x hq, ih h]
    | true =>
      rw [List.filter_cons_of_pos hq, List.mapM_cons] at h
      obtain ⟨y, hy, h⟩ := bind_eq_ok_iff.mp h
      obtain ⟨rest, hrest, h⟩ := bind_eq_ok_iff.mp h
      cases h
      rw [List.filterMap_cons, hf x y hy hq, ← ih hrest, List.filter_cons]
      split <;> rfl

end Irrd.Base
