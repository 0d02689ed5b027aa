import Mathlib.Data.List.Basic
import Mathlib.Logic.Function.Basic

/-!
# Reconciliation

A store takes over the values of a target, key by key. A stored value stays in place where it is as
good as the value of the target. The keys to write can be found in steps, and a second
reconciliation has none.
-/

namespace Irrd.Base

universe u v

variable {K : Type u} {V : Type v}

/-- The value under a key after a store has taken over a target. -/
def reconcile (same : V → V → Bool) (target stored : K → Option V) (k : K) : Option V :=
  match target k, stored k with
  | some v, some w => if same v w then some w else some v
  | some v, none => some v
  | none, _ => none

/-- A key whose stored value is not as good as that of the target. -/
def Outdated (same : V → V → Bool) (target stored : K → Option V) (k : K) : Prop :=
  ∃ v w, target k = some v ∧ stored k = some w ∧ same v w = false

/-- Take over the values of the target under some keys. -/
def takeOver [DecidableEq K] (target stored : K → Option V) (keys : List K) (k : K) : Option V :=
  if k ∈ keys then target k else stored k

section Reconciling

variable {same : V → V → Bool} {target stored : K → Option V}

/-- Exactly the keys of the target have values. -/
theorem isSome_reconcile (k : K) :
    (reconcile same target stored k).isSome = (target k).isSome := by
  unfold reconcile
  split
  · next hv hw =>
    rw [hv]
    split <;> rfl
  · next hv _ => rw [hv]
  · next hv => rw [hv]

/-- A value is that of the target, or a stored one that is as good. -/
theorem reconcile_eq_some {k : K} {w : V} (h : reconcile same target stored k = some w) :
    ∃ v, target k = some v ∧ (w = v ∨ stored k = some w ∧ same v w = true) := by
  unfold reconcile at h
  split at h
  · next v w' hv hw =>
    refine ⟨v, hv, ?_⟩
    split at h
    · next hsame =>
      cases h
      exact .inr ⟨hw, hsame⟩
    · cases h
      exact .inl rfl
  · next v hv _ =>
    cases h
    exact ⟨_, hv, .inl rfl⟩
  · cases h

/-- Nothing is outdated after a reconciliation, if every value is as good as itself. -/
theorem not_outdated_reconcile (hsame : ∀ k v, target k = some v → same v v = true) (k : K) :
    ¬ Outdated same target (reconcile same target stored) k := by
  rintro ⟨v, w, hv, hw, hdiffers⟩
  obtain ⟨v', hv', hvalue⟩ := reconcile_eq_some hw
  cases hv.symm.trans hv'
  rcases hvalue with rfl | ⟨-, hgood⟩
  · simp [hsame k w hv] at hdiffers
  · simp [hgood] at hdiffers

end Reconciling

section Steps

variable [DecidableEq K] {target stored : K → Option V} {keys : List K}

@[simp] theorem takeOver_nil : takeOver target stored [] = stored := by
  funext k
  simp [takeOver]

/-- Taking over one key. -/
theorem takeOver_singleton (target stored : K → Option V) (k : K) :
    takeOver target stored [k] = Function.update stored k (target k) := by
  funext l
  unfold takeOver Function.update
  by_cases hl : l = k
  · subst hl
    simp
  · simp [hl]

theorem takeOver_takeOver (keys more : List K) :
    takeOver target (takeOver target stored keys) more =
      takeOver target stored (keys ++ more) := by
  funext k
  unfold takeOver
  by_cases hmore : k ∈ more
  · simp [hmore]
  · simp [hmore]

/-- Taking over all keys that only one of them has, and then those that are outdated. -/
theorem takeOver_eq_reconcile (same : V → V → Bool) {outdated : List K}
    (hkeys : ∀ k, k ∈ keys ↔ (target k).isSome ≠ (stored k).isSome)
    (houtdated : ∀ k, k ∈ outdated ↔ Outdated same target (takeOver target stored keys) k) :
    takeOver target stored (keys ++ outdated) = reconcile same target stored := by
  rw [← takeOver_takeOver]
  funext k
  have hmem := houtdated k
  unfold Outdated at hmem
  by_cases hk : k ∈ keys
  · have htaken : takeOver target stored keys k = target k := if_pos hk
    have hlast : takeOver target (takeOver target stored keys) outdated k = target k := by
      show (if k ∈ outdated then target k else takeOver target stored keys k) = _
      rw [htaken, ite_self]
    rw [hlast]
    have honly := (hkeys k).mp hk
    unfold reconcile
    cases hv : target k <;> cases hw : stored k <;> simp [hv, hw] at honly ⊢
  · have hkept : takeOver target stored keys k = stored k := if_neg hk
    have hboth := not_not.mp (mt (hkeys k).mpr hk)
    rw [hkept] at hmem
    show (if k ∈ outdated then target k else takeOver target stored keys k) = _
    rw [hkept]
    unfold reconcile
    cases hv : target k with
    | none =>
      cases hw : stored k with
      | none => simp
      | some w => simp [hv, hw] at hboth
    | some v =>
      cases hw : stored k with
      | none => simp [hv, hw] at hboth
      | some w =>
        rw [hv, hw] at hmem
        cases hsame : same v w <;> simp [hmem, hsame]

end Steps

end Irrd.Base
