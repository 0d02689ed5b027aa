import Irrd.Base.Exploration
import Mathlib.Data.Nat.Find

/-!
# Rounds of an exploration

The batches that an exploration looks at, of which there may be a limit. The batch of a round has
the nodes at that distance from the root.
-/

namespace Irrd.Base

open Relation

universe u

variable {A : Type u} [DecidableEq A]

/-- The batches that are explored, at most `n` of them. -/
def exploreBatches (next : Finset A → Finset A) : Nat → Finset A → Finset A → List (Finset A)
  | 0, _, _ => []
  | n + 1, seen, batch =>
    if batch ⊆ seen then []
    else batch :: exploreBatches next n (seen ∪ batch) (next batch \ (seen ∪ batch))

section Steps

omit [DecidableEq A]

/-- Nodes that are reached from a root in a number of steps. -/
inductive StepsIn (edge : A → A → Prop) (root : A) : Nat → A → Prop
  | zero : StepsIn edge root 0 root
  | succ {k : Nat} {x y : A} (hsteps : StepsIn edge root k x) (hedge : edge x y) :
      StepsIn edge root (k + 1) y

/-- Nodes that are reached in a number of steps and no fewer. -/
def AtDistance (edge : A → A → Prop) (root : A) (k : Nat) (x : A) : Prop :=
  StepsIn edge root k x ∧ ∀ j < k, ¬ StepsIn edge root j x

variable {edge : A → A → Prop} {root x y : A} {k : Nat}

theorem StepsIn.mono {edge' : A → A → Prop} (hsub : ∀ x y, edge x y → edge' x y)
    (hsteps : StepsIn edge root k x) : StepsIn edge' root k x := by
  induction hsteps with
  | zero => exact .zero
  | succ _ hedge ih => exact ih.succ (hsub _ _ hedge)

theorem reflTransGen_iff_stepsIn :
    ReflTransGen edge root x ↔ ∃ k, StepsIn edge root k x := by
  constructor
  · intro hreach
    induction hreach with
    | refl => exact ⟨0, .zero⟩
    | tail _ hedge ih =>
      obtain ⟨k, hk⟩ := ih
      exact ⟨k + 1, hk.succ hedge⟩
  · rintro ⟨k, hk⟩
    induction hk with
    | zero => exact .refl
    | succ _ hedge ih => exact ih.tail hedge

theorem exists_atDistance (hsteps : StepsIn edge root k x) : ∃ j ≤ k, AtDistance edge root j x := by
  classical
  have hex : ∃ j, StepsIn edge root j x := ⟨k, hsteps⟩
  exact ⟨Nat.find hex, Nat.find_min' hex hsteps, Nat.find_spec hex, fun j hj ↦ Nat.find_min hex hj⟩

/-- A node at a distance follows one at the distance before. -/
theorem AtDistance.exists_previous (h : AtDistance edge root (k + 1) y) :
    ∃ x, AtDistance edge root k x ∧ edge x y := by
  obtain ⟨hsteps, hmin⟩ := h
  cases hsteps with
  | succ hsteps hedge =>
    refine ⟨_, ⟨hsteps, fun j hj hless ↦ ?_⟩, hedge⟩
    exact hmin (j + 1) (by omega) (hless.succ hedge)

/-- Before a node there are nodes at every smaller distance. -/
theorem AtDistance.exists_of_le {j : Nat} (hle : j ≤ k) (h : AtDistance edge root k y) :
    ∃ x, AtDistance edge root j x := by
  induction k generalizing y with
  | zero =>
    obtain rfl : j = 0 := by omega
    exact ⟨y, h⟩
  | succ k ih =>
    by_cases hlast : j = k + 1
    · rw [hlast]
      exact ⟨y, h⟩
    · obtain ⟨x, hx, -⟩ := h.exists_previous
      exact ih (by omega) hx

/-- After a number of rounds, the nodes nearer than the batch are seen. -/
structure IsRound (edge : A → A → Prop) (root : A) (m : Nat) (seen batch : Finset A) : Prop where
  seen : ∀ x, x ∈ seen ↔ ∃ j < m, StepsIn edge root j x
  batch : ∀ x, x ∈ batch ↔ AtDistance edge root m x

theorem isRound_zero (edge : A → A → Prop) (root : A) : IsRound edge root 0 ∅ {root} where
  seen x := by simp
  batch x := by
    rw [Finset.mem_singleton]
    constructor
    · rintro rfl
      exact ⟨.zero, fun j hj ↦ absurd hj (Nat.not_lt_zero j)⟩
    · rintro ⟨hsteps, -⟩
      cases hsteps
      rfl

end Steps

section Rounds

variable {next : Finset A → Finset A} {edge : A → A → Prop} {root x : A}
  {seen batch visited : Finset A} {m n : Nat}

/-- The next round. -/
theorem IsRound.advance (hfollows : Follows next edge) (h : IsRound edge root m seen batch) :
    IsRound edge root (m + 1) (seen ∪ batch) (next batch \ (seen ∪ batch)) := by
  have hseen (x : A) : x ∈ seen ∪ batch ↔ ∃ j < m + 1, StepsIn edge root j x := by
    rw [Finset.mem_union, h.seen, h.batch]
    constructor
    · rintro (⟨j, hj, hsteps⟩ | ⟨hsteps, -⟩)
      · exact ⟨j, by omega, hsteps⟩
      · exact ⟨m, by omega, hsteps⟩
    · rintro ⟨j, hj, hsteps⟩
      obtain ⟨i, hi, hnearest⟩ := exists_atDistance hsteps
      by_cases hlast : i = m
      · exact .inr (hlast ▸ hnearest)
      · exact .inl ⟨i, by omega, hnearest.1⟩
  refine ⟨hseen, fun y ↦ ?_⟩
  rw [Finset.mem_sdiff, hfollows, hseen]
  constructor
  · rintro ⟨⟨x, hx, hedge⟩, hnot⟩
    refine ⟨((h.batch x).mp hx).1.succ hedge, fun j hj hsteps ↦ ?_⟩
    exact hnot ⟨j, hj, hsteps⟩
  · intro hy
    obtain ⟨x, hx, hedge⟩ := hy.exists_previous
    refine ⟨⟨x, (h.batch x).mpr hx, hedge⟩, ?_⟩
    rintro ⟨j, hj, hsteps⟩
    exact hy.2 j hj hsteps

/-- The batch of a round has the nodes at its distance. -/
theorem mem_getElem?_exploreBatches (hfollows : Follows next edge)
    (h : IsRound edge root m seen batch) (k : Nat) :
    (∃ b, (exploreBatches next n seen batch)[k]? = some b ∧ x ∈ b) ↔
      k < n ∧ AtDistance edge root (m + k) x := by
  induction n generalizing m seen batch k with
  | zero => simp [exploreBatches]
  | succ n ih =>
    unfold exploreBatches
    split
    · next hsub =>
      simp only [List.getElem?_nil, reduceCtorEq, false_and, exists_false, false_iff]
      rintro ⟨-, hx⟩
      obtain ⟨y, hy⟩ := hx.exists_of_le (Nat.le_add_right m k)
      obtain ⟨j, hj, hsteps⟩ := (h.seen y).mp (hsub ((h.batch y).mpr hy))
      exact hy.2 j hj hsteps
    · cases k with
      | zero => simp [h.batch]
      | succ k =>
        rw [List.getElem?_cons_succ, ih (h.advance hfollows)]
        have hdistance : m + 1 + k = m + (k + 1) := by omega
        rw [hdistance]
        exact and_congr_left (fun _ ↦ by omega)

/-- The nodes of the batches from a root are those reached in fewer steps than there are rounds. -/
theorem mem_exploreBatches_iff (hfollows : Follows next edge) :
    (∃ b ∈ exploreBatches next n ∅ {root}, x ∈ b) ↔ ∃ k < n, StepsIn edge root k x := by
  have hget (k : Nat) := mem_getElem?_exploreBatches (n := n) (x := x) hfollows
    (isRound_zero edge root) k
  constructor
  · rintro ⟨b, hb, hx⟩
    obtain ⟨k, hk⟩ := List.mem_iff_getElem?.mp hb
    obtain ⟨hless, hdistance⟩ := (hget k).mp ⟨b, hk, hx⟩
    exact ⟨0 + k, by omega, hdistance.1⟩
  · rintro ⟨k, hk, hsteps⟩
    obtain ⟨j, hj, hnearest⟩ := exists_atDistance hsteps
    obtain ⟨b, hb, hx⟩ := (hget j).mpr ⟨by omega, by rwa [Nat.zero_add]⟩
    exact ⟨b, List.mem_of_getElem? hb, hx⟩

/-- The nodes seen in the end are in the batches. -/
theorem mem_explore_iff_batches (hexplore : explore next n seen batch = some visited) (x : A) :
    x ∈ visited ↔ x ∈ seen ∨ ∃ b ∈ exploreBatches next n seen batch, x ∈ b := by
  induction n generalizing seen batch with
  | zero => cases hexplore
  | succ n ih =>
    unfold explore at hexplore
    unfold exploreBatches
    split at hexplore
    · next hsub =>
      cases hexplore
      rw [if_pos hsub]
      simp
    · next hsub =>
      rw [if_neg hsub, ih hexplore, Finset.mem_union]
      simp [or_assoc]

/-- With more rounds than there are nodes, all nodes are reached. -/
theorem exists_stepsIn_lt {nodes : Finset A} (hfollows : Follows next edge)
    (hnext : ∀ batch, next batch ⊆ nodes) (hroot : root ∈ nodes) (hn : nodes.card < n)
    {k : Nat} (hsteps : StepsIn edge root k x) : ∃ j < n, StepsIn edge root j x := by
  have hfuel : (nodes \ ∅).card < n := by rwa [Finset.sdiff_empty]
  obtain ⟨visited, hvisited⟩ := Option.isSome_iff_exists.mp
    (explore_isSome hnext (Finset.singleton_subset_iff.mpr hroot) hfuel)
  have hx : x ∈ visited := (mem_explore_iff hfollows hvisited x).mpr
    ⟨root, Finset.mem_singleton_self root, reflTransGen_iff_stepsIn.mpr ⟨k, hsteps⟩⟩
  rw [mem_explore_iff_batches hvisited] at hx
  exact (mem_exploreBatches_iff hfollows).mp (hx.resolve_left (Finset.notMem_empty x))

end Rounds

end Irrd.Base
