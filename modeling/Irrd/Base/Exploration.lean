import Mathlib.Data.Finset.Card
import Mathlib.Logic.Relation

/-!
# Exploration in batches

A graph is explored from a set of nodes: each batch is added to the nodes seen, and the nodes that
follow it and are not seen yet are the next batch. Over a finite set of nodes this ends, and the
nodes seen are those that can be reached.
-/

namespace Irrd.Base

open Relation

universe u

variable {A : Type u} [DecidableEq A]

/-- The nodes seen after exploring from a batch, or nothing if the fuel runs out. -/
def explore (next : Finset A → Finset A) : Nat → Finset A → Finset A → Option (Finset A)
  | 0, _, _ => none
  | n + 1, seen, batch =>
    if batch ⊆ seen then some seen
    else explore next n (seen ∪ batch) (next batch \ (seen ∪ batch))

/-- The nodes that follow a batch are those that follow one of its nodes. -/
def Follows (next : Finset A → Finset A) (edge : A → A → Prop) : Prop :=
  ∀ batch y, y ∈ next batch ↔ ∃ x ∈ batch, edge x y

variable {next : Finset A → Finset A} {edge : A → A → Prop} {seen batch visited nodes : Finset A}
  {n : Nat}

/-- Every batch but the last one has a node of the universe that is new. -/
theorem explore_isSome (hnext : ∀ batch, next batch ⊆ nodes) (hbatch : batch ⊆ nodes)
    (hfuel : (nodes \ seen).card < n) : (explore next n seen batch).isSome := by
  induction n generalizing seen batch with
  | zero => omega
  | succ n ih =>
    unfold explore
    split
    · rfl
    · next hnew =>
      refine ih (Finset.sdiff_subset.trans (hnext batch)) ?_
      obtain ⟨x, hx, hnot⟩ := Finset.not_subset.mp hnew
      have hless : nodes \ (seen ∪ batch) ⊂ nodes \ seen := by
        refine Finset.ssubset_iff_subset_ne.mpr ⟨?_, fun hsame ↦ ?_⟩
        · exact Finset.sdiff_subset_sdiff (Finset.Subset.refl _) Finset.subset_union_left
        · have hmem : x ∈ nodes \ seen := Finset.mem_sdiff.mpr ⟨hbatch hx, hnot⟩
          rw [← hsame] at hmem
          exact (Finset.mem_sdiff.mp hmem).2 (Finset.mem_union_right _ hx)
      have hcard := Finset.card_lt_card hless
      omega

/-- Nodes seen stay so, and the batch is seen. -/
theorem subset_explore (hexplore : explore next n seen batch = some visited) :
    seen ∪ batch ⊆ visited := by
  induction n generalizing seen batch with
  | zero => cases hexplore
  | succ n ih =>
    unfold explore at hexplore
    split at hexplore
    · next hsub =>
      cases hexplore
      exact Finset.union_subset (Finset.Subset.refl _) hsub
    · exact Finset.union_subset_left (ih hexplore)

/-- Nodes seen were seen at the start or are reached from the batch. -/
theorem reached_of_mem_explore (hfollows : Follows next edge)
    (hexplore : explore next n seen batch = some visited) {y : A} (hy : y ∈ visited) :
    y ∈ seen ∨ ∃ x ∈ batch, ReflTransGen edge x y := by
  induction n generalizing seen batch with
  | zero => cases hexplore
  | succ n ih =>
    unfold explore at hexplore
    split at hexplore
    · cases hexplore
      exact Or.inl hy
    · rcases ih hexplore with hseen | ⟨x, hx, hreach⟩
      · rcases Finset.mem_union.mp hseen with hseen | hbatch
        · exact Or.inl hseen
        · exact Or.inr ⟨y, hbatch, ReflTransGen.refl⟩
      · obtain ⟨w, hw, hedge⟩ := (hfollows batch x).mp (Finset.mem_sdiff.mp hx).1
        exact Or.inr ⟨w, hw, ReflTransGen.head hedge hreach⟩

/-- If the nodes seen lead to nodes seen or in the batch, then those seen in the end lead to no
other nodes. -/
theorem explore_closed (hfollows : Follows next edge)
    (hseen : ∀ x ∈ seen, ∀ y, edge x y → y ∈ seen ∪ batch)
    (hexplore : explore next n seen batch = some visited) :
    ∀ x ∈ visited, ∀ y, edge x y → y ∈ visited := by
  induction n generalizing seen batch with
  | zero => cases hexplore
  | succ n ih =>
    unfold explore at hexplore
    split at hexplore
    · next hsub =>
      cases hexplore
      intro x hx y hedge
      exact Finset.union_subset (Finset.Subset.refl _) hsub (hseen x hx y hedge)
    · refine ih (fun x hx y hedge ↦ ?_) hexplore
      by_cases hy : y ∈ seen ∪ batch
      · exact Finset.mem_union_left _ hy
      · rcases Finset.mem_union.mp hx with hx | hx
        · exact absurd (hseen x hx y hedge) hy
        · have hnext := (hfollows batch y).mpr ⟨x, hx, hedge⟩
          exact Finset.mem_union_right _ (Finset.mem_sdiff.mpr ⟨hnext, hy⟩)

/-- From nothing seen, the nodes seen in the end are those reached from the batch. -/
theorem mem_explore_iff (hfollows : Follows next edge)
    (hexplore : explore next n ∅ batch = some visited) (y : A) :
    y ∈ visited ↔ ∃ x ∈ batch, ReflTransGen edge x y := by
  constructor
  · intro hy
    exact (reached_of_mem_explore hfollows hexplore hy).resolve_left (Finset.notMem_empty y)
  · rintro ⟨x, hx, hreach⟩
    have hclosed := explore_closed hfollows (fun x hx ↦ absurd hx (Finset.notMem_empty x)) hexplore
    induction hreach with
    | refl => exact subset_explore hexplore (Finset.mem_union_right _ hx)
    | tail _ hedge ih => exact hclosed _ ih _ hedge

end Irrd.Base
