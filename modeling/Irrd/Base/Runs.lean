import Mathlib.Data.List.DropRight

/-!
# Runs

The maximal runs of the elements of a list that are no separators.
-/

namespace Irrd.Base

section Runs

variable {A : Type} (isSeparator : A → Bool)

/-- The maximal runs of elements that are no separators, in their order. -/
def runs (list : List A) : List (List A) :=
  (list.splitOnP isSeparator).filter (fun run ↦ !run.isEmpty)

/-- The elements after the last separator. -/
def lastRun (list : List A) : List A := list.rtakeWhile (fun a ↦ !isSeparator a)

variable {isSeparator} {list list' front back : List A} {separator : A}

theorem runs_append_cons (hseparator : isSeparator separator = true) :
    runs isSeparator (list ++ separator :: list') =
      runs isSeparator list ++ runs isSeparator list' := by
  unfold runs
  rw [List.splitOnP_append_cons _ _ hseparator, List.filter_append]

theorem runs_of_forall (hlist : ∀ a ∈ list, isSeparator a = false) :
    runs isSeparator list = if list = [] then [] else [list] := by
  unfold runs
  rw [List.splitOnP_eq_singleton hlist]
  cases list <;> rfl

/-- Separators around a list do not matter. -/
theorem runs_separators_append (hfront : ∀ a ∈ front, isSeparator a = true) :
    runs isSeparator (front ++ list) = runs isSeparator list := by
  induction front with
  | nil => rfl
  | cons separator front ih =>
    obtain ⟨hseparator, hothers⟩ := List.forall_mem_cons.mp hfront
    have hsplit := @runs_append_cons _ isSeparator [] (front ++ list) _ hseparator
    rw [List.nil_append] at hsplit
    rw [List.cons_append, hsplit, ih hothers]
    rfl

theorem runs_append_separators (hback : ∀ a ∈ back, isSeparator a = true) :
    runs isSeparator (list ++ back) = runs isSeparator list := by
  cases back with
  | nil => rw [List.append_nil]
  | cons separator back =>
    obtain ⟨hseparator, hothers⟩ := List.forall_mem_cons.mp hback
    have hnone := @runs_separators_append _ isSeparator [] _ hothers
    rw [List.append_nil] at hnone
    rw [runs_append_cons hseparator, hnone]
    exact List.append_nil _

/-- Runs have all elements that are no separators, in their order. -/
theorem flatten_runs (list : List A) :
    (runs isSeparator list).flatten = list.filter (fun a ↦ !isSeparator a) := by
  unfold runs
  rw [List.flatten_filter_not_isEmpty]
  induction list with
  | nil => rfl
  | cons a list ih =>
    rw [List.splitOnP_cons_eq_if_modifyHead]
    split
    · next ha => rw [List.flatten_cons, ih, List.filter_cons_of_neg (by simp [ha]), List.nil_append]
    · next ha =>
      rw [List.filter_cons_of_pos (by simpa using ha), ← ih]
      cases hparts : list.splitOnP isSeparator with
      | nil => exact absurd hparts (List.splitOnP_ne_nil _ _)
      | cons part parts => rfl

theorem mem_of_mem_run {run : List A} {a : A} (hrun : run ∈ runs isSeparator list) (ha : a ∈ run) :
    a ∈ list := by
  have hflat := List.mem_flatten_of_mem hrun ha
  rw [flatten_runs] at hflat
  exact List.mem_of_mem_filter hflat

theorem lastRun_append_cons (hseparator : isSeparator separator = true) :
    lastRun isSeparator (list ++ separator :: list') = lastRun isSeparator list' := by
  unfold lastRun List.rtakeWhile
  rw [List.reverse_append, List.reverse_cons, List.append_assoc, List.takeWhile_append]
  split
  · next hall =>
    rw [List.singleton_append, List.takeWhile_cons_of_neg (by simp [hseparator]), List.append_nil]
    rw [(List.takeWhile_prefix _).eq_of_length hall]
  · rfl

theorem lastRun_separators_append (hfront : ∀ a ∈ front, isSeparator a = true) :
    lastRun isSeparator (front ++ list) = lastRun isSeparator list := by
  induction front with
  | nil => rfl
  | cons separator front ih =>
    obtain ⟨hseparator, hothers⟩ := List.forall_mem_cons.mp hfront
    have hsplit := @lastRun_append_cons _ isSeparator [] (front ++ list) _ hseparator
    rw [List.nil_append] at hsplit
    rw [List.cons_append, hsplit, ih hothers]

theorem lastRun_of_forall (hlist : ∀ a ∈ list, isSeparator a = false) :
    lastRun isSeparator list = list :=
  List.rtakeWhile_eq_self_iff.mpr (fun a ha ↦ by simp [hlist a ha])

end Runs

end Irrd.Base
