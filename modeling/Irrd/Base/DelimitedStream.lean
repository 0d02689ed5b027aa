import Mathlib.Data.List.Basic

/-!
# Records of a stream read in chunks

A reader of a stream with separators hands over what stands before the last separator and keeps
the rest for the next chunk. What is handed over and kept does not depend on the chunks.
-/

namespace Irrd.Base

universe u

variable {α : Type u} {separator : α} {x y : List α}

/-- A text with a separator, taken apart at the last one. -/
theorem exists_last_separator (hx : separator ∈ x) :
    ∃ before after, x = before ++ separator :: after ∧ separator ∉ after := by
  obtain ⟨after, before, hreverse, hafter⟩ := List.eq_append_cons_of_mem (List.mem_reverse.mpr hx)
  refine ⟨before.reverse, after.reverse, ?_, fun h ↦ hafter (List.mem_reverse.mp h)⟩
  rw [← List.reverse_reverse x, hreverse]
  simp

variable [DecidableEq α]

/-- What stands before each separator. -/
def completed (separator : α) (text : List α) : List (List α) := (text.splitOn separator).dropLast

/-- What stands after the last separator. -/
def remainder (separator : α) (text : List α) : List α :=
  (text.splitOn separator).getLast (List.splitOn_ne_nil separator text)

theorem completed_append_remainder (separator : α) (text : List α) :
    completed separator text ++ [remainder separator text] = text.splitOn separator :=
  List.dropLast_append_getLast _

theorem completed_of_not_mem (hx : separator ∉ x) : completed separator x = [] := by
  unfold completed
  rw [List.splitOn_eq_singleton hx, List.dropLast_singleton]

theorem remainder_of_not_mem (hx : separator ∉ x) : remainder separator x = x := by
  have hparts := completed_append_remainder separator x
  rw [completed_of_not_mem hx, List.splitOn_eq_singleton hx, List.nil_append] at hparts
  exact (List.cons.inj hparts).1

theorem completed_append_cons (hy : separator ∉ y) :
    completed separator (x ++ separator :: y) = x.splitOn separator := by
  unfold completed
  rw [List.splitOn_append_cons_self, List.splitOn_eq_singleton hy, List.dropLast_concat]

theorem remainder_append_cons (hy : separator ∉ y) :
    remainder separator (x ++ separator :: y) = y := by
  have hparts := completed_append_remainder separator (x ++ separator :: y)
  rw [completed_append_cons hy, List.splitOn_append_cons_self, List.splitOn_eq_singleton hy,
    List.append_cancel_left_eq] at hparts
  exact (List.cons.inj hparts).1

/-- No separator is left in the rest. -/
theorem not_mem_remainder : separator ∉ remainder separator x := by
  by_cases hx : separator ∈ x
  · obtain ⟨before, after, rfl, hafter⟩ := exists_last_separator hx
    rwa [remainder_append_cons hafter]
  · rwa [remainder_of_not_mem hx]

/-- Something is handed over where there is a separator, so that less is left. -/
theorem length_remainder_lt (hx : separator ∈ x) : (remainder separator x).length < x.length := by
  obtain ⟨before, after, rfl, hafter⟩ := exists_last_separator hx
  rw [remainder_append_cons hafter, List.length_append, List.length_cons]
  omega

/-- Splitting a text goes on from what is left of its first part. -/
theorem splitOn_append (x y : List α) :
    (x ++ y).splitOn separator =
      completed separator x ++ (remainder separator x ++ y).splitOn separator := by
  by_cases hx : separator ∈ x
  · obtain ⟨before, after, rfl, hafter⟩ := exists_last_separator hx
    rw [completed_append_cons hafter, remainder_append_cons hafter, List.append_assoc,
      List.cons_append, List.splitOn_append_cons_self]
  · rw [completed_of_not_mem hx, remainder_of_not_mem hx, List.nil_append]

/-- Parts that each stand behind a separator are found again. -/
theorem splitOn_separated {parts : List (List α)} (hparts : ∀ part ∈ parts, separator ∉ part) :
    ((parts.map (separator :: ·)).flatten).splitOn separator = [] :: parts := by
  have hjoined (first : List α) :
      [separator].intercalate (first :: parts) =
        first ++ (parts.map (separator :: ·)).flatten := by
    induction parts generalizing first with
    | nil => simp
    | cons part parts ih =>
      rw [List.intercalate_cons_cons, ih (List.forall_mem_cons.mp hparts).2]
      simp
  rw [← List.nil_append (parts.map (separator :: ·)).flatten, ← hjoined]
  exact List.splitOn_intercalate separator
    (List.forall_mem_cons.mpr ⟨List.not_mem_nil, hparts⟩) (List.cons_ne_nil _ _)

end Irrd.Base
