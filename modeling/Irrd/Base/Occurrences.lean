import Mathlib.Data.List.Basic
import Mathlib.Data.List.Infix

/-!
# Occurrences of words in texts

Counting the occurrences of a word, the text up to its last occurrence, and lists taken apart at
the first item with a property. A word that does not overlap with itself and is counted once
stands in one place only.
-/

namespace Irrd.Base

universe u

variable {α : Type u}

section First

/-- A list taken apart at the first item with a property. -/
def splitAtFirst (p : α → Bool) : List α → Option (List α × α × List α)
  | [] => none
  | x :: xs =>
    if p x then some ([], x, xs)
    else (splitAtFirst p xs).map (fun (before, y, after) ↦ (x :: before, y, after))

variable {p : α → Bool} {x : α} {before after xs : List α}

theorem splitAtFirst_eq_some (h : splitAtFirst p xs = some (before, x, after)) :
    xs = before ++ x :: after ∧ p x = true ∧ ∀ y ∈ before, p y = false := by
  induction xs generalizing before with
  | nil => cases h
  | cons y xs ih =>
    rw [splitAtFirst] at h
    split at h
    · next hy =>
      cases h
      exact ⟨rfl, hy, by simp⟩
    · next hy =>
      obtain ⟨⟨before', x', after'⟩, hrest, heq⟩ := Option.map_eq_some_iff.mp h
      cases heq
      obtain ⟨rfl, hx, hbefore⟩ := ih hrest
      exact ⟨rfl, hx, List.forall_mem_cons.mpr ⟨Bool.eq_false_iff.mpr hy, hbefore⟩⟩

end First

variable [DecidableEq α]

section Last

variable {separator text before : List α}

/-- The longest prefix of a text that a separator follows. -/
def upToLast (separator : List α) : List α → Option (List α)
  | [] => if separator = [] then some [] else none
  | c :: text =>
    match upToLast separator text with
    | some before => some (c :: before)
    | none => if separator <+: c :: text then some [] else none

theorem isSome_upToLast (before after : List α) :
    (upToLast separator (before ++ separator ++ after)).isSome = true := by
  induction before with
  | nil =>
    rw [List.nil_append]
    cases htext : separator ++ after with
    | nil =>
      rw [upToLast, if_pos (List.append_eq_nil_iff.mp htext).1]
      rfl
    | cons c text =>
      rw [upToLast]
      split
      · rfl
      · rw [if_pos ⟨after, htext⟩]
        rfl
  | cons c before ih =>
    obtain ⟨found, hfound⟩ := Option.isSome_iff_exists.mp ih
    rw [List.cons_append, List.cons_append, upToLast, hfound]
    rfl

/-- The separator follows, and no longer prefix is followed by it. -/
theorem upToLast_eq_some (h : upToLast separator text = some before) :
    (∃ after, text = before ++ separator ++ after) ∧
      ∀ before' after', text = before' ++ separator ++ after' →
        before'.length ≤ before.length := by
  induction text generalizing before with
  | nil =>
    rw [upToLast] at h
    split at h
    · next hseparator =>
      cases h
      refine ⟨⟨[], by simp [hseparator]⟩, fun before' after' htext ↦ ?_⟩
      have hnil := congrArg List.length htext
      simp only [List.length_nil, List.length_append] at hnil ⊢
      omega
    · cases h
  | cons c text ih =>
    rw [upToLast] at h
    split at h
    · next found hfound =>
      cases h
      obtain ⟨⟨after, rfl⟩, hlongest⟩ := ih hfound
      refine ⟨⟨after, rfl⟩, fun before' after' htext ↦ ?_⟩
      cases before' with
      | nil => simp
      | cons c' before' =>
        exact Nat.succ_le_succ (hlongest before' after' (List.cons.inj htext).2)
    · next hnone =>
      split at h
      · next hprefix =>
        cases h
        obtain ⟨after, hafter⟩ := hprefix
        refine ⟨⟨after, hafter.symm⟩, fun before' after' htext ↦ ?_⟩
        cases before' with
        | nil => exact Nat.le_refl 0
        | cons c' before' =>
          have hrest : text = before' ++ separator ++ after' := (List.cons.inj htext).2
          rw [hrest] at hnone
          exact absurd (isSome_upToLast before' after') (by rw [hnone]; exact Bool.false_ne_true)
      · cases h

end Last

section Count

/-- The number of occurrences of a word that do not overlap, from left to right, after some
characters that are skipped. -/
def countOccurrences (word : List α) : Nat → List α → Nat
  | _, [] => 0
  | skip + 1, _ :: text => countOccurrences word skip text
  | 0, c :: text =>
    if word <+: c :: text then countOccurrences word (word.length - 1) text + 1
    else countOccurrences word 0 text

variable {word text : List α}

/-- What is skipped hides no occurrence behind it. -/
theorem countOccurrences_pos (hword : word ≠ []) {before : List α} {skip : Nat}
    (hskip : skip ≤ before.length) (after : List α) :
    0 < countOccurrences word skip (before ++ word ++ after) := by
  induction before generalizing skip with
  | nil =>
    cases Nat.le_zero.mp hskip
    rw [List.nil_append]
    cases htext : word ++ after with
    | nil => exact absurd (List.append_eq_nil_iff.mp htext).1 hword
    | cons c text =>
      rw [countOccurrences, if_pos ⟨after, htext⟩]
      exact Nat.succ_pos _
  | cons c before ih =>
    rw [List.cons_append, List.cons_append]
    cases skip with
    | zero =>
      rw [countOccurrences]
      split
      · exact Nat.succ_pos _
      · exact ih (Nat.zero_le _)
    | succ skip =>
      rw [countOccurrences]
      exact ih (Nat.le_of_succ_le_succ hskip)

/-- No end of a word is a beginning of it. -/
def NoOverlap (word : List α) : Prop :=
  ∀ n, n < word.length → 0 < n → ¬ word.drop n <+: word

/-- A second occurrence behind one at the start does not overlap with it, and is counted. -/
theorem two_le_countOccurrences_of_start (hword : word ≠ []) (hoverlap : NoOverlap word)
    {before after after' : List α} (hbefore : before ≠ [])
    (htext : word ++ after = before ++ word ++ after') :
    2 ≤ countOccurrences word 0 (before ++ word ++ after') := by
  have hlength : word.length ≤ before.length := by
    by_contra hshort
    have hshort := Nat.lt_of_not_le hshort
    refine hoverlap before.length hshort (List.length_pos_iff.mpr hbefore) ?_
    have hdrop := congrArg (List.drop before.length) htext
    rw [List.drop_append_of_le_length hshort.le, List.append_assoc, List.drop_left] at hdrop
    exact List.prefix_of_prefix_length_le (List.prefix_append _ after)
      (hdrop ▸ List.prefix_append word after') (by simp)
  obtain ⟨c, before, rfl⟩ := List.exists_cons_of_ne_nil hbefore
  have hstart : word <+: c :: (before ++ word ++ after') := ⟨after, htext⟩
  rw [List.cons_append, List.cons_append, countOccurrences, if_pos hstart]
  exact Nat.succ_le_succ (countOccurrences_pos hword (by simpa using hlength) after')

/-- A word that is counted once stands in one place only. -/
theorem occurrence_unique (hword : word ≠ []) (hoverlap : NoOverlap word)
    (hcount : countOccurrences word 0 text ≤ 1) {before after before' after' : List α}
    (htext : text = before ++ word ++ after) (htext' : text = before' ++ word ++ after') :
    before = before' := by
  have hstart {text x y y' : List α} (hcount : countOccurrences word 0 text ≤ 1) (hx : x ≠ [])
      (hy : text = word ++ y) (hy' : text = x ++ word ++ y') : False := by
    have htwo := two_le_countOccurrences_of_start hword hoverlap hx (hy ▸ hy')
    rw [← hy'] at htwo
    omega
  induction text generalizing before before' with
  | nil =>
    have hnil := congrArg List.length htext
    have hpos := List.length_pos_iff.mpr hword
    simp only [List.length_nil, List.length_append] at hnil
    omega
  | cons c text ih =>
    cases before with
    | nil =>
      cases before' with
      | nil => rfl
      | cons d' before' => exact (hstart hcount (List.cons_ne_nil _ _) htext htext').elim
    | cons d before =>
      cases before' with
      | nil => exact (hstart hcount (List.cons_ne_nil _ _) htext' htext).elim
      | cons d' before' =>
        have hcounted := hcount
        rw [countOccurrences] at hcount
        split at hcount
        · next hprefix =>
          obtain ⟨rest, hrest⟩ := hprefix
          exact (hstart hcounted (List.cons_ne_nil _ _) hrest.symm htext).elim
        · obtain ⟨rfl, hrest⟩ := List.cons.inj htext
          obtain ⟨rfl, hrest'⟩ := List.cons.inj htext'
          rw [ih hcount hrest hrest']

end Count

end Irrd.Base
