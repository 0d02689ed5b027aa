import Mathlib.Data.List.Basic

/-!
# Digits in groups

Numbers in decimal with single separators between digits, by a loop over the text and by the
grammar of such texts. What a digit is, is a parameter.
-/

namespace Irrd.Base

universe u

variable {C : Type u} (digit : C → Option Nat) (separator : C)

/-- The number that digits stand for, after a number. -/
def digitsNumber (value : Nat) (digits : List C) : Nat :=
  digits.foldl (fun value c ↦ 10 * value + (digit c).getD 0) value

/-- Digits with single separators between them, after a number and whether a digit came last. -/
def groupedValue [DecidableEq C] (value : Nat) (afterDigit : Bool) : List C → Option Nat
  | [] => if afterDigit then some value else none
  | c :: text =>
    match digit c with
    | some d => groupedValue (10 * value + d) true text
    | none => if c = separator ∧ afterDigit then groupedValue value false text else none

/-- A text of digits, with or without a separator between each two. -/
inductive Grouped : List C → List C → Prop
  | last {c : C} (hc : (digit c).isSome) : Grouped [c] [c]
  | next {c : C} {text digits : List C} (hc : (digit c).isSome) (h : Grouped text digits) :
      Grouped (c :: text) (c :: digits)
  | separated {c : C} {text digits : List C} (hc : (digit c).isSome) (h : Grouped text digits) :
      Grouped (c :: separator :: text) (c :: digits)

variable {digit separator} {text digits : List C}

namespace Grouped

/-- A text in groups has digits and separators only. -/
theorem isSome_or_eq_of_mem (h : Grouped digit separator text digits) :
    ∀ c ∈ text, (digit c).isSome ∨ c = separator := by
  induction h with
  | last hc => exact List.forall_mem_singleton.mpr (.inl hc)
  | next hc _ ih => exact List.forall_mem_cons.mpr ⟨.inl hc, ih⟩
  | separated hc _ ih =>
    exact List.forall_mem_cons.mpr ⟨.inl hc, List.forall_mem_cons.mpr ⟨.inr rfl, ih⟩⟩

theorem filter_eq (h : Grouped digit separator text digits) (hseparator : digit separator = none) :
    text.filter (fun c ↦ (digit c).isSome) = digits := by
  induction h with
  | last hc => simp [hc]
  | next hc _ ih => simp [hc, ih]
  | separated hc _ ih => simp [hc, hseparator, ih]

theorem exists_eq_cons (h : Grouped digit separator text digits) :
    ∃ c rest, text = c :: rest ∧ (digit c).isSome := by
  cases h with
  | last hc => exact ⟨_, _, rfl, hc⟩
  | next hc _ => exact ⟨_, _, rfl, hc⟩
  | separated hc _ => exact ⟨_, _, rfl, hc⟩

theorem exists_eq_append (h : Grouped digit separator text digits) :
    ∃ rest c, text = rest ++ [c] ∧ (digit c).isSome := by
  induction h with
  | last hc => exact ⟨[], _, rfl, hc⟩
  | next _ _ ih =>
    obtain ⟨rest, d, rfl, hd⟩ := ih
    exact ⟨_ :: rest, d, rfl, hd⟩
  | separated _ _ ih =>
    obtain ⟨rest, d, rfl, hd⟩ := ih
    exact ⟨_ :: _ :: rest, d, rfl, hd⟩

/-- Digits without separators are a text in groups. -/
theorem of_forall (hne : digits ≠ []) (hdigits : ∀ c ∈ digits, (digit c).isSome) :
    Grouped digit separator digits digits := by
  induction digits with
  | nil => exact absurd rfl hne
  | cons c digits ih =>
    obtain ⟨hc, hdigits⟩ := List.forall_mem_cons.mp hdigits
    by_cases hempty : digits = []
    · subst hempty
      exact .last hc
    · exact .next hc (ih hempty hdigits)

end Grouped

theorem digitsNumber_cons {c : C} {d : Nat} (hc : digit c = some d) (value : Nat)
    (digits : List C) :
    digitsNumber digit value (c :: digits) = digitsNumber digit (10 * value + d) digits := by
  unfold digitsNumber
  rw [List.foldl_cons, hc, Option.getD_some]

/-- A text in groups begins with a digit. -/
theorem not_grouped_cons {c : C} (hc : digit c = none) (digits : List C) :
    ¬ Grouped digit separator (c :: text) digits := by
  intro h
  obtain ⟨d, rest, heq, hd⟩ := h.exists_eq_cons
  obtain ⟨rfl, -⟩ := List.cons.inj heq
  rw [hc] at hd
  exact nomatch hd

/-- After its first digit, a text in groups ends, goes on with a digit, or with a separator. -/
theorem grouped_cons_iff {c : C} {d : Nat} (hc : digit c = some d) (value n : Nat) :
    (∃ digits, Grouped digit separator (c :: text) digits ∧ n = digitsNumber digit value digits) ↔
      (text = [] ∧ n = 10 * value + d) ∨
      (∃ digits, Grouped digit separator text digits ∧
        n = digitsNumber digit (10 * value + d) digits) ∨
      ∃ rest digits, text = separator :: rest ∧ Grouped digit separator rest digits ∧
        n = digitsNumber digit (10 * value + d) digits := by
  have hsome : (digit c).isSome := by rw [hc]; rfl
  constructor
  · rintro ⟨digits, h, rfl⟩
    cases h with
    | last _ => exact .inl ⟨rfl, digitsNumber_cons hc value []⟩
    | next _ h => exact .inr (.inl ⟨_, h, digitsNumber_cons hc value _⟩)
    | separated _ h => exact .inr (.inr ⟨_, _, rfl, h, digitsNumber_cons hc value _⟩)
  · rintro (⟨rfl, rfl⟩ | ⟨digits, h, rfl⟩ | ⟨rest, digits, rfl, h, rfl⟩)
    · exact ⟨[c], .last hsome, (digitsNumber_cons hc value []).symm⟩
    · exact ⟨c :: digits, .next hsome h, (digitsNumber_cons hc value digits).symm⟩
    · exact ⟨c :: digits, .separated hsome h, (digitsNumber_cons hc value digits).symm⟩

/-- The loop reads the texts in groups, and stops between digits only at the end or at a
separator. -/
theorem groupedValue_eq_some_iff [DecidableEq C] (hseparator : digit separator = none)
    (text : List C)
    (value n : Nat) :
    (groupedValue digit separator value false text = some n ↔
      ∃ digits, Grouped digit separator text digits ∧ n = digitsNumber digit value digits) ∧
    (groupedValue digit separator value true text = some n ↔
      (text = [] ∧ n = value) ∨
      (∃ digits, Grouped digit separator text digits ∧ n = digitsNumber digit value digits) ∨
      ∃ rest digits, text = separator :: rest ∧ Grouped digit separator rest digits ∧
        n = digitsNumber digit value digits) := by
  induction text generalizing value with
  | nil =>
    constructor
    · simp only [groupedValue]
      constructor
      · intro h
        exact absurd h (by simp)
      · rintro ⟨_, h, -⟩
        exact nomatch h
    · rw [groupedValue, if_pos rfl, Option.some.injEq]
      constructor
      · rintro rfl
        exact .inl ⟨rfl, rfl⟩
      · rintro (⟨-, rfl⟩ | ⟨_, h, -⟩ | ⟨_, _, h, -⟩)
        · rfl
        · exact nomatch h
        · exact nomatch h
  | cons c text ih =>
    cases hc : digit c with
    | some d =>
      have hstep (afterDigit : Bool) : groupedValue digit separator value afterDigit (c :: text) =
          groupedValue digit separator (10 * value + d) true text := by
        rw [groupedValue]
        simp only [hc]
      have hgrouped := (ih (10 * value + d)).2.trans (grouped_cons_iff hc value n).symm
      constructor
      · rw [hstep, hgrouped]
      · rw [hstep, hgrouped]
        constructor
        · exact fun h ↦ .inr (.inl h)
        · rintro (⟨h, -⟩ | h | ⟨rest, digits, h, -⟩)
          · exact nomatch h
          · exact h
          · obtain ⟨rfl, -⟩ := List.cons.inj h
            rw [hseparator] at hc
            exact nomatch hc
    | none =>
      have hnot := @not_grouped_cons _ _ separator text _ hc
      have hstep (afterDigit : Bool) : groupedValue digit separator value afterDigit (c :: text) =
          if c = separator ∧ afterDigit then groupedValue digit separator value false text
          else none := by
        rw [groupedValue]
        simp only [hc]
      constructor
      · rw [hstep, if_neg (by simp)]
        constructor
        · exact fun h ↦ nomatch h
        · rintro ⟨digits, h, -⟩
          exact absurd h (hnot digits)
      · rw [hstep]
        constructor
        · intro h
          split at h
          · next hc =>
            obtain ⟨digits, hgrouped, hn⟩ := (ih value).1.mp h
            exact .inr (.inr ⟨text, digits, by rw [hc.1], hgrouped, hn⟩)
          · exact nomatch h
        · rintro (⟨h, -⟩ | ⟨digits, h, -⟩ | ⟨rest, digits, h, hgrouped, hn⟩)
          · exact nomatch h
          · exact absurd h (hnot digits)
          · obtain ⟨rfl, rfl⟩ := List.cons.inj h
            rw [if_pos ⟨rfl, rfl⟩]
            exact (ih value).1.mpr ⟨digits, hgrouped, hn⟩

end Irrd.Base
