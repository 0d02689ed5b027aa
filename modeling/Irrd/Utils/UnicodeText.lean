import Irrd.Base.DigitGroups
import Irrd.Utils.Splitlines
import Mathlib.Data.Bool.AllAny

/-!
# Text of any characters

What `str.upper` and `int` make of a text with any characters. Of the characters outside ASCII,
upper case is given for those whose upper case has an ASCII letter; the others stay as they are,
since no letter, digit, space or sign of ASCII, nor any other digit or space, comes from them.
-/

namespace Irrd.Utils

open Irrd.Base

section UpperCase

/-- Characters outside ASCII whose upper case has ASCII letters. -/
def specialUpper : List (Char × List Char) :=
  [('\u00df', ['S', 'S']), ('\u0131', ['I']), ('\u0149', ['\u02bc', 'N']), ('\u017f', ['S']),
    ('\u01f0', ['J', '\u030c']), ('\u1e96', ['H', '\u0331']), ('\u1e97', ['T', '\u0308']),
    ('\u1e98', ['W', '\u030a']), ('\u1e99', ['Y', '\u030a']), ('\u1e9a', ['A', '\u02be']),
    ('\ufb00', ['F', 'F']), ('\ufb01', ['F', 'I']), ('\ufb02', ['F', 'L']),
    ('\ufb03', ['F', 'F', 'I']), ('\ufb04', ['F', 'F', 'L']), ('\ufb05', ['S', 'T']),
    ('\ufb06', ['S', 'T'])]

/-- `str.upper` of a character. -/
def upperChar (c : Char) : List Char := (specialUpper.lookup c).getD [c.toUpper]

/-- `str.upper`. -/
def upperText (text : List Char) : List Char := text.flatMap upperChar

end UpperCase

section Integers

/-- The zeros of the decimal digits of Unicode 14, each followed by its other nine digits. -/
def decimalZeros : List Nat :=
  [0x30, 0x660, 0x6f0, 0x7c0, 0x966, 0x9e6, 0xa66, 0xae6, 0xb66, 0xbe6, 0xc66, 0xce6, 0xd66,
    0xde6, 0xe50, 0xed0, 0xf20, 0x1040, 0x1090, 0x17e0, 0x1810, 0x1946, 0x19d0, 0x1a80, 0x1a90,
    0x1b50, 0x1bb0, 0x1c40, 0x1c50, 0xa620, 0xa8d0, 0xa900, 0xa9d0, 0xa9f0, 0xaa50, 0xabf0,
    0xff10, 0x104a0, 0x10d30, 0x11066, 0x110f0, 0x11136, 0x111d0, 0x112f0, 0x11450, 0x114d0,
    0x11650, 0x116c0, 0x11730, 0x118e0, 0x11950, 0x11c50, 0x11d50, 0x11da0, 0x16a60, 0x16ac0,
    0x16b50, 0x1d7ce, 0x1d7d8, 0x1d7e2, 0x1d7ec, 0x1d7f6, 0x1e140, 0x1e2f0, 0x1e950, 0x1fbf0]

/-- The value of a decimal digit. -/
def decimalDigit (c : Char) : Option Nat :=
  (decimalZeros.find? (fun first ↦ first ≤ c.toNat ∧ c.toNat ≤ first + 9)).map (c.toNat - ·)

/-- Characters that `int` leaves out around a number. -/
def intSpaces : List Char :=
  ['\t', '\n', '\x0b', '\x0c', '\r', ' ', '\u0085', '\u00a0', '\u1680', '\u2000',
    '\u2001', '\u2002', '\u2003', '\u2004', '\u2005', '\u2006', '\u2007', '\u2008', '\u2009',
    '\u200a', '\u2028', '\u2029', '\u202f', '\u205f', '\u3000']

/-- `sys.int_info.default_max_str_digits`. -/
def maxStrDigits : Nat := 4300

/-- The digits of a text. -/
def digitsOf (text : List Char) : List Char := text.filter (fun c ↦ (decimalDigit c).isSome)

/-- Digits with single underscores between them, after a number and whether a digit came last. -/
def digitsValue (value : Nat) (afterDigit : Bool) (text : List Char) : Option Nat :=
  groupedValue decimalDigit '_' value afterDigit text

/-- `int` of a text without spaces and a sign. -/
def unsignedInt (text : List Char) : Option Nat :=
  if (digitsOf text).length ≤ maxStrDigits then digitsValue 0 false text else none

/-- The number of a text with spaces around it and a sign, from those of texts without them. -/
def signedInt (unsigned : List Char → Option Nat) (text : List Char) : Option Int :=
  match stripChars intSpaces text with
  | '-' :: digits => (unsigned digits).map (fun n : Nat ↦ -(n : Int))
  | '+' :: digits => (unsigned digits).map (fun n : Nat ↦ (n : Int))
  | digits => (unsigned digits).map (fun n : Nat ↦ (n : Int))

/-- `int` of a text. -/
def int (text : List Char) : Option Int := signedInt unsignedInt text

/-- `int` of a text, without its limit on the number of digits. -/
def parseInt (text : List Char) : Option Int := signedInt (digitsValue 0 false) text

/-- A text that `int` reads: digits of any script with single underscores between them, a sign
before them, and spaces around both. -/
def IsIntLiteral (text : List Char) (n : Int) : Prop :=
  ∃ before sign body digits after, text = before ++ (sign ++ body) ++ after ∧
    (∀ c ∈ before, c ∈ intSpaces) ∧ (∀ c ∈ after, c ∈ intSpaces) ∧
    Grouped decimalDigit '_' body digits ∧ digits.length ≤ maxStrDigits ∧
    ((sign = [] ∨ sign = ['+']) ∧ n = digitsNumber decimalDigit 0 digits ∨
      sign = ['-'] ∧ n = -(digitsNumber decimalDigit 0 digits : Int))

/-- What is no digit. -/
theorem decimalDigit_eq_none : ∀ c ∈ intSpaces ++ ['+', '-', '_', '.'], decimalDigit c = none :=
  List.all_iff_forall_prop.mp (by decide +kernel)

theorem notMem_of_isSome {c : Char} (hc : (decimalDigit c).isSome) :
    c ∉ intSpaces ∧ c ≠ '+' ∧ c ≠ '-' ∧ c ≠ '_' ∧ c ≠ '.' := by
  have hnone : c ∉ intSpaces ++ ['+', '-', '_', '.'] := by
    intro hmem
    rw [decimalDigit_eq_none c hmem] at hc
    exact nomatch hc
  simpa [and_assoc] using hnone

theorem unsignedInt_eq_some_iff {text : List Char} {n : Nat} :
    unsignedInt text = some n ↔ ∃ digits, Grouped decimalDigit '_' text digits ∧
      digits.length ≤ maxStrDigits ∧ n = digitsNumber decimalDigit 0 digits := by
  have hunderscore : decimalDigit '_' = none := decimalDigit_eq_none '_' (by decide)
  have hvalue := (groupedValue_eq_some_iff hunderscore text 0 n).1
  unfold unsignedInt
  constructor
  · intro h
    split at h
    · next hlength =>
      obtain ⟨digits, hgrouped, hn⟩ := hvalue.mp h
      rw [digitsOf, hgrouped.filter_eq hunderscore] at hlength
      exact ⟨digits, hgrouped, hlength, hn⟩
    · cases h
  · rintro ⟨digits, hgrouped, hlength, hn⟩
    rw [if_pos (by rwa [digitsOf, hgrouped.filter_eq hunderscore])]
    exact hvalue.mpr ⟨digits, hgrouped, hn⟩

/-- Spaces around a number are stripped, and no more. -/
theorem stripChars_intLiteral {before sign body digits after : List Char}
    (hbefore : ∀ c ∈ before, c ∈ intSpaces) (hafter : ∀ c ∈ after, c ∈ intSpaces)
    (hgrouped : Grouped decimalDigit '_' body digits)
    (hsign : sign = [] ∨ sign = ['+'] ∨ sign = ['-']) :
    stripChars intSpaces (before ++ (sign ++ body) ++ after) = sign ++ body := by
  rw [stripChars_append_right hafter, stripChars_append_left hbefore]
  obtain ⟨first, rest, hfirst, hdigit⟩ := hgrouped.exists_eq_cons
  obtain ⟨rest', last, hlast, hdigit'⟩ := hgrouped.exists_eq_append
  apply stripChars_eq_self
  · intro c hc
    rcases hsign with rfl | rfl | rfl
    · rw [List.nil_append, hfirst] at hc
      cases hc
      exact (notMem_of_isSome hdigit).1
    · cases hc
      simp [intSpaces]
    · cases hc
      simp [intSpaces]
  · intro c hc
    rw [hlast, ← List.append_assoc, List.getLast?_concat] at hc
    cases hc
    exact (notMem_of_isSome hdigit').1

/-- `int` reads exactly these texts. -/
theorem int_eq_some_iff {text : List Char} {n : Int} :
    int text = some n ↔ IsIntLiteral text n := by
  constructor
  · intro h
    obtain ⟨before, after, htext, hbefore, hafter⟩ := exists_eq_append_stripChars intSpaces text
    unfold int signedInt at h
    split at h
    · next digits hstripped =>
      obtain ⟨m, hm, rfl⟩ := Option.map_eq_some_iff.mp h
      obtain ⟨digits', hgrouped, hlength, rfl⟩ := unsignedInt_eq_some_iff.mp hm
      rw [hstripped] at htext
      exact ⟨before, ['-'], digits, digits', after, htext, hbefore, hafter, hgrouped, hlength,
        .inr ⟨rfl, rfl⟩⟩
    · next digits hstripped =>
      obtain ⟨m, hm, rfl⟩ := Option.map_eq_some_iff.mp h
      obtain ⟨digits', hgrouped, hlength, rfl⟩ := unsignedInt_eq_some_iff.mp hm
      rw [hstripped] at htext
      exact ⟨before, ['+'], digits, digits', after, htext, hbefore, hafter, hgrouped, hlength,
        .inl ⟨.inr rfl, rfl⟩⟩
    · obtain ⟨m, hm, rfl⟩ := Option.map_eq_some_iff.mp h
      obtain ⟨digits', hgrouped, hlength, rfl⟩ := unsignedInt_eq_some_iff.mp hm
      exact ⟨before, [], _, digits', after, htext, hbefore, hafter, hgrouped, hlength,
        .inl ⟨.inl rfl, rfl⟩⟩
  · rintro ⟨before, sign, body, digits, after, rfl, hbefore, hafter, hgrouped, hlength, hvalue⟩
    have hbody : unsignedInt body = some (digitsNumber decimalDigit 0 digits) :=
      unsignedInt_eq_some_iff.mpr ⟨digits, hgrouped, hlength, rfl⟩
    have hsign : sign = [] ∨ sign = ['+'] ∨ sign = ['-'] := by tauto
    unfold int signedInt
    rw [stripChars_intLiteral hbefore hafter hgrouped hsign]
    rcases hvalue with ⟨rfl | rfl, rfl⟩ | ⟨rfl, rfl⟩
    · obtain ⟨c, rest, rfl, hc⟩ := hgrouped.exists_eq_cons
      obtain ⟨-, hplus, hminus, -⟩ := notMem_of_isSome hc
      split
      · next heq => exact absurd (List.cons.inj heq).1 hminus
      · next heq => exact absurd (List.cons.inj heq).1 hplus
      · rw [List.nil_append, hbody]
        rfl
    · change (unsignedInt body).map _ = _
      rw [hbody]
      rfl
    · change (unsignedInt body).map _ = _
      rw [hbody]
      rfl

end Integers

section Characters

variable {c d : Char}

theorem isDigit_iff : c.isDigit = true ↔ 48 ≤ c.toNat ∧ c.toNat ≤ 57 := by
  simp [Char.isDigit, UInt32.le_iff_toNat_le]

theorem isUpper_iff : c.isUpper = true ↔ 65 ≤ c.toNat ∧ c.toNat ≤ 90 := by
  change decide ('A'.val ≤ c.val ∧ c.val ≤ 'Z'.val) = true ↔ _
  simp [UInt32.le_iff_toNat_le]

theorem isLower_iff : c.isLower = true ↔ 97 ≤ c.toNat ∧ c.toNat ≤ 122 := by
  change (decide ('a'.val ≤ c.val) && decide (c.val ≤ 'z'.val)) = true ↔ _
  simp [UInt32.le_iff_toNat_le]

theorem isAlphanum_iff : c.isAlphanum = true ↔ 65 ≤ c.toNat ∧ c.toNat ≤ 90 ∨
    97 ≤ c.toNat ∧ c.toNat ≤ 122 ∨ 48 ≤ c.toNat ∧ c.toNat ≤ 57 := by
  unfold Char.isAlphanum Char.isAlpha
  rw [Bool.or_eq_true, Bool.or_eq_true, isUpper_iff, isLower_iff, isDigit_iff, or_assoc]

/-- Upper case of ASCII letters, by code points. -/
theorem toNat_toUpper (c : Char) : c.toUpper.toNat =
    if 97 ≤ c.toNat ∧ c.toNat ≤ 122 then c.toNat - 32 else c.toNat := by
  unfold Char.toUpper
  have hiff : ('a'.val ≤ c.val ∧ c.val ≤ 'z'.val) ↔ 97 ≤ c.toNat ∧ c.toNat ≤ 122 := by
    simp [UInt32.le_iff_toNat_le]
  by_cases h : 'a'.val ≤ c.val ∧ c.val ≤ 'z'.val
  · rw [dif_pos h, if_pos (hiff.mp h)]
    have hrange := hiff.mp h
    change (c.val + ('A'.val - 'a'.val)).toNat = c.val.toNat - 32
    rw [UInt32.toNat_add]
    change (c.val.toNat + 4294967264) % 4294967296 = c.val.toNat - 32
    change 97 ≤ c.val.toNat ∧ c.val.toNat ≤ 122 at hrange
    omega
  · rw [dif_neg h, if_neg (mt hiff.mpr h)]

/-- An ASCII digit has its value. -/
theorem decimalDigit_of_isDigit (hc : c.isDigit = true) :
    decimalDigit c = some (c.toNat - '0'.toNat) := by
  have hfirst : (48 ≤ c.toNat ∧ c.toNat ≤ 48 + 9) := isDigit_iff.mp hc
  unfold decimalDigit decimalZeros
  rw [List.find?_cons_of_pos (by simpa using hfirst)]
  rfl

/-- Before the digits of other scripts there are only those of ASCII. -/
theorem isDigit_of_isSome (hsome : (decimalDigit c).isSome) (hc : c.toNat < 0x660) :
    c.isDigit = true := by
  unfold decimalDigit at hsome
  rw [Option.isSome_map, List.find?_isSome] at hsome
  obtain ⟨first, hfirst, hrange⟩ := hsome
  rw [decide_eq_true_eq] at hrange
  have hzeros : ∀ first ∈ decimalZeros, first < 0x660 → first = 48 := by decide +kernel
  have hzero := hzeros first hfirst (by omega)
  subst hzero
  exact isDigit_iff.mpr hrange

/-- The value of ASCII digits. -/
theorem digitsNumber_eq_ofDigitChars {digits : List Char}
    (hdigits : ∀ c ∈ digits, c.isDigit = true) (value : Nat) :
    digitsNumber decimalDigit value digits = Nat.ofDigitChars 10 digits value := by
  induction digits generalizing value with
  | nil => rfl
  | cons c digits ih =>
    obtain ⟨hc, hdigits⟩ := List.forall_mem_cons.mp hdigits
    rw [digitsNumber_cons (decimalDigit_of_isDigit hc), ih hdigits, Nat.ofDigitChars_cons]

/-- A number in decimal is digits. -/
theorem grouped_toString (n : Nat) :
    Grouped decimalDigit '_' (toString n).toList (toString n).toList := by
  refine .of_forall (toString_ne_nil n) (fun c hc ↦ ?_)
  rw [decimalDigit_of_isDigit (isDigit_of_mem_toString hc)]
  rfl

theorem digitsNumber_toString (n : Nat) :
    digitsNumber decimalDigit 0 (toString n).toList = n := by
  rw [digitsNumber_eq_ofDigitChars (fun c hc ↦ isDigit_of_mem_toString hc), toList_toString,
    Nat.ofDigitChars_ten_toDigits]

theorem digitsValue_toString (n : Nat) : digitsValue 0 false (toString n).toList = some n :=
  (groupedValue_eq_some_iff (decimalDigit_eq_none '_' (by decide)) _ 0 n).1.mpr
    ⟨_, grouped_toString n, (digitsNumber_toString n).symm⟩

/-- A number in decimal is read, also with spaces after it. -/
theorem parseInt_toString_append (n : Nat) {after : List Char}
    (hafter : ∀ c ∈ after, c ∈ intSpaces) :
    parseInt ((toString n).toList ++ after) = some (n : Int) := by
  have hgrouped := grouped_toString n
  have hstrip : stripChars intSpaces ((toString n).toList ++ after) = (toString n).toList := by
    simpa using stripChars_intLiteral (List.forall_mem_nil _) hafter hgrouped (.inl rfl)
  obtain ⟨c, rest, hcons, hc⟩ := hgrouped.exists_eq_cons
  obtain ⟨-, hplus, hminus, -⟩ := notMem_of_isSome hc
  unfold parseInt signedInt
  rw [hstrip, hcons]
  split
  · next heq => exact absurd (List.cons.inj heq).1 hminus
  · next heq => exact absurd (List.cons.inj heq).1 hplus
  · rw [← hcons, digitsValue_toString]
    rfl

theorem parseInt_toString (n : Nat) : parseInt (toString n).toList = some (n : Int) := by
  have h := parseInt_toString_append n (List.forall_mem_nil _)
  rwa [List.append_nil] at h

/-- A character of a number, or a dot between two. -/
def IsNumberChar (c : Char) : Prop :=
  (decimalDigit c).isSome ∨ c ∈ intSpaces ++ ['+', '-', '_', '.']

instance (c : Char) : Decidable (IsNumberChar c) := inferInstanceAs (Decidable (_ ∨ _))

theorem not_isNumberChar_of_letter
    (hc : 65 ≤ c.toNat ∧ c.toNat ≤ 90 ∨ 97 ≤ c.toNat ∧ c.toNat ≤ 122) : ¬ IsNumberChar c := by
  rintro (hsome | hmem)
  · have hdigit := isDigit_iff.mp (isDigit_of_isSome hsome (by omega))
    omega
  · have hlist : ∀ c ∈ intSpaces ++ ['+', '-', '_', '.'],
        ¬ (65 ≤ c.toNat ∧ c.toNat ≤ 90 ∨ 97 ≤ c.toNat ∧ c.toNat ≤ 122) :=
      List.all_iff_forall_prop.mp (by decide +kernel)
    exact hlist c hmem hc

theorem upperChar_eq (c : Char) :
    upperChar c = [c.toUpper] ∨ ∃ p ∈ specialUpper, p.1 = c ∧ upperChar c = p.2 := by
  unfold upperChar
  cases hlookup : specialUpper.lookup c with
  | none => exact .inl rfl
  | some upper =>
    obtain ⟨before, after, heq, -⟩ := List.lookup_eq_some_iff.mp hlookup
    exact .inr ⟨(c, upper), by rw [heq]; simp, rfl, rfl⟩

theorem upperChar_ne_nil (c : Char) : upperChar c ≠ [] := by
  rcases upperChar_eq c with h | ⟨p, hp, -, h⟩
  · rw [h]
    exact List.cons_ne_nil _ _
  · have hspecial : ∀ p ∈ specialUpper, p.2 ≠ [] := by decide
    rw [h]
    exact hspecial p hp

/-- No other character becomes one of a number. -/
theorem eq_of_mem_upperChar (hmem : c ∈ upperChar d) (hc : IsNumberChar c) :
    upperChar d = [c] ∧ d = c := by
  rcases upperChar_eq d with h | ⟨p, hp, -, h⟩
  · rw [h, List.mem_singleton] at hmem
    subst hmem
    have hupper := toNat_toUpper d
    split at hupper
    · exact absurd hc (not_isNumberChar_of_letter (.inl (by omega)))
    · exact ⟨h, Char.toNat_inj.mp hupper.symm⟩
  · have hspecial : ∀ p ∈ specialUpper, p.2.all (fun c ↦ ¬ IsNumberChar c) = true := by
      decide +kernel
    rw [h] at hmem
    exact absurd hc (List.all_iff_forall_prop.mp (hspecial p hp) c hmem)

/-- A character of a number is in upper case. -/
theorem upperChar_of_isNumberChar (hc : IsNumberChar c) : upperChar c = [c] := by
  rcases upperChar_eq c with h | ⟨p, hp, rfl, -⟩
  · have hupper := toNat_toUpper c
    split at hupper
    · next hlower => exact absurd hc (not_isNumberChar_of_letter (.inr hlower))
    · rw [h, Char.toNat_inj.mp hupper]
  · have hspecial : ∀ p ∈ specialUpper, ¬ IsNumberChar p.1 := by decide +kernel
    exact absurd hc (hspecial p hp)

theorem toUpper_toUpper (c : Char) : c.toUpper.toUpper = c.toUpper := by
  have hupper := toNat_toUpper c
  have hagain := toNat_toUpper c.toUpper
  apply Char.toNat_inj.mp
  split at hupper <;> split at hagain <;> omega

theorem upperChar_of_lt (hc : c.toNat < 128) : upperChar c = [c.toUpper] := by
  rcases upperChar_eq c with h | ⟨p, hp, rfl, -⟩
  · exact h
  · have hspecial : ∀ p ∈ specialUpper, 128 ≤ p.1.toNat := by decide
    exact absurd (hspecial p hp) (by omega)

/-- ASCII text is changed character by character. -/
theorem upperText_of_lt {text : List Char} (htext : ∀ c ∈ text, c.toNat < 128) :
    upperText text = text.map Char.toUpper := by
  induction text with
  | nil => rfl
  | cons c text ih =>
    obtain ⟨hc, htext⟩ := List.forall_mem_cons.mp htext
    change upperChar c ++ upperText text = _
    rw [upperChar_of_lt hc, ih htext]
    rfl

theorem upperText_append (x y : List Char) : upperText (x ++ y) = upperText x ++ upperText y :=
  List.flatMap_append

/-- A character in upper case comes from itself, unless it is a letter or one of a special upper
case. -/
theorem mem_upperChar_cases (hmem : c ∈ upperChar d) :
    d = c ∨ c.isUpper = true ∨ ∃ p ∈ specialUpper, c ∈ p.2 := by
  rcases upperChar_eq d with h | ⟨p, hp, -, h⟩
  · rw [h, List.mem_singleton] at hmem
    subst hmem
    have hupper := toNat_toUpper d
    split at hupper
    · exact .inr (.inl (isUpper_iff.mpr (by omega)))
    · exact .inl (Char.toNat_inj.mp hupper.symm)
  · rw [h] at hmem
    exact .inr (.inr ⟨p, hp, hmem⟩)

/-- Upper case has no other characters than the text, except for letters and special ones. -/
theorem mem_of_mem_upperText {text : List Char} (hupper : c.isUpper = false)
    (hspecial : ∀ p ∈ specialUpper, c ∉ p.2) (hmem : c ∈ upperText text) : c ∈ text := by
  obtain ⟨d, hd, hmem⟩ := List.mem_flatMap.mp hmem
  rcases mem_upperChar_cases hmem with rfl | h | ⟨p, hp, h⟩
  · exact hd
  · rw [hupper] at h
    exact nomatch h
  · exact absurd h (hspecial p hp)

/-- The ends of upper case come from the ends of the text. -/
theorem mem_ends_upperText (text : List Char) :
    (∀ c ∈ (upperText text).head?, ∃ d ∈ text.head?, c ∈ upperChar d) ∧
      ∀ c ∈ (upperText text).getLast?, ∃ d ∈ text.getLast?, c ∈ upperChar d := by
  constructor
  · cases text with
    | nil => simp [upperText]
    | cons d text =>
      intro c hc
      obtain ⟨first, rest, hcons⟩ := List.exists_cons_of_ne_nil (upperChar_ne_nil d)
      change c ∈ (upperChar d ++ upperText text).head? at hc
      rw [hcons, List.cons_append] at hc
      cases hc
      exact ⟨d, rfl, hcons ▸ List.mem_cons_self⟩
  · rcases List.eq_nil_or_concat text with rfl | ⟨text, d, rfl⟩
    · simp [upperText]
    · intro c hc
      rw [List.concat_eq_append, upperText_append] at hc
      have hlast : upperText [d] = upperChar d := List.append_nil _
      rw [hlast, List.getLast?_append_of_ne_nil _ (upperChar_ne_nil d)] at hc
      exact ⟨d, by simp, List.mem_of_mem_getLast? hc⟩

/-- Upper case stays as it is in upper case. -/
theorem upperText_upperText (text : List Char) : upperText (upperText text) = upperText text := by
  have hchar (c : Char) : upperText (upperChar c) = upperChar c := by
    rcases upperChar_eq c with h | ⟨p, hp, -, h⟩
    · have hupper := toNat_toUpper c
      rw [h]
      change upperChar c.toUpper ++ [] = _
      rw [List.append_nil]
      split at hupper
      · rw [upperChar_of_lt (by omega), toUpper_toUpper]
      · rw [Char.toNat_inj.mp hupper, h, Char.toNat_inj.mp hupper]
    · have hspecial : ∀ p ∈ specialUpper, upperText p.2 = p.2 := by decide +kernel
      rw [h, hspecial p hp]
  induction text with
  | nil => rfl
  | cons c text ih =>
    change upperText (upperChar c ++ upperText text) = upperChar c ++ upperText text
    rw [upperText_append, hchar, ih]

theorem upperText_of_forall {text : List Char} (htext : ∀ c ∈ text, IsNumberChar c) :
    upperText text = text := by
  induction text with
  | nil => rfl
  | cons d text ih =>
    obtain ⟨hd, htext⟩ := List.forall_mem_cons.mp htext
    change upperChar d ++ upperText text = _
    rw [upperChar_of_isNumberChar hd, ih htext]
    rfl

/-- A text whose upper case has characters of numbers only is in upper case. -/
theorem eq_of_upperText {text upper : List Char} (h : upperText text = upper)
    (hupper : ∀ c ∈ upper, IsNumberChar c) : text = upper := by
  induction text generalizing upper with
  | nil => exact h
  | cons d text ih =>
    change upperChar d ++ upperText text = upper at h
    subst h
    obtain ⟨hd, hrest⟩ := List.forall_mem_append.mp hupper
    obtain ⟨c, rest, hcons⟩ := List.exists_cons_of_ne_nil (upperChar_ne_nil d)
    have hmem : c ∈ upperChar d := hcons ▸ List.mem_cons_self
    obtain ⟨hsingle, rfl⟩ := eq_of_mem_upperChar hmem (hd c hmem)
    rw [hsingle, ← ih rfl hrest]
    rfl

/-- Where upper case is a letter and characters of numbers, the text has one character before the
same. -/
theorem exists_of_upperText_cons {text number : List Char} {b : Char}
    (h : upperText text = b :: number) (hnumber : ∀ c ∈ number, IsNumberChar c) :
    ∃ d, text = d :: number ∧ upperChar d = [b] := by
  cases text with
  | nil => exact nomatch h
  | cons d text =>
    change upperChar d ++ upperText text = b :: number at h
    obtain ⟨c, rest, hcons⟩ := List.exists_cons_of_ne_nil (upperChar_ne_nil d)
    rw [hcons, List.cons_append] at h
    obtain ⟨rfl, rfl⟩ := List.cons.inj h
    obtain ⟨hrest, htext⟩ := List.forall_mem_append.mp hnumber
    cases rest with
    | nil => exact ⟨d, congrArg (d :: ·) (eq_of_upperText rfl htext), hcons⟩
    | cons e rest =>
      have hmem : e ∈ upperChar d := by rw [hcons]; simp
      obtain ⟨hsingle, -⟩ := eq_of_mem_upperChar hmem (hrest e List.mem_cons_self)
      rw [hsingle] at hcons
      exact nomatch (List.cons.inj hcons).2

/-- Where upper case is `AS` and characters of numbers, the text has the same after what has the
upper case `AS`. -/
theorem exists_of_upperText {text number : List Char} (h : upperText text = 'A' :: 'S' :: number)
    (hnumber : ∀ c ∈ number, IsNumberChar c) :
    ∃ start, text = start ++ number ∧ upperText start = ['A', 'S'] := by
  cases text with
  | nil => exact nomatch h
  | cons d text =>
    change upperChar d ++ upperText text = 'A' :: 'S' :: number at h
    have hfirst : upperChar d = ['A'] ∧ upperText text = 'S' :: number := by
      rcases upperChar_eq d with hd | ⟨p, hp, -, hd⟩
      · rw [hd] at h
        obtain ⟨ha, hrest⟩ := List.cons.inj h
        exact ⟨by rw [hd, ha], hrest⟩
      · have hspecial : ∀ p ∈ specialUpper, p.2.take 2 ≠ ['A', 'S'] ∧ p.2 ≠ ['A'] ∧ p.2 ≠ [] := by
          decide
        obtain ⟨htwo, hone, hnone⟩ := hspecial p hp
        rw [hd] at h
        match hupper : p.2 with
        | [] => exact absurd hupper hnone
        | [c] =>
          rw [hupper] at h hone
          exact absurd (congrArg (fun c ↦ [c]) (List.cons.inj h).1) hone
        | c :: c' :: rest =>
          rw [hupper] at h htwo
          obtain ⟨rfl, hrest⟩ := List.cons.inj h
          obtain ⟨rfl, -⟩ := List.cons.inj hrest
          exact absurd rfl htwo
    obtain ⟨e, rfl, he⟩ := exists_of_upperText_cons hfirst.2 hnumber
    refine ⟨[d, e], rfl, ?_⟩
    change upperChar d ++ (upperChar e ++ []) = _
    rw [hfirst.1, he]
    rfl

end Characters

end Irrd.Utils
