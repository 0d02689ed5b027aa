import Irrd.Utils.Validators

/-!
# AS numbers in any text

The parser of AS numbers with its options, against the grammar of AS numbers. It reads what `int`
reads, and takes the start in any case, so that some texts outside the grammar are AS numbers too.
Source: `irrd/utils/validators.py`.
-/

namespace Irrd.Utils

open Irrd.Base

section Grammar

/-- A number of parts of a kind: one, or in asdot format two. -/
def IsNumberOf (isPart : List Char → Int → Prop) (asdot : Bool) (number : List Char) (n : Int) :
    Prop :=
  isPart number n ∨ asdot = true ∧ ∃ high low h l, number = high ++ '.' :: low ∧
    isPart high h ∧ isPart low l ∧ h ≤ 65535 ∧ l ≤ 65535 ∧ n = h * 65536 + l

/-- An AS number with a start and parts of a kind, and a value in range. -/
def IsAsNumberOf (isStart : List Char → Prop) (isPart : List Char → Int → Prop)
    (permitPlain asdot : Bool) (value : List Char) (n : Int) : Prop :=
  ∃ start number, value = start ++ number ∧ (isStart start ∨ permitPlain = true ∧ start = []) ∧
    IsNumberOf isPart asdot number n ∧ 0 ≤ n ∧ n ≤ 4294967295

/-- ASCII digits. -/
def IsDecimal (part : List Char) (n : Int) : Prop :=
  part ≠ [] ∧ (∀ c ∈ part, c.isDigit = true) ∧ n = Nat.ofDigitChars 10 part 0

/-- The grammar of AS numbers: `AS` in any case of ASCII, and ASCII digits. -/
def AsNumber : (permitPlain asdot : Bool) → List Char → Int → Prop :=
  IsAsNumberOf (fun start ↦ start.map Char.toUpper = ['A', 'S']) IsDecimal

/-- What can be read as an AS number: a start with the upper case `AS`, and what `int` reads. -/
def ReadableAsNumber : (permitPlain asdot : Bool) → List Char → Int → Prop :=
  IsAsNumberOf (fun start ↦ upperText start = ['A', 'S']) IsIntLiteral

end Grammar

theorem IsAsNumberOf.exists_nat {isStart : List Char → Prop} {isPart : List Char → Int → Prop}
    {permitPlain asdot : Bool} {value : List Char} {n : Int}
    (h : IsAsNumberOf isStart isPart permitPlain asdot value n) :
    ∃ m : Nat, n = m ∧ m ≤ 4294967295 := by
  obtain ⟨_, _, _, _, _, hlow, hhigh⟩ := h
  exact ⟨n.toNat, by omega, by omega⟩

section Parts

variable {text : List Char} {n : Int}

/-- The sign of what `int` reads. -/
theorem mem_of_mem_sign {sign : List Char} {p q : Prop}
    (h : (sign = [] ∨ sign = ['+']) ∧ p ∨ sign = ['-'] ∧ q) : ∀ c ∈ sign, c = '+' ∨ c = '-' := by
  intro c hc
  rcases h with ⟨rfl | rfl, -⟩ | ⟨rfl, -⟩
  · exact nomatch hc
  · exact .inl (List.mem_singleton.mp hc)
  · exact .inr (List.mem_singleton.mp hc)

/-- A text that `int` reads has characters of numbers only, no dot, and not too many digits. -/
theorem IsIntLiteral.characters (h : IsIntLiteral text n) :
    (∀ c ∈ text, IsNumberChar c ∧ c ≠ '.') ∧ (digitsOf text).length ≤ maxStrDigits := by
  obtain ⟨before, sign, body, digits, after, rfl, hbefore, hafter, hgrouped, hlength, hvalue⟩ := h
  have hunderscore : decimalDigit '_' = none := decimalDigit_eq_none '_' (by decide)
  have hspaces : ∀ c ∈ intSpaces, c ≠ '.' ∧ decimalDigit c = none :=
    List.all_iff_forall_prop.mp (by decide +kernel)
  have hsigns : ∀ c ∈ sign, (c = '+' ∨ c = '-') ∧ decimalDigit c = none := by
    intro c hc
    refine ⟨mem_of_mem_sign hvalue c hc, decimalDigit_eq_none c ?_⟩
    rcases mem_of_mem_sign hvalue c hc with rfl | rfl <;> decide
  constructor
  · have hspace {c : Char} (hc : c ∈ intSpaces) : IsNumberChar c ∧ c ≠ '.' :=
      ⟨.inr (List.mem_append_left _ hc), (hspaces c hc).1⟩
    intro c hc
    simp only [List.mem_append] at hc
    rcases hc with (hc | hc | hc) | hc
    · exact hspace (hbefore c hc)
    · rcases (hsigns c hc).1 with rfl | rfl <;> exact ⟨.inr (by simp), by decide⟩
    · rcases hgrouped.isSome_or_eq_of_mem c hc with hsome | rfl
      · exact ⟨.inl hsome, (notMem_of_isSome hsome).2.2.2.2⟩
      · exact ⟨.inr (by simp), by decide⟩
    · exact hspace (hafter c hc)
  · have hnone {part : List Char} (hpart : ∀ c ∈ part, decimalDigit c = none) :
        digitsOf part = [] := by
      unfold digitsOf
      rw [List.filter_eq_nil_iff]
      intro c hc
      rw [hpart c hc]
      exact Bool.false_ne_true
    have hdigits : digitsOf (before ++ (sign ++ body) ++ after) = digits := by
      have happend (x y : List Char) : digitsOf (x ++ y) = digitsOf x ++ digitsOf y :=
        List.filter_append x y
      rw [happend, happend, happend, hnone (fun c hc ↦ (hspaces c (hbefore c hc)).2),
        hnone (fun c hc ↦ (hspaces c (hafter c hc)).2), hnone (fun c hc ↦ (hsigns c hc).2),
        List.nil_append, List.nil_append, List.append_nil]
      exact hgrouped.filter_eq hunderscore
    rwa [hdigits]

/-- ASCII digits can be read, unless there are too many. -/
theorem IsDecimal.isIntLiteral (h : IsDecimal text n) (hlength : text.length ≤ maxStrDigits) :
    IsIntLiteral text n := by
  obtain ⟨hne, hdigits, rfl⟩ := h
  have hsome : ∀ c ∈ text, (decimalDigit c).isSome := by
    intro c hc
    rw [decimalDigit_of_isDigit (hdigits c hc)]
    rfl
  refine ⟨[], [], text, text, [], by simp, by simp, by simp, .of_forall hne hsome, hlength,
    .inl ⟨.inl rfl, ?_⟩⟩
  rw [digitsNumber_eq_ofDigitChars hdigits]

/-- What can be read is ASCII digits, if it has no other characters than letters and digits of
ASCII. -/
theorem IsIntLiteral.isDecimal (h : IsIntLiteral text n)
    (htext : ∀ c ∈ text, c.isAlphanum = true) : IsDecimal text n := by
  obtain ⟨before, sign, body, digits, after, rfl, hbefore, hafter, hgrouped, -, hvalue⟩ := h
  have hothers : ∀ c ∈ intSpaces ++ ['+', '-', '_', '.'], c.isAlphanum = false :=
    List.all_iff_forall_prop.mp (by decide +kernel)
  have hnil {part : List Char} (hmem : ∀ c ∈ part, c ∈ intSpaces ++ ['+', '-', '_', '.'])
      (hpart : ∀ c ∈ part, c.isAlphanum = true) : part = [] := by
    apply List.eq_nil_iff_forall_not_mem.mpr
    intro c hc
    have hfalse := hothers c (hmem c hc)
    rw [hpart c hc] at hfalse
    exact nomatch hfalse
  have hbefore : before = [] :=
    hnil (fun c hc ↦ List.mem_append_left _ (hbefore c hc)) (fun c hc ↦ htext c (by simp [hc]))
  have hafter : after = [] :=
    hnil (fun c hc ↦ List.mem_append_left _ (hafter c hc)) (fun c hc ↦ htext c (by simp [hc]))
  have hsign : sign = [] := by
    apply hnil _ (fun c hc ↦ htext c (by simp [hc]))
    intro c hc
    rcases mem_of_mem_sign hvalue c hc with rfl | rfl <;> decide
  subst hbefore hafter hsign
  have hbody : ∀ c ∈ body, (decimalDigit c).isSome ∧ c.isDigit = true := by
    intro c hc
    have halnum := htext c (by simp [hc])
    rcases hgrouped.isSome_or_eq_of_mem c hc with hsome | rfl
    · have hascii : c.toNat < 0x660 := by
        have hcases := isAlphanum_iff.mp halnum
        omega
      exact ⟨hsome, isDigit_of_isSome hsome hascii⟩
    · exact nomatch halnum
  have hdigits : digits = body := by
    have hunderscore : decimalDigit '_' = none := decimalDigit_eq_none '_' (by decide)
    rw [← hgrouped.filter_eq hunderscore]
    exact List.filter_eq_self.mpr (fun c hc ↦ (hbody c hc).1)
  subst hdigits
  rcases hvalue with ⟨-, rfl⟩ | ⟨h, -⟩
  · refine ⟨?_, fun c hc ↦ ?_, ?_⟩
    · obtain ⟨c, rest, rfl, -⟩ := hgrouped.exists_eq_cons
      simp
    · simp only [List.nil_append, List.append_nil] at hc
      exact (hbody c hc).2
    · rw [List.nil_append, List.nil_append, List.append_nil,
        digitsNumber_eq_ofDigitChars (fun c hc ↦ (hbody c hc).2)]
  · exact nomatch h

end Parts

section Reading

variable {permitPlain asdotPermitted asdotQueries asdot : Bool} {value number : List Char}
  {n : Int}

theorem splitOn_of_notMem {text : List Char} (htext : '.' ∉ text) : text.splitOn '.' = [text] := by
  have happend := splitOn_append_of_not_mem htext []
  rw [List.append_nil] at happend
  rw [happend]
  simp

theorem splitOn_dot {high low : List Char} (hhigh : '.' ∉ high) (hlow : '.' ∉ low) :
    (high ++ '.' :: low).splitOn '.' = [high, low] := by
  rw [splitOn_append_of_not_mem hhigh, List.splitOn_cons_eq_if_modifyHead, if_pos (by decide),
    splitOn_of_notMem hlow, List.modifyHead_cons, List.append_nil]

/-- Numbers in asdot format are read as two parts. -/
theorem asdotInt_eq_ok_iff : asdotInt number = .ok n ↔ ∃ high low h l, number = high ++ '.' :: low ∧
    IsIntLiteral high h ∧ IsIntLiteral low l ∧ h ≤ 65535 ∧ l ≤ 65535 ∧ n = h * 65536 + l := by
  constructor
  · intro h
    unfold asdotInt at h
    split at h
    · next highStr lowStr hsplit =>
      have hnumber : number = highStr ++ '.' :: lowStr := by
        have hjoin : ['.'].intercalate (number.splitOn '.') = number :=
          List.intercalate_splitOn '.'
        rw [hsplit] at hjoin
        simpa [List.intercalate] using hjoin.symm
      split at h
      · exact nomatch h
      · next high hhigh =>
        split at h
        · exact nomatch h
        · next low hlow =>
          split at h
          · exact nomatch h
          · split at h
            · exact nomatch h
            · cases h
              exact ⟨highStr, lowStr, high, low, hnumber, int_eq_some_iff.mp hhigh,
                int_eq_some_iff.mp hlow, by omega, by omega, rfl⟩
    · exact nomatch h
  · rintro ⟨high, low, h, l, rfl, hhigh, hlow, hh, hl, rfl⟩
    have hsplit := splitOn_dot (fun hdot ↦ (hhigh.characters.1 _ hdot).2 rfl)
      (fun hdot ↦ (hlow.characters.1 _ hdot).2 rfl)
    unfold asdotInt
    rw [hsplit]
    simp only [int_eq_some_iff.mpr hhigh, int_eq_some_iff.mpr hlow]
    rw [if_neg (by omega), if_neg (by omega)]

theorem numberInt_eq_ok_iff :
    numberInt asdot number = .ok n ↔ IsNumberOf IsIntLiteral asdot number n := by
  unfold numberInt IsNumberOf
  by_cases hdot : (asdot && '.' ∈ number) = true
  · rw [if_pos hdot, asdotInt_eq_ok_iff]
    obtain ⟨hasdot, hmem⟩ := (Bool.and_eq_true _ _).mp hdot
    constructor
    · exact fun h ↦ .inr ⟨hasdot, h⟩
    · rintro (h | ⟨-, h⟩)
      · exact absurd rfl (h.characters.1 '.' (of_decide_eq_true hmem)).2
      · exact h
  · rw [if_neg hdot, ← int_eq_some_iff]
    constructor
    · intro h
      split at h
      · next m hm =>
        cases h
        exact .inl hm
      · exact nomatch h
    · rintro (h | ⟨rfl, high, low, _, _, rfl, -⟩)
      · rw [h]
      · exact absurd (by simp) hdot

/-- A number that is read has characters of numbers only. -/
theorem isNumberChar_of_isNumberOf (h : IsNumberOf IsIntLiteral asdot number n) :
    ∀ c ∈ number, IsNumberChar c := by
  rcases h with h | ⟨-, high, low, _, _, rfl, hhigh, hlow, -⟩
  · exact fun c hc ↦ (h.characters.1 c hc).1
  · intro c hc
    rcases List.mem_append.mp hc with hc | hc
    · exact (hhigh.characters.1 c hc).1
    · rcases List.mem_cons.mp hc with rfl | hc
      · exact .inr (by simp)
      · exact (hlow.characters.1 c hc).1

/-- A number that is read, with its value in range. -/
theorem bind_numberInt_eq_ok_iff {value : List Char} {r : List Char × Nat} :
    ((numberInt asdot number).mapError (invalidAsNumber value) >>= fun x ↦
        if 0 ≤ x ∧ x ≤ 4294967295 then return (asNumberText x.toNat, x.toNat)
        else .error (invalidAsNumber value "valid range is 0-4294967295")) = .ok r ↔
      ∃ n : Nat, (IsNumberOf IsIntLiteral asdot number n ∧ (0 : Int) ≤ n ∧ (n : Int) ≤ 4294967295) ∧
        r = (asNumberText n, n) := by
  rw [bind_eq_ok_iff]
  simp only [mapError_eq_ok_iff]
  constructor
  · rintro ⟨x, hx, h⟩
    split at h
    · next hrange =>
      cases h
      have hcast : (x.toNat : Int) = x := by omega
      exact ⟨x.toNat, ⟨by rw [hcast]; exact numberInt_eq_ok_iff.mp hx, by omega, by omega⟩, rfl⟩
    · exact nomatch h
  · rintro ⟨n, ⟨hnumber, hrange⟩, rfl⟩
    exact ⟨n, numberInt_eq_ok_iff.mpr hnumber, by rw [if_pos hrange]; rfl⟩

/-- The parser reads exactly what can be read as an AS number. -/
theorem parseAsNumberText_eq_ok_iff {r : List Char × Nat} :
    parseAsNumberText permitPlain asdotPermitted asdotQueries value = .ok r ↔
      ∃ n : Nat, ReadableAsNumber permitPlain (asdotPermitted && asdotQueries) value n ∧
        r = (asNumberText n, n) := by
  unfold parseAsNumberText
  by_cases hstart : (upperText value).take 2 = ['A', 'S']
  · simp only [hstart, decide_true, Bool.not_true, Bool.and_false, Bool.false_eq_true, if_false,
      if_true]
    refine Iff.trans bind_numberInt_eq_ok_iff (exists_congr fun n ↦ and_congr_left fun _ ↦ ?_)
    have hupper : upperText value = 'A' :: 'S' :: (upperText value).drop 2 := by
      conv_lhs => rw [← List.take_append_drop 2 (upperText value), hstart]
      rfl
    constructor
    · rintro ⟨hnumber, hrange⟩
      obtain ⟨start, hvalue, hupperStart⟩ :=
        exists_of_upperText hupper (isNumberChar_of_isNumberOf hnumber)
      exact ⟨start, _, hvalue, .inl hupperStart, hnumber, hrange⟩
    · rintro ⟨start, number, rfl, hupperStart, hnumber, hrange⟩
      have hchars := isNumberChar_of_isNumberOf hnumber
      rw [upperText_append, upperText_of_forall hchars] at hupper ⊢
      rcases hupperStart with hupperStart | ⟨-, rfl⟩
      · rw [hupperStart]
        exact ⟨hnumber, hrange⟩
      · change number = _ at hupper
        have hletter : IsNumberChar 'A' := hchars 'A' (by rw [hupper]; exact List.mem_cons_self)
        exact absurd hletter (by decide +kernel)
  · have hnone : ∀ n, ReadableAsNumber false (asdotPermitted && asdotQueries) value n → False := by
      rintro n ⟨start, number, rfl, hupperStart | ⟨h, -⟩, -⟩
      · rw [upperText_append, hupperStart] at hstart
        exact hstart rfl
      · exact nomatch h
    simp only [hstart, decide_false, Bool.not_false, Bool.and_true, if_false]
    cases permitPlain with
    | false =>
      constructor
      · exact fun h ↦ nomatch h
      · rintro ⟨n, hreadable, -⟩
        exact (hnone n hreadable).elim
    | true =>
      refine Iff.trans bind_numberInt_eq_ok_iff (exists_congr fun n ↦ and_congr_left fun _ ↦ ?_)
      constructor
      · rintro ⟨hnumber, hrange⟩
        have hvalue := eq_of_upperText rfl (isNumberChar_of_isNumberOf hnumber)
        rw [← hvalue] at hnumber
        exact ⟨[], value, rfl, .inr ⟨rfl, rfl⟩, hnumber, hrange⟩
      · rintro ⟨start, number, rfl, hupperStart | ⟨-, rfl⟩, hnumber, hrange⟩
        · rw [upperText_append, hupperStart] at hstart
          exact absurd rfl hstart
        · rw [List.nil_append, upperText_of_forall (isNumberChar_of_isNumberOf hnumber)]
          exact ⟨hnumber, hrange⟩

end Reading

section Spelling

variable {permitPlain asdot : Bool} {value : List Char} {n : Int}

/-- A text with ASCII letters and digits and dots only, where it can be read as an AS number, and
with not too many digits in a part, where it is one. -/
structure SpelledPlainly (permitPlain asdot : Bool) (value : List Char) : Prop where
  characters : (∃ n, ReadableAsNumber permitPlain asdot value n) →
    ∀ c ∈ value, c.isAlphanum = true ∨ c = '.'
  digits : (∃ n, AsNumber permitPlain asdot value n) →
    ∀ part ∈ value.splitOn '.', (digitsOf part).length ≤ maxStrDigits

/-- A text is parsed as its AS number if it has the grammar of one, and not otherwise; what is
returned is parsed as itself. -/
def FollowsGrammar (permitPlain asdotPermitted asdotQueries : Bool) (value : List Char) : Prop :=
  (∀ r, parseAsNumberText permitPlain asdotPermitted asdotQueries value = .ok r ↔
    ∃ n : Nat, AsNumber permitPlain (asdotPermitted && asdotQueries) value n ∧
      r = (asNumberText n, n)) ∧
  ∀ r, parseAsNumberText permitPlain asdotPermitted asdotQueries value = .ok r →
    parseAsNumberText permitPlain asdotPermitted asdotQueries r.1 = .ok r

section Starts

variable {start number : List Char}

theorem upperText_of_isAlphanum {text : List Char} (htext : ∀ c ∈ text, c.isAlphanum = true) :
    upperText text = text.map Char.toUpper := by
  apply upperText_of_lt
  intro c hc
  have hrange := isAlphanum_iff.mp (htext c hc)
  omega

/-- A start in ASCII has letters. -/
theorem isAlphanum_of_mem_start (h : start.map Char.toUpper = ['A', 'S']) :
    ∀ c ∈ start, c.isAlphanum = true := by
  intro c hc
  have hmem : c.toUpper ∈ ['A', 'S'] := h ▸ List.mem_map_of_mem hc
  have hupper := toNat_toUpper c
  have hnat : c.toUpper.toNat = 65 ∨ c.toUpper.toNat = 83 := by
    rcases List.mem_cons.mp hmem with hletter | hletter
    · exact .inl (by rw [hletter]; rfl)
    · exact .inr (by rw [List.mem_singleton.mp hletter]; rfl)
  apply isAlphanum_iff.mpr
  split at hupper <;> omega

/-- A start has no characters of numbers. -/
theorem not_isNumberChar_of_mem_start (h : upperText start = ['A', 'S']) :
    ∀ c ∈ start, ¬ IsNumberChar c := by
  intro c hc hnumber
  have hmem : c ∈ upperText start :=
    List.mem_flatMap.mpr ⟨c, hc, by rw [upperChar_of_isNumberChar hnumber]; simp⟩
  rw [h] at hmem
  rcases List.mem_cons.mp hmem with rfl | hmem
  · exact absurd hnumber (by decide +kernel)
  · rw [List.mem_singleton.mp hmem] at hnumber
    exact absurd hnumber (by decide +kernel)

/-- The digits in the parts of a text are those after its start. -/
theorem forall_digits_append (h : ∀ c ∈ start, ¬ IsNumberChar c) :
    (∀ part ∈ (start ++ number).splitOn '.', (digitsOf part).length ≤ maxStrDigits) ↔
      ∀ part ∈ number.splitOn '.', (digitsOf part).length ≤ maxStrDigits := by
  have hdot : '.' ∉ start := fun hmem ↦ h '.' hmem (.inr (by simp))
  have hnone : digitsOf start = [] := by
    unfold digitsOf
    rw [List.filter_eq_nil_iff]
    exact fun c hc hsome ↦ h c hc (.inl hsome)
  rw [splitOn_append_of_not_mem hdot]
  cases number.splitOn '.' with
  | nil => rfl
  | cons part parts =>
    have hdigits : digitsOf (start ++ part) = digitsOf part := by
      have happend : digitsOf (start ++ part) = digitsOf start ++ digitsOf part :=
        List.filter_append start part
      rw [happend, hnone, List.nil_append]
    rw [List.modifyHead_cons, List.forall_mem_cons, List.forall_mem_cons, hdigits]

end Starts

section Grammars

/-- An AS number has ASCII letters and digits and dots only. -/
theorem AsNumber.characters (h : AsNumber permitPlain asdot value n) :
    ∀ c ∈ value, c.isAlphanum = true ∨ c = '.' := by
  obtain ⟨start, number, rfl, hstart, hnumber, -⟩ := h
  have hdigit {part : List Char} {m : Int} (hpart : IsDecimal part m) {c : Char} (hc : c ∈ part) :
      c.isAlphanum = true := by
    have hdigit := isDigit_iff.mp (hpart.2.1 c hc)
    exact isAlphanum_iff.mpr (by omega)
  intro c hc
  rcases List.mem_append.mp hc with hc | hc
  · rcases hstart with hstart | ⟨-, rfl⟩
    · exact .inl (isAlphanum_of_mem_start hstart c hc)
    · exact nomatch hc
  · rcases hnumber with hnumber | ⟨-, high, low, _, _, rfl, hhigh, hlow, -⟩
    · exact .inl (hdigit hnumber hc)
    · rcases List.mem_append.mp hc with hc | hc
      · exact .inl (hdigit hhigh hc)
      · rcases List.mem_cons.mp hc with rfl | hc
        · exact .inr rfl
        · exact .inl (hdigit hlow hc)

/-- What can be read as an AS number has not too many digits in a part. -/
theorem ReadableAsNumber.digits (h : ReadableAsNumber permitPlain asdot value n) :
    ∀ part ∈ value.splitOn '.', (digitsOf part).length ≤ maxStrDigits := by
  obtain ⟨start, number, rfl, hstart, hnumber, -⟩ := h
  have hchars : ∀ c ∈ start, ¬ IsNumberChar c := by
    rcases hstart with hstart | ⟨-, rfl⟩
    · exact not_isNumberChar_of_mem_start hstart
    · exact fun c hc ↦ nomatch hc
  have hdot {part : List Char} {m : Int} (hpart : IsIntLiteral part m) : '.' ∉ part :=
    fun hmem ↦ (hpart.characters.1 '.' hmem).2 rfl
  rw [forall_digits_append hchars]
  rcases hnumber with hnumber | ⟨-, high, low, _, _, rfl, hhigh, hlow, -⟩
  · rw [splitOn_of_notMem (hdot hnumber)]
    exact List.forall_mem_singleton.mpr hnumber.characters.2
  · rw [splitOn_dot (hdot hhigh) (hdot hlow)]
    exact List.forall_mem_cons.mpr
      ⟨hhigh.characters.2, List.forall_mem_singleton.mpr hlow.characters.2⟩

/-- What can be read as an AS number is one, if it has ASCII letters and digits and dots only. -/
theorem ReadableAsNumber.asNumber (h : ReadableAsNumber permitPlain asdot value n)
    (hvalue : ∀ c ∈ value, c.isAlphanum = true ∨ c = '.') :
    AsNumber permitPlain asdot value n := by
  obtain ⟨start, number, rfl, hstart, hnumber, hrange⟩ := h
  obtain ⟨hstartChars, hnumberChars⟩ := List.forall_mem_append.mp hvalue
  have hpart {part : List Char} {m : Int} (hpart : IsIntLiteral part m)
      (hmem : ∀ c ∈ part, c.isAlphanum = true ∨ c = '.') : IsDecimal part m :=
    hpart.isDecimal (fun c hc ↦ (hmem c hc).resolve_right (hpart.characters.1 c hc).2)
  refine ⟨start, number, rfl, ?_, ?_, hrange⟩
  · rcases hstart with hstart | hplain
    · have hnot := not_isNumberChar_of_mem_start hstart
      have halnum : ∀ c ∈ start, c.isAlphanum = true := by
        intro c hc
        apply (hstartChars c hc).resolve_right
        rintro rfl
        exact hnot '.' hc (.inr (by simp))
      rw [upperText_of_isAlphanum halnum] at hstart
      exact .inl hstart
    · exact .inr hplain
  · rcases hnumber with hnumber | ⟨hasdot, high, low, h, l, rfl, hhigh, hlow, hvalues⟩
    · exact .inl (hpart hnumber hnumberChars)
    · obtain ⟨hhighChars, hlowChars⟩ := List.forall_mem_append.mp hnumberChars
      exact .inr ⟨hasdot, high, low, h, l, rfl, hpart hhigh hhighChars,
        hpart hlow (List.forall_mem_cons.mp hlowChars).2, hvalues⟩

/-- An AS number can be read as one, unless a part has too many digits. -/
theorem AsNumber.readable (h : AsNumber permitPlain asdot value n)
    (hdigits : ∀ part ∈ value.splitOn '.', (digitsOf part).length ≤ maxStrDigits) :
    ReadableAsNumber permitPlain asdot value n := by
  obtain ⟨start, number, rfl, hstart, hnumber, hrange⟩ := h
  have hupper : upperText start = ['A', 'S'] ∨ permitPlain = true ∧ start = [] := by
    rcases hstart with hstart | hplain
    · rw [upperText_of_isAlphanum (isAlphanum_of_mem_start hstart)]
      exact .inl hstart
    · exact .inr hplain
  have hchars : ∀ c ∈ start, ¬ IsNumberChar c := by
    rcases hupper with hupper | ⟨-, rfl⟩
    · exact not_isNumberChar_of_mem_start hupper
    · exact fun c hc ↦ nomatch hc
  rw [forall_digits_append hchars] at hdigits
  have hdot {part : List Char} {m : Int} (hpart : IsDecimal part m) : '.' ∉ part :=
    fun hmem ↦ absurd (hpart.2.1 '.' hmem) (by decide)
  have hpart {part : List Char} {m : Int} (hpart : IsDecimal part m)
      (hlength : (digitsOf part).length ≤ maxStrDigits) : IsIntLiteral part m := by
    have hall : digitsOf part = part := by
      apply List.filter_eq_self.mpr
      intro c hc
      rw [decimalDigit_of_isDigit (hpart.2.1 c hc)]
      rfl
    exact hpart.isIntLiteral (by rwa [hall] at hlength)
  refine ⟨start, number, rfl, hupper, ?_, hrange⟩
  rcases hnumber with hnumber | ⟨hasdot, high, low, h, l, rfl, hhigh, hlow, hvalues⟩
  · rw [splitOn_of_notMem (hdot hnumber)] at hdigits
    exact .inl (hpart hnumber (hdigits number List.mem_cons_self))
  · rw [splitOn_dot (hdot hhigh) (hdot hlow)] at hdigits
    obtain ⟨hhighDigits, hlowDigits⟩ := List.forall_mem_cons.mp hdigits
    exact .inr ⟨hasdot, high, low, h, l, rfl, hpart hhigh hhighDigits,
      hpart hlow (hlowDigits low List.mem_cons_self), hvalues⟩

/-- The text of an AS number can be read as it. -/
theorem readable_asNumberText {n : Nat} (hn : n ≤ 4294967295) :
    ReadableAsNumber permitPlain asdot (asNumberText n) n := by
  have hdecimal : IsDecimal (toString n).toList n := by
    refine ⟨toString_ne_nil n, fun c hc ↦ isDigit_of_mem_toString hc, ?_⟩
    rw [toList_toString, Nat.ofDigitChars_ten_toDigits]
  have hlength : (toString n).toList.length ≤ maxStrDigits := by
    have hten : (Nat.toDigits 10 n).length ≤ 10 :=
      (Nat.length_toDigits_le_iff (by decide) (by decide)).mpr (by omega)
    rw [toList_toString]
    exact hten.trans (by decide)
  refine ⟨['A', 'S'], (toString n).toList, String.toList_append, .inl (by decide),
    .inl (hdecimal.isIntLiteral hlength), by omega, by omega⟩

end Grammars

variable {asdotPermitted asdotQueries : Bool}

/-- What is parsed is returned in a form that is parsed as itself. -/
theorem parseAsNumberText_idempotent {r : List Char × Nat}
    (h : parseAsNumberText permitPlain asdotPermitted asdotQueries value = .ok r) :
    parseAsNumberText permitPlain asdotPermitted asdotQueries r.1 = .ok r := by
  obtain ⟨n, hreadable, rfl⟩ := parseAsNumberText_eq_ok_iff.mp h
  obtain ⟨m, hm, hrange⟩ := hreadable.exists_nat
  exact parseAsNumberText_eq_ok_iff.mpr ⟨n, readable_asNumberText (by omega), rfl⟩

/-- The parser accepts the grammar of AS numbers exactly if the text is spelled plainly. -/
theorem followsGrammar_iff (permitPlain asdotPermitted asdotQueries : Bool) (value : List Char) :
    FollowsGrammar permitPlain asdotPermitted asdotQueries value ↔
      SpelledPlainly permitPlain (asdotPermitted && asdotQueries) value := by
  have hparse {n : Nat}
      (hn : ReadableAsNumber permitPlain (asdotPermitted && asdotQueries) value n) :
      parseAsNumberText permitPlain asdotPermitted asdotQueries value = .ok (asNumberText n, n) :=
    parseAsNumberText_eq_ok_iff.mpr ⟨n, hn, rfl⟩
  constructor
  · rintro ⟨hgrammar, -⟩
    constructor
    · rintro ⟨n, hreadable⟩
      obtain ⟨m, rfl, -⟩ := hreadable.exists_nat
      obtain ⟨k, hk, -⟩ := (hgrammar _).mp (hparse hreadable)
      exact hk.characters
    · rintro ⟨n, hnumber⟩
      obtain ⟨m, rfl, -⟩ := hnumber.exists_nat
      obtain ⟨k, hk, -⟩ := parseAsNumberText_eq_ok_iff.mp ((hgrammar _).mpr ⟨m, hnumber, rfl⟩)
      exact hk.digits
  · rintro ⟨hcharacters, hdigits⟩
    refine ⟨fun r ↦ ?_, fun r ↦ parseAsNumberText_idempotent⟩
    rw [parseAsNumberText_eq_ok_iff]
    refine exists_congr fun n ↦ and_congr_left fun _ ↦ ?_
    exact ⟨fun h ↦ h.asNumber (hcharacters ⟨n, h⟩), fun h ↦ h.readable (hdigits ⟨n, h⟩)⟩

/-- An AS number with an underscore is accepted. -/
theorem not_followsGrammar : ¬ FollowsGrammar false false false "AS1_0".toList := by
  rintro ⟨hgrammar, -⟩
  obtain ⟨n, hn, -⟩ := (hgrammar (asNumberText 10, 10)).mp (by rfl)
  exact absurd (hn.characters '_' (by simp)) (by decide)

end Spelling

end Irrd.Utils
