import Irrd.Base.Fallible
import Irrd.Rpsl.Fields
import Irrd.Utils.AsNumbers
import Mathlib.Data.List.Forall2

/-!
# Set names in any text

The parser of set names for text with any characters, against the grammar of set names. Names are
compared in upper case and by a pattern without regard to case, and AS numbers are what `int` reads,
so that some texts outside the grammar are set names too. Source: `irrd/rpsl/fields.py`.
-/

namespace Irrd.Rpsl

open Irrd.Base Irrd.Utils

/-- A kind of set. -/
inductive SetPrefix
  | asSet
  | routeSet
  | filterSet
  | rtrSet
  | peeringSet
  deriving DecidableEq

/-- What the names of sets of a kind start with. -/
def SetPrefix.text : SetPrefix → String
  | asSet => "AS-"
  | routeSet => "RS-"
  | filterSet => "FLTR-"
  | rtrSet => "RTRS-"
  | peeringSet => "PRNG-"

/-- The set name that strict parsing returns. -/
def strictSetName (setPrefix : SetPrefix) (value : List Char) : Option (List Char) :=
  (parseSetName [setPrefix.text] value true).1.map RPSLFieldParseResult.value

section Grammar

variable (setPrefix : SetPrefix) (component value : List Char)

/-- Whether a text in upper case starts with that of a kind of set. -/
def SetPrefix.Starts (upper : List Char) : Prop := setPrefix.text.toList <+: upper

/-- The AS number of a component, in the grammar of AS numbers. -/
def IsNumberComponent : Prop := ∃ n, AsNumber false false component n

/-- A component that can be read as an AS number. -/
def ReadsAsNumber : Prop := ∃ n, ReadableAsNumber false false component n

/-- A component that is a name with the start of its kind, of ASCII letters, digits, `_` and `-`,
ending in a letter or digit, and no reserved word. -/
structure IsNameComponent : Prop where
  characters : ∀ c ∈ component, c.isAlphanum = true ∨ c = '_' ∨ c = '-'
  start : setPrefix.Starts (upcase component)
  last : ∃ c ∈ component.getLast?, c.isAlphanum = true
  notReserved : isWord reservedWords (upcase component) = false

/-- The grammar of set names. -/
structure IsSetName : Prop where
  length : (value.splitOn ':').length ≤ 5
  components : ∀ c ∈ value.splitOn ':', IsNumberComponent c ∨ IsNameComponent setPrefix c
  name : ∃ c ∈ value.splitOn ':', IsNameComponent setPrefix c

/-- A component that is a name in any characters that the pattern matches in upper case. -/
structure ReadsAsName : Prop where
  pattern : reGenericName (upperText component) = true
  start : setPrefix.Starts (upperText component)
  notReserved : isWord reservedWords (upperText component) = false

/-- What can be read as a set name. -/
structure ReadsAsSetName : Prop where
  length : (value.splitOn ':').length ≤ 5
  components : ∀ c ∈ value.splitOn ':', ReadsAsNumber c ∨ ReadsAsName setPrefix c
  name : ∃ c ∈ value.splitOn ':', setPrefix.Starts (upperText c)

/-- Set names that are the same up to the case of ASCII letters and the digits of AS numbers. -/
def SameSetName (value value' : List Char) : Prop :=
  List.Forall₂ (fun c c' ↦ upcase c = upcase c' ∨
    ∃ n, AsNumber false false c n ∧ AsNumber false false c' n) (value.splitOn ':')
      (value'.splitOn ':')

/-- A text is accepted if it is a set name, and not otherwise; what is returned is returned again,
and for the same set name the same is returned up to case. -/
structure FollowsSetGrammar : Prop where
  accepted : (∃ r, strictSetName setPrefix value = some r) ↔ IsSetName setPrefix value
  again : ∀ r, strictSetName setPrefix value = some r → strictSetName setPrefix r = some r
  same : ∀ value' r r', SameSetName value value' → strictSetName setPrefix value = some r →
    strictSetName setPrefix value' = some r' → upcase r = upcase r'

/-- Where a text can be read as a set name, its components have ASCII letters, digits, `_` and `-`
only, and are AS numbers or start as a name does if they can be read as AS numbers. Where it is a
set name, no AS number has too many digits, and a name is not read as an AS number. -/
structure SetNameSpelledPlainly : Prop where
  characters : ReadsAsSetName setPrefix value → ∀ component ∈ value.splitOn ':',
    (∀ c ∈ component, c.isAlphanum = true ∨ c = '_' ∨ c = '-') ∧
      (ReadsAsNumber component →
        IsNumberComponent component ∨ setPrefix.Starts (upcase component))
  digits : IsSetName setPrefix value → ∀ component ∈ value.splitOn ':',
    IsNumberComponent component → (digitsOf component).length ≤ maxStrDigits
  name : IsSetName setPrefix value → ∃ component ∈ value.splitOn ':',
    setPrefix.Starts (upcase component) ∧ ¬ ReadsAsNumber component

end Grammar

section Numbers

variable {setPrefix : SetPrefix} {component : List Char} {n : Int}

theorem parsedAsNumber_eq_some_iff {text : List Char} : parsedAsNumber component = some text ↔
    ∃ n : Nat, ReadableAsNumber false false component n ∧ text = asNumberText n := by
  unfold parsedAsNumber asNumber
  constructor
  · intro h
    cases hparse : parseAsNumberText false false false component with
    | error e =>
      rw [hparse] at h
      exact nomatch h
    | ok r =>
      obtain ⟨n, hn, rfl⟩ := parseAsNumberText_eq_ok_iff.mp hparse
      rw [hparse] at h
      cases h
      exact ⟨n, hn, rfl⟩
  · rintro ⟨n, hn, rfl⟩
    rw [parseAsNumberText_eq_ok_iff.mpr ⟨n, hn, rfl⟩]
    rfl

theorem isNone_parsedAsNumber_iff :
    (parsedAsNumber component).isNone = true ↔ ¬ ReadsAsNumber component := by
  rw [Option.isNone_iff_eq_none, Option.eq_none_iff_forall_ne_some]
  constructor
  · rintro hnone ⟨n, hn⟩
    obtain ⟨m, rfl, -⟩ := hn.exists_nat
    exact hnone _ (parsedAsNumber_eq_some_iff.mpr ⟨m, hn, rfl⟩)
  · intro hnot text htext
    obtain ⟨n, hn, -⟩ := parsedAsNumber_eq_some_iff.mp htext
    exact hnot ⟨n, hn⟩

/-- What comes before and after the end of the start of an AS number. -/
theorem IsNumberComponent.exists_eq (h : IsNumberComponent component) :
    ∃ start number, component = start ++ number ∧ upcase start = ['A', 'S'] ∧ number ≠ [] ∧
      ∀ c ∈ number, c.isDigit = true := by
  obtain ⟨n, start, number, rfl, hstart | ⟨hplain, -⟩, hnumber | ⟨hasdot, -⟩, -⟩ := h
  · exact ⟨start, number, rfl, hstart, hnumber.1, hnumber.2.1⟩
  · exact nomatch hasdot
  · exact nomatch hplain
  · exact nomatch hplain

/-- The characters of AS numbers are in upper case as those of ASCII. -/
theorem IsNumberComponent.isAlphanum (h : IsNumberComponent component) :
    ∀ c ∈ component, c.isAlphanum = true := by
  obtain ⟨start, number, rfl, hstart, -, hdigits⟩ := h.exists_eq
  intro c hc
  rcases List.mem_append.mp hc with hc | hc
  · exact isAlphanum_of_mem_start hstart c hc
  · have hdigit := isDigit_iff.mp (hdigits c hc)
    exact isAlphanum_iff.mpr (by omega)

/-- An AS number does not start as a name does. -/
theorem IsNumberComponent.not_starts (h : IsNumberComponent component) :
    ¬ setPrefix.Starts (upcase component) := by
  obtain ⟨start, number, rfl, hstart, hne, hdigits⟩ := h.exists_eq
  obtain ⟨d, number, rfl⟩ := List.exists_cons_of_ne_nil hne
  have hd := isDigit_iff.mp (hdigits d List.mem_cons_self)
  have hupper : d.toUpper = d := by
    have hnat := toNat_toUpper d
    rw [if_neg (by omega)] at hnat
    exact Char.toNat_inj.mp hnat
  have hcomponent : upcase (start ++ d :: number) = 'A' :: 'S' :: d :: upcase number := by
    unfold upcase at hstart ⊢
    rw [List.map_append, hstart, List.map_cons, hupper]
    rfl
  have hhyphen : d ≠ '-' := by
    rintro rfl
    exact absurd hd (by decide)
  unfold SetPrefix.Starts
  rw [hcomponent]
  cases setPrefix <;> simp [SetPrefix.text, Ne.symm hhyphen]

theorem IsNumberComponent.dot_notMem (h : IsNumberComponent component) : '.' ∉ component :=
  fun hmem ↦ absurd (h.isAlphanum '.' hmem) (by decide)

/-- An AS number is read as one unless it has too many digits. -/
theorem IsNumberComponent.reads_iff (h : IsNumberComponent component) :
    ReadsAsNumber component ↔ (digitsOf component).length ≤ maxStrDigits := by
  have hsplit := splitOn_of_notMem h.dot_notMem
  constructor
  · rintro ⟨n, hn⟩
    exact hn.digits component (by rw [hsplit]; exact List.mem_cons_self)
  · intro hlength
    obtain ⟨n, hn⟩ := h
    refine ⟨n, hn.readable ?_⟩
    rw [hsplit]
    exact fun part hpart ↦ List.mem_singleton.mp hpart ▸ hlength

/-- What is read as an AS number is no reserved word. -/
theorem isWord_of_readsAsNumber (h : ReadsAsNumber component) :
    isWord reservedWords (upperText component) = false := by
  obtain ⟨n, start, number, rfl, hstart | ⟨hplain, -⟩, hnumber, -⟩ := h
  · have hchars := isNumberChar_of_isNumberOf hnumber
    have hwords : ∀ w ∈ reservedWords, w.toList.take 2 = ['A', 'S'] →
        (w.toList.drop 2).any (fun c ↦ ¬ IsNumberChar c) = true := by
      decide +kernel
    rw [upperText_append, hstart, upperText_of_forall hchars, Bool.eq_false_iff]
    intro hword
    obtain ⟨w, hw, heq⟩ := List.any_eq_true.mp hword
    have heq : w.toList = ['A', 'S'] ++ number := of_decide_eq_true heq
    obtain ⟨c, hc, hnot⟩ := List.any_iff_exists_prop.mp (hwords w hw (by rw [heq]; rfl))
    rw [heq] at hc
    exact hnot (hchars c hc)
  · exact nomatch hplain

end Numbers

section Names

variable {setPrefix : SetPrefix} {component : List Char}

/-- A character of names in ASCII. -/
def IsNameChar (c : Char) : Prop := c.isAlphanum = true ∨ c = '_' ∨ c = '-'

theorem upperText_of_isNameChar (h : ∀ c ∈ component, IsNameChar c) :
    upperText component = upcase component :=
  upperText_of_lt (fun c hc ↦ by
    rcases h c hc with halnum | rfl | rfl
    · have hcases := isAlphanum_iff.mp halnum
      omega
    · decide
    · decide)

theorem starts_head (h : setPrefix.Starts component) :
    2 ≤ component.length ∧ component.head?.any isNameLetter = true := by
  obtain ⟨rest, rfl⟩ := h
  cases setPrefix <;> exact ⟨by simp [SetPrefix.text], rfl⟩

theorem isAlphanum_toUpper {c : Char} (hc : c.isAlphanum = true) : c.toUpper.isAlphanum = true := by
  have hcases := isAlphanum_iff.mp hc
  have hupper := toNat_toUpper c
  apply isAlphanum_iff.mpr
  split at hupper <;> omega

/-- The pattern for text in upper case that has no newline at its end. -/
theorem reGenericName_iff {name : List Char} (hname : ∀ c ∈ name, IsNameChar c)
    (hstart : setPrefix.Starts name) :
    reGenericName name = true ↔ ∃ c ∈ name.getLast?, c.isAlphanum = true := by
  have hnewline : name.getLast? ≠ some '\n' := by
    intro hlast
    have hchar := hname '\n' (List.mem_of_mem_getLast? hlast)
    rcases hchar with h | h | h <;> exact absurd h (by decide)
  have hall : name.all (fun c ↦ isNameLetterOrDigit c || c ∈ ['_', '-']) = true := by
    rw [List.all_eq_true]
    intro c hc
    rcases hname c hc with halnum | rfl | rfl
    · rw [Char.isAlphanum, Bool.or_eq_true] at halnum
      rcases halnum with halpha | hdigit
      · simp [isNameLetterOrDigit, isNameLetter, halpha]
      · simp [isNameLetterOrDigit, hdigit]
    · decide
    · decide
  obtain ⟨hlength, hhead⟩ := starts_head hstart
  have hlast (c : Char) (hc : IsNameChar c) :
      isNameLetterOrDigit c = c.isAlphanum := by
    rcases hc with halnum | rfl | rfl
    · rw [halnum]
      rw [Char.isAlphanum, Bool.or_eq_true] at halnum
      rcases halnum with halpha | hdigit
      · simp [isNameLetterOrDigit, isNameLetter, halpha]
      · simp [isNameLetterOrDigit, hdigit]
    · decide
    · decide
  unfold reGenericName
  simp only [if_neg hnewline, hhead, hall, hlength, decide_true, Bool.true_and, Bool.and_true]
  cases hcases : name.getLast? with
  | none => simp
  | some c =>
    have hc := hname c (List.mem_of_mem_getLast? hcases)
    simp [hlast c hc]

theorem isNameChar_of_mem_upcase (h : ∀ c ∈ component, IsNameChar c) :
    ∀ c ∈ upcase component, IsNameChar c := by
  intro c hc
  obtain ⟨d, hd, rfl⟩ := List.mem_map.mp hc
  rcases h d hd with halnum | rfl | rfl
  · exact .inl (isAlphanum_toUpper halnum)
  · exact .inr (.inl rfl)
  · exact .inr (.inr rfl)

/-- Upper case ends in a letter or digit exactly if the text does. -/
theorem getLast?_upcase_iff (h : ∀ c ∈ component, IsNameChar c) :
    (∃ c ∈ (upcase component).getLast?, c.isAlphanum = true) ↔
      ∃ c ∈ component.getLast?, c.isAlphanum = true := by
  unfold upcase
  rw [List.getLast?_map]
  cases hlast : component.getLast? with
  | none => simp
  | some c =>
    have hiff : c.toUpper.isAlphanum = true ↔ c.isAlphanum = true := by
      rcases h c (List.mem_of_mem_getLast? hlast) with halnum | rfl | rfl
      · exact ⟨fun _ ↦ halnum, isAlphanum_toUpper⟩
      · decide
      · decide
    simpa using hiff

/-- A name of ASCII characters is read as one. -/
theorem IsNameComponent.reads (h : IsNameComponent setPrefix component) :
    ReadsAsName setPrefix component := by
  have hupper := upperText_of_isNameChar h.characters
  refine ⟨?_, hupper ▸ h.start, hupper ▸ h.notReserved⟩
  rw [hupper, reGenericName_iff (isNameChar_of_mem_upcase h.characters) h.start,
    getLast?_upcase_iff h.characters]
  exact h.last

/-- What is read as a name is one, if it has ASCII characters. -/
theorem ReadsAsName.isNameComponent (h : ReadsAsName setPrefix component)
    (hcomponent : ∀ c ∈ component, IsNameChar c) : IsNameComponent setPrefix component := by
  have hupper := upperText_of_isNameChar hcomponent
  obtain ⟨hpattern, hstart, hreserved⟩ := h
  rw [hupper] at hpattern hstart hreserved
  rw [reGenericName_iff (isNameChar_of_mem_upcase hcomponent) hstart,
    getLast?_upcase_iff hcomponent] at hpattern
  exact ⟨hcomponent, hstart, hpattern, hreserved⟩

/-- What is read as an AS number and starts as a name does is a name, if it has ASCII
characters. -/
theorem ReadsAsNumber.isNameComponent (h : ReadsAsNumber component)
    (hcomponent : ∀ c ∈ component, IsNameChar c) (hstart : setPrefix.Starts (upcase component)) :
    IsNameComponent setPrefix component := by
  have hupper := upperText_of_isNameChar hcomponent
  refine ⟨hcomponent, hstart, ?_, hupper ▸ isWord_of_readsAsNumber h⟩
  obtain ⟨n, start, number, rfl, -, hnumber | ⟨hasdot, -⟩, -⟩ := h
  · obtain ⟨before, sign, body, digits, after, rfl, -, hafter, hgrouped, -⟩ := hnumber
    have hspaces : ∀ c ∈ intSpaces, ¬ IsNameChar c := by
      unfold IsNameChar
      exact List.all_iff_forall_prop.mp (by decide +kernel)
    have hempty : after = [] := by
      apply List.eq_nil_iff_forall_not_mem.mpr
      exact fun c hc ↦ hspaces c (hafter c hc) (hcomponent c (by simp [hc]))
    obtain ⟨rest, c, rfl, hc⟩ := hgrouped.exists_eq_append
    refine ⟨c, ?_, ?_⟩
    · rw [hempty, List.append_nil, ← List.append_assoc, ← List.append_assoc, ← List.append_assoc,
        List.getLast?_concat]
      rfl
    · obtain ⟨-, -, hhyphen, hunderscore, -⟩ := notMem_of_isSome hc
      rcases hcomponent c (by simp) with halnum | rfl | rfl
      · exact halnum
      · exact absurd rfl hunderscore
      · exact absurd rfl hhyphen
  · exact nomatch hasdot

end Names

section Reading

variable {setPrefix : SetPrefix} {component value r : List Char}

/-- What a component is returned as: an AS number in its form without leading zeros, or a name. -/
inductive ReadsAs (setPrefix : SetPrefix) (component : List Char) : List Char → Prop
  | number {n : Nat} (h : ReadableAsNumber false false component n) :
      ReadsAs setPrefix component (asNumberText n)
  | name (hnot : ¬ ReadsAsNumber component) (h : ReadsAsName setPrefix component) :
      ReadsAs setPrefix component component

theorem startsWithAny_iff {upper : List Char} :
    startsWithAny [setPrefix.text] upper = true ↔ setPrefix.Starts upper := by
  simp [startsWithAny, SetPrefix.Starts]

theorem parseSetComponent_eq_ok_iff {out : List Char} :
    parseSetComponent [setPrefix.text] value true component = .ok out ↔
      ReadsAs setPrefix component out := by
  unfold parseSetComponent
  simp only [true_and, ite_error_eq_ok_iff]
  cases hparsed : parsedAsNumber component with
  | some text =>
    obtain ⟨n, hn, rfl⟩ := parsedAsNumber_eq_some_iff.mp hparsed
    have hreserved := isWord_of_readsAsNumber ⟨n, hn⟩
    simp only [hreserved, Option.isNone_some, Bool.false_eq_true, false_and, and_false,
      not_false_eq_true, true_and, Option.getD_some, Except.ok.injEq]
    constructor
    · rintro rfl
      exact .number hn
    · rintro (hm | ⟨hnot, -⟩)
      · have hsome := parsedAsNumber_eq_some_iff.mpr ⟨_, hm, rfl⟩
        rw [hparsed] at hsome
        exact Option.some.inj hsome
      · exact absurd ⟨_, hn⟩ hnot
  | none =>
    have hnot : ¬ ReadsAsNumber component := isNone_parsedAsNumber_iff.mp (by rw [hparsed]; rfl)
    simp only [Option.isNone_none, and_true, true_and, startsWithAny_iff, Option.getD_none,
      Except.ok.injEq, not_not, Bool.not_eq_true, Bool.not_eq_false]
    constructor
    · rintro ⟨hreserved, hpattern, hstart, rfl⟩
      exact .name hnot ⟨hpattern, hstart, hreserved⟩
    · rintro (hm | ⟨-, hpattern, hstart, hreserved⟩)
      · exact absurd ⟨_, hm⟩ hnot
      · exact ⟨hreserved, hpattern, hstart, rfl⟩

/-- Strict parsing returns the components of a value as they are read. -/
theorem strictSetName_eq_some_iff : strictSetName setPrefix value = some r ↔
    (value.splitOn ':').length ≤ 5 ∧ (∃ c ∈ value.splitOn ':', setPrefix.Starts (upperText c)) ∧
      ∃ outputs, List.Forall₂ (ReadsAs setPrefix) (value.splitOn ':') outputs ∧
        r = joinWith ':' outputs := by
  unfold strictSetName parseSetName
  simp only [true_and]
  by_cases hlength : (value.splitOn ':').length > 5
  · rw [if_pos hlength]
    constructor
    · exact fun h ↦ nomatch h
    · exact fun h ↦ absurd h.1 (by omega)
  · by_cases hany : (value.splitOn ':').any
        (fun c ↦ startsWithAny [setPrefix.text] (upperText c)) = true
    · have hstarts : ∃ c ∈ value.splitOn ':', setPrefix.Starts (upperText c) := by
        obtain ⟨c, hc, hstart⟩ := List.any_eq_true.mp hany
        exact ⟨c, hc, startsWithAny_iff.mp hstart⟩
      rw [if_neg hlength, if_neg (not_not.mpr hany)]
      have hall {outputs : List (List Char)} :
          (value.splitOn ':').mapM (parseSetComponent [setPrefix.text] value true) =
              .ok outputs ↔ List.Forall₂ (ReadsAs setPrefix) (value.splitOn ':') outputs := by
        simp only [mapM_eq_ok_iff, parseSetComponent_eq_ok_iff]
      constructor
      · intro h
        split at h
        · exact nomatch h
        · next outputs houtputs =>
          cases h
          exact ⟨by omega, hstarts, outputs, hall.mp houtputs, rfl⟩
      · rintro ⟨-, -, outputs, houtputs, rfl⟩
        rw [hall.mpr houtputs]
        rfl
    · rw [if_neg hlength, if_pos hany]
      constructor
      · exact fun h ↦ nomatch h
      · rintro ⟨-, ⟨c, hc, hstart⟩, -⟩
        apply absurd _ hany
        exact List.any_eq_true.mpr ⟨c, hc, startsWithAny_iff.mpr hstart⟩

theorem exists_readsAs_iff : (∃ out, ReadsAs setPrefix component out) ↔
    ReadsAsNumber component ∨ ReadsAsName setPrefix component := by
  constructor
  · rintro ⟨_, hn | ⟨-, hname⟩⟩
    · exact .inl ⟨_, hn⟩
    · exact .inr hname
  · intro h
    by_cases hreads : ReadsAsNumber component
    · obtain ⟨n, hn⟩ := hreads
      obtain ⟨m, rfl, -⟩ := hn.exists_nat
      exact ⟨_, .number hn⟩
    · exact ⟨component, .name hreads (h.resolve_left hreads)⟩

theorem exists_forall₂_readsAs_iff {components : List (List Char)} :
    (∃ outputs, List.Forall₂ (ReadsAs setPrefix) components outputs) ↔
      ∀ c ∈ components, ReadsAsNumber c ∨ ReadsAsName setPrefix c := by
  have hiff : (∃ outputs, components.mapM (parseSetComponent [setPrefix.text] [] true) =
      .ok outputs) ↔ _ := exists_mapM_eq_ok_iff
  simpa only [mapM_eq_ok_iff, parseSetComponent_eq_ok_iff, exists_readsAs_iff] using hiff

theorem exists_readsAs_of_mem {components outputs : List (List Char)}
    (h : List.Forall₂ (ReadsAs setPrefix) components outputs) {out : List Char}
    (hout : out ∈ outputs) : ∃ c ∈ components, ReadsAs setPrefix c out := by
  induction h with
  | nil => exact nomatch hout
  | cons hfirst _ ih =>
    rcases List.mem_cons.mp hout with rfl | hout
    · exact ⟨_, List.mem_cons_self, hfirst⟩
    · obtain ⟨c, hc, hread⟩ := ih hout
      exact ⟨c, List.mem_cons_of_mem _ hc, hread⟩

theorem exists_readsAs_of_mem_left {components outputs : List (List Char)}
    (h : List.Forall₂ (ReadsAs setPrefix) components outputs)
    (hcomponent : component ∈ components) :
    ∃ out ∈ outputs, ReadsAs setPrefix component out := by
  induction h with
  | nil => exact nomatch hcomponent
  | cons hfirst _ ih =>
    rcases List.mem_cons.mp hcomponent with rfl | hcomponent
    · exact ⟨_, List.mem_cons_self, hfirst⟩
    · obtain ⟨out, hout, hread⟩ := ih hcomponent
      exact ⟨out, List.mem_cons_of_mem _ hout, hread⟩

/-- Strict parsing accepts what can be read as a set name. -/
theorem exists_strictSetName_iff :
    (∃ r, strictSetName setPrefix value = some r) ↔ ReadsAsSetName setPrefix value := by
  simp only [strictSetName_eq_some_iff]
  constructor
  · rintro ⟨_, hlength, hstarts, outputs, houtputs, rfl⟩
    exact ⟨hlength, exists_forall₂_readsAs_iff.mp ⟨outputs, houtputs⟩, hstarts⟩
  · rintro ⟨hlength, hcomponents, hstarts⟩
    obtain ⟨outputs, houtputs⟩ := exists_forall₂_readsAs_iff.mpr hcomponents
    exact ⟨_, hlength, hstarts, outputs, houtputs, rfl⟩

/-- What a component is returned as is returned as itself. -/
theorem ReadsAs.again {out : List Char} (h : ReadsAs setPrefix component out) :
    ReadsAs setPrefix out out := by
  cases h with
  | number hn =>
    obtain ⟨m, hm, hrange⟩ := hn.exists_nat
    exact .number (readable_asNumberText (by omega))
  | name hnot hname => exact .name hnot hname

theorem isNumberComponent_asNumberText {n : Nat} (hn : n ≤ 4294967295) :
    IsNumberComponent (asNumberText n) := by
  have hdigit {c : Char} (hc : c ∈ (toString n).toList) : c.isAlphanum = true := by
    have hdigit := isDigit_iff.mp (isDigit_of_mem_toString hc)
    exact isAlphanum_iff.mpr (by omega)
  refine ⟨n, (readable_asNumberText hn).asNumber (fun c hc ↦ .inl ?_)⟩
  have hchars : asNumberText n = ['A', 'S'] ++ (toString n).toList := String.toList_append
  rw [hchars] at hc
  rcases List.mem_append.mp hc with hc | hc
  · have hstart : ∀ c ∈ ['A', 'S'], c.isAlphanum = true :=
      List.all_iff_forall_prop.mp (by decide)
    exact hstart c hc
  · exact hdigit hc

theorem colon_notMem {out : List Char} (hcomponent : component ∈ value.splitOn ':')
    (h : ReadsAs setPrefix component out) : ':' ∉ out := by
  cases h with
  | number hn =>
    obtain ⟨m, hm, hrange⟩ := hn.exists_nat
    intro hmem
    exact absurd ((isNumberComponent_asNumberText (by omega)).isAlphanum ':' hmem) (by decide)
  | name _ _ => exact not_mem_of_mem_splitOn hcomponent

/-- What is returned is returned again exactly if it still has a name. -/
theorem strictSetName_again_iff {outputs : List (List Char)}
    (hlength : (value.splitOn ':').length ≤ 5)
    (h : List.Forall₂ (ReadsAs setPrefix) (value.splitOn ':') outputs) :
    strictSetName setPrefix (joinWith ':' outputs) = some (joinWith ':' outputs) ↔
      ∃ out ∈ outputs, setPrefix.Starts (upperText out) := by
  have hcolon : ∀ out ∈ outputs, ':' ∉ out := by
    intro out hout
    obtain ⟨c, hc, hread⟩ := exists_readsAs_of_mem h hout
    exact colon_notMem hc hread
  have hne : outputs ≠ [] := by
    rintro rfl
    cases hempty : value.splitOn ':' with
    | nil => exact List.splitOn_ne_nil _ _ hempty
    | cons c components =>
      rw [hempty] at h
      exact nomatch h
  have hsplit : (joinWith ':' outputs).splitOn ':' = outputs :=
    List.splitOn_intercalate ':' hcolon hne
  have hagain : List.Forall₂ (ReadsAs setPrefix) outputs outputs := by
    apply List.forall₂_same.mpr
    intro out hout
    obtain ⟨c, -, hread⟩ := exists_readsAs_of_mem h hout
    exact hread.again
  rw [strictSetName_eq_some_iff, hsplit]
  constructor
  · exact fun hstrict ↦ hstrict.2.1
  · exact fun hstarts ↦ ⟨h.length_eq ▸ hlength, hstarts, outputs, hagain, rfl⟩

end Reading

section Same

variable {setPrefix : SetPrefix} {c c' out out' value value' r r' : List Char}

theorem upperText_upcase (text : List Char) : upperText (upcase text) = upperText text := by
  have hchar (c : Char) : upperChar c.toUpper = upperChar c := by
    have hupper := toNat_toUpper c
    split at hupper
    · rw [upperChar_of_lt (by omega), upperChar_of_lt (by omega), toUpper_toUpper]
    · rw [Char.toNat_inj.mp hupper]
  induction text with
  | nil => rfl
  | cons c text ih =>
    change upperChar c.toUpper ++ upperText (upcase text) = upperChar c ++ upperText text
    rw [hchar, ih]

theorem upcase_joinWith (outputs : List (List Char)) :
    upcase (joinWith ':' outputs) = joinWith ':' (outputs.map upcase) := by
  unfold joinWith
  induction outputs with
  | nil => rfl
  | cons out outputs ih =>
    cases outputs with
    | nil => simp
    | cons out' outputs =>
      rw [List.intercalate_cons_cons, List.map_cons, List.map_cons, List.intercalate_cons_cons,
        ← List.map_cons, ← ih]
      simp [upcase]

/-- A component is parsed as an AS number by its upper case. -/
theorem parsedAsNumber_congr (h : upperText c = upperText c') :
    parsedAsNumber c = parsedAsNumber c' := by
  unfold parsedAsNumber asNumber parseAsNumberText
  rw [h]

/-- An AS number is returned in its form without leading zeros. -/
theorem eq_asNumberText_of_readsAs {n : Int} (hn : AsNumber false false c n)
    (h : ReadsAs setPrefix c out) : out = asNumberText n.toNat := by
  have hnumber : IsNumberComponent c := ⟨n, hn⟩
  have hupper : upperText c = upcase c := upperText_of_isAlphanum hnumber.isAlphanum
  cases h with
  | number hm =>
    have hdigits := hnumber.reads_iff.mp ⟨_, hm⟩
    have hread : ReadableAsNumber false false c n := by
      apply hn.readable
      rw [splitOn_of_notMem hnumber.dot_notMem]
      exact fun part hpart ↦ List.mem_singleton.mp hpart ▸ hdigits
    obtain ⟨k, rfl, -⟩ := hn.exists_nat
    have hsome := parsedAsNumber_eq_some_iff.mpr ⟨k, hread, rfl⟩
    rw [parsedAsNumber_eq_some_iff.mpr ⟨_, hm, rfl⟩] at hsome
    exact Option.some.inj hsome
  | name _ hname => exact absurd (hupper ▸ hname.start) hnumber.not_starts

/-- The same component is returned as the same up to case. -/
theorem upcase_eq_of_readsAs (hsame : upcase c = upcase c' ∨
    ∃ n, AsNumber false false c n ∧ AsNumber false false c' n) (h : ReadsAs setPrefix c out)
    (h' : ReadsAs setPrefix c' out') : upcase out = upcase out' := by
  rcases hsame with hcase | ⟨n, hn, hn'⟩
  · have hupper : upperText c = upperText c' := by
      rw [← upperText_upcase c, hcase, upperText_upcase]
    have hparsed := parsedAsNumber_congr hupper
    cases h with
    | number hn =>
      have hsome := parsedAsNumber_eq_some_iff.mpr ⟨_, hn, rfl⟩
      rw [hparsed] at hsome
      cases h' with
      | number hn' =>
        rw [parsedAsNumber_eq_some_iff.mpr ⟨_, hn', rfl⟩] at hsome
        rw [Option.some.inj hsome]
      | name hnot' _ =>
        rw [Option.isNone_iff_eq_none.mp (isNone_parsedAsNumber_iff.mpr hnot')] at hsome
        exact nomatch hsome
    | name hnot _ =>
      have hnone := Option.isNone_iff_eq_none.mp (isNone_parsedAsNumber_iff.mpr hnot)
      rw [hparsed] at hnone
      cases h' with
      | number hn' =>
        rw [parsedAsNumber_eq_some_iff.mpr ⟨_, hn', rfl⟩] at hnone
        exact nomatch hnone
      | name _ _ => exact hcase
  · rw [eq_asNumberText_of_readsAs hn h, eq_asNumberText_of_readsAs hn' h']

/-- For the same set name the same is returned, up to case. -/
theorem upcase_strictSetName (hsame : SameSetName value value')
    (h : strictSetName setPrefix value = some r) (h' : strictSetName setPrefix value' = some r') :
    upcase r = upcase r' := by
  obtain ⟨-, -, outputs, houtputs, rfl⟩ := strictSetName_eq_some_iff.mp h
  obtain ⟨-, -, outputs', houtputs', rfl⟩ := strictSetName_eq_some_iff.mp h'
  rw [upcase_joinWith, upcase_joinWith]
  congr 1
  clear h h'
  unfold SameSetName at hsame
  generalize value.splitOn ':' = components at hsame houtputs
  generalize value'.splitOn ':' = components' at hsame houtputs'
  induction hsame generalizing outputs outputs' with
  | nil =>
    cases houtputs
    cases houtputs'
    rfl
  | cons hfirst _ ih =>
    cases houtputs with
    | cons hread hreads =>
      cases houtputs' with
      | cons hread' hreads' =>
        rw [List.map_cons, List.map_cons, upcase_eq_of_readsAs hfirst hread hread']
        rw [ih _ _ hreads hreads']

end Same

section Following

variable {setPrefix : SetPrefix} {component value : List Char}

/-- The components of a set name have ASCII characters. -/
theorem IsSetName.isNameChar (h : IsSetName setPrefix value) :
    ∀ component ∈ value.splitOn ':', ∀ c ∈ component, IsNameChar c := by
  intro component hcomponent
  rcases h.components component hcomponent with hnumber | hname
  · exact fun c hc ↦ .inl (hnumber.isAlphanum c hc)
  · exact hname.characters

/-- A set name can be read as one, unless a number has too many digits. -/
theorem IsSetName.reads (h : IsSetName setPrefix value)
    (hdigits : ∀ component ∈ value.splitOn ':', IsNumberComponent component →
      (digitsOf component).length ≤ maxStrDigits) : ReadsAsSetName setPrefix value := by
  refine ⟨h.length, fun component hcomponent ↦ ?_, ?_⟩
  · rcases h.components component hcomponent with hnumber | hname
    · exact .inl (hnumber.reads_iff.mpr (hdigits component hcomponent hnumber))
    · exact .inr hname.reads
  · obtain ⟨component, hcomponent, hname⟩ := h.name
    exact ⟨component, hcomponent, hname.reads.start⟩

/-- What can be read as a set name is one, if its components have ASCII characters. -/
theorem ReadsAsSetName.isSetName (h : ReadsAsSetName setPrefix value)
    (hcharacters : ∀ component ∈ value.splitOn ':', (∀ c ∈ component, IsNameChar c) ∧
      (ReadsAsNumber component →
        IsNumberComponent component ∨ setPrefix.Starts (upcase component))) :
    IsSetName setPrefix value := by
  have hcomponent : ∀ component ∈ value.splitOn ':',
      IsNumberComponent component ∨ IsNameComponent setPrefix component := by
    intro component hmem
    obtain ⟨hchars, hnumber⟩ := hcharacters component hmem
    rcases h.components component hmem with hreads | hreads
    · exact (hnumber hreads).imp_right (fun hstart ↦ hreads.isNameComponent hchars hstart)
    · exact .inr (hreads.isNameComponent hchars)
  refine ⟨h.length, hcomponent, ?_⟩
  obtain ⟨component, hmem, hstart⟩ := h.name
  rw [upperText_of_isNameChar (hcharacters component hmem).1] at hstart
  exact ⟨component, hmem, (hcomponent component hmem).resolve_left
    (fun hnumber ↦ hnumber.not_starts hstart)⟩

/-- A component is returned as a name exactly if it starts as one and is not read as an AS
number. -/
theorem starts_of_readsAs {out : List Char} (hchars : ∀ c ∈ component, IsNameChar c)
    (h : ReadsAs setPrefix component out) :
    setPrefix.Starts (upperText out) ↔
      setPrefix.Starts (upcase component) ∧ ¬ ReadsAsNumber component := by
  cases h with
  | @number n hn =>
    have hrange : n ≤ 4294967295 := by
      obtain ⟨m, hm, hrange⟩ := hn.exists_nat
      omega
    have hnumber := isNumberComponent_asNumberText hrange
    rw [upperText_of_isAlphanum hnumber.isAlphanum]
    constructor
    · exact fun hstart ↦ absurd hstart hnumber.not_starts
    · exact fun hstart ↦ absurd ⟨_, hn⟩ hstart.2
  | name hnot hname =>
    rw [upperText_of_isNameChar hchars]
    exact (and_iff_left hnot).symm

/-- Strict parsing follows the grammar of set names exactly if the text is spelled plainly. -/
theorem followsSetGrammar_iff (setPrefix : SetPrefix) (value : List Char) :
    FollowsSetGrammar setPrefix value ↔ SetNameSpelledPlainly setPrefix value := by
  constructor
  · rintro ⟨haccepted, hagain, -⟩
    rw [exists_strictSetName_iff] at haccepted
    refine ⟨fun hreads component hcomponent ↦ ?_, fun hset component hcomponent hnumber ↦ ?_,
      fun hset ↦ ?_⟩
    · have hset := haccepted.mp hreads
      exact ⟨hset.isNameChar component hcomponent,
        fun _ ↦ (hset.components component hcomponent).imp_right (fun hname ↦ hname.start)⟩
    · rcases (haccepted.mpr hset).components component hcomponent with hreads | hreads
      · exact hnumber.reads_iff.mp hreads
      · have hstart := hreads.start
        rw [upperText_of_isAlphanum hnumber.isAlphanum] at hstart
        exact absurd hstart hnumber.not_starts
    · obtain ⟨r, hr⟩ := exists_strictSetName_iff.mpr (haccepted.mpr hset)
      obtain ⟨hlength, -, outputs, houtputs, rfl⟩ := strictSetName_eq_some_iff.mp hr
      obtain ⟨out, hout, hstart⟩ := (strictSetName_again_iff hlength houtputs).mp (hagain _ hr)
      obtain ⟨component, hcomponent, hread⟩ := exists_readsAs_of_mem houtputs hout
      exact ⟨component, hcomponent,
        (starts_of_readsAs (hset.isNameChar component hcomponent) hread).mp hstart⟩
  · rintro ⟨hcharacters, hdigits, hname⟩
    have haccepted : ReadsAsSetName setPrefix value ↔ IsSetName setPrefix value :=
      ⟨fun hreads ↦ hreads.isSetName (hcharacters hreads), fun hset ↦ hset.reads (hdigits hset)⟩
    refine ⟨exists_strictSetName_iff.trans haccepted, fun r hr ↦ ?_,
      fun value' r r' hsame ↦ upcase_strictSetName hsame⟩
    have hset := haccepted.mp (exists_strictSetName_iff.mp ⟨r, hr⟩)
    obtain ⟨hlength, -, outputs, houtputs, rfl⟩ := strictSetName_eq_some_iff.mp hr
    obtain ⟨component, hcomponent, hstart⟩ := hname hset
    obtain ⟨out, hout, hread⟩ := exists_readsAs_of_mem_left houtputs hcomponent
    rw [strictSetName_again_iff hlength houtputs]
    exact ⟨out, hout, (starts_of_readsAs (hset.isNameChar component hcomponent) hread).mpr hstart⟩

/-- A set name that is read as the number -0 is returned as an AS number, which is no set name. -/
theorem not_followsSetGrammar : ¬ FollowsSetGrammar .asSet "AS-0".toList := by
  rintro ⟨-, hagain, -⟩
  have hvalue : strictSetName .asSet "AS-0".toList = some "AS0".toList := by decide +kernel
  have hreturned := hagain _ hvalue
  exact absurd hreturned (by decide +kernel)

end Following

end Irrd.Rpsl
