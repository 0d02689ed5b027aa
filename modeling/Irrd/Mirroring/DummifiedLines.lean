import Irrd.Mirroring.Dummification
import Irrd.Rpsl.ReadObjects
import Irrd.Utils.LinePieces

/-!
# Dummified lines

What is read of dummified text, by the lines of the original one. Text is taken apart with
`str.splitlines`, but the parser only splits at newlines, and lines that continue a dummified
attribute stay. Source: `irrd/utils/text.py`, `irrd/rpsl/parser.py`.
-/

namespace Irrd.Mirroring

open Irrd.Rpsl Irrd.Utils

section Names

/-- Attributes of this name are dummified. -/
def isHidden (attributes : List (String × String)) (name : List Char) : Bool :=
  attributes.any (fun e ↦ e.1.toList = name)

/-- Attributes of this name are read, and not dummified. -/
def isShown (c : RPSLObjectClass) (attributes : List (String × String)) (name : List Char) : Bool :=
  isKept c name && !isHidden attributes name

/-- A line begins an attribute that is not dummified. -/
def startsShown (c : RPSLObjectClass) (attributes : List (String × String)) (line : List Char) :
    Bool := (startedName c line).any (isShown c attributes)

/-- A line begins an attribute that is dummified or discarded. -/
def startsHidden (c : RPSLObjectClass) (attributes : List (String × String)) (line : List Char) :
    Bool := (startedName c line).any (fun name ↦ !isShown c attributes name)

/-- The attributes that are not dummified. -/
def shownAttributes (attributes : List (String × String)) (data : List Attribute) :
    List Attribute := data.filter (fun a ↦ !isHidden attributes a.name)

/-- The attributes that are dummified have names of attributes. -/
def AttributeNames (attributes : List (String × String)) : Prop :=
  ∀ e ∈ attributes, reAttrName e.1.toList = true

instance (attributes : List (String × String)) : Decidable (AttributeNames attributes) :=
  inferInstanceAs (Decidable (∀ e ∈ attributes, reAttrName e.1.toList = true))

variable {c : RPSLObjectClass} {attributes : List (String × String)} {pk line : List Char}
  {lines : List (List Char)} {data data' : List Attribute}

theorem AttributeNames.proper (hnames : AttributeNames attributes) : ProperNames attributes :=
  fun e he hmem ↦ (ProperAttribute.of_mem_name (a := ⟨e.1.toList, [], []⟩)
    ⟨hnames e he, by simp⟩ hmem).2.2 rfl

@[simp] theorem shownAttributes_append : shownAttributes attributes (data ++ data') =
    shownAttributes attributes data ++ shownAttributes attributes data' := List.filter_append _ _

theorem isContinuationLine_dummifyLine :
    isContinuationLine (dummifyLine attributes pk line) = isContinuationLine line := by
  unfold isContinuationLine
  rw [head?_dummifyLine]

/-- The attribute of a line that begins with its name. -/
theorem lineAttribute_of_name {name : List Char} (hname : reAttrName name = true)
    (value : List Char) :
    lineAttribute c (name ++ ':' :: value) = some ⟨name, strip value, []⟩ := by
  have hproper : ProperAttribute ⟨name, [], []⟩ := ⟨hname, by simp⟩
  unfold lineAttribute
  rw [splitOnce_append (fun h ↦ (hproper.of_mem_name h).2.2 rfl), Option.bind_some]
  dsimp only
  rw [lower_of_reAttrName hname, if_pos (Or.inr hname)]

/-- A line that begins with a name continues no attribute. -/
theorem isContinuationLine_of_name {name : List Char} (hname : reAttrName name = true)
    (value : List Char) : isContinuationLine (name ++ ':' :: value) = false := by
  have hproper : ProperAttribute ⟨name, [], []⟩ := ⟨hname, by simp⟩
  cases name with
  | nil => cases hname
  | cons ch name => exact (hproper.of_mem_name List.mem_cons_self).1

theorem startedName_of_name {name : List Char} (hname : reAttrName name = true)
    (value : List Char) : startedName c (name ++ ':' :: value) = some name := by
  unfold startedName
  rw [isContinuationLine_of_name hname, if_neg Bool.false_ne_true, lineAttribute_of_name hname]
  rfl

/-- A line that begins with the name of a dummified attribute, by its name and value. -/
theorem exists_value_of_lineStart {e : String × String} (h : lineStart e.1 <+: line) :
    ∃ value, line = e.1.toList ++ ':' :: value := by
  obtain ⟨value, rfl⟩ := h
  exact ⟨value, by simp [lineStart]⟩

/-- A line that is dummified begins with the same name after it. -/
theorem exists_value_dummifyLine (pk : List Char) {e : String × String}
    (h : hiddenBy attributes line = some e) :
    ∃ value, dummifyLine attributes pk line = e.1.toList ++ ':' :: value :=
  exists_value_of_lineStart (lineStart_prefix_dummifyLine h)

/-- Dummifying does not change which attribute a line begins. -/
theorem startedName_dummifyLine (hnames : AttributeNames attributes) :
    startedName c (dummifyLine attributes pk line) = startedName c line := by
  cases h : hiddenBy attributes line with
  | none => rw [dummifyLine_of_none h]
  | some e =>
    obtain ⟨he, hstart⟩ := hiddenBy_eq_some h
    obtain ⟨value, hvalue⟩ := exists_value_of_lineStart hstart
    obtain ⟨value', hvalue'⟩ := exists_value_dummifyLine pk h
    rw [hvalue', startedName_of_name (hnames e he), hvalue, startedName_of_name (hnames e he)]

/-- Lines that continue an attribute are not dummified. -/
theorem dummifyLine_continuation (hnames : AttributeNames attributes)
    (hline : isContinuationLine line = true) : dummifyLine attributes pk line = line := by
  apply dummifyLine_of_none
  apply hiddenBy_eq_none_iff.mpr
  intro e he hstart
  obtain ⟨value, rfl⟩ := exists_value_of_lineStart hstart
  rw [isContinuationLine_of_name (hnames e he)] at hline
  cases hline

/-- Lines that begin other attributes are not dummified. -/
theorem dummifyLine_shown (hnames : AttributeNames attributes) {name : List Char}
    (hname : reAttrName name = true) (hshown : isHidden attributes name = false)
    (value : List Char) :
    dummifyLine attributes pk (name ++ ':' :: value) = name ++ ':' :: value := by
  apply dummifyLine_of_none
  apply hiddenBy_eq_none_iff.mpr
  intro e he hstart
  obtain ⟨value', hvalue⟩ := exists_value_of_lineStart hstart
  have hcolon : ':' ∉ name := fun h ↦
    (ProperAttribute.of_mem_name (a := ⟨name, [], []⟩) ⟨hname, by simp⟩ h).2.2 rfl
  have hsame := (append_separator_inj hcolon (hnames.proper e he) hvalue).1
  refine Bool.false_ne_true (hshown.symm.trans (List.any_eq_true.mpr ⟨e, he, ?_⟩))
  exact decide_eq_true hsame.symm

/-- The attributes that are read and shown are begun by as many lines. -/
theorem length_shownAttributes (h : readLines c [] none lines = some data) :
    (shownAttributes attributes data).length = lines.countP (startsShown c attributes) := by
  have hnames := map_name_readLines h
  have hlength : (shownAttributes attributes data).length =
      (data.map Attribute.name).countP (fun name ↦ !isHidden attributes name) := by
    rw [List.countP_map, shownAttributes, List.countP_eq_length_filter]
    rfl
  rw [hlength, hnames]
  change (((lines.filterMap (startedName c)).filter (isKept c))).countP _ = _
  rw [List.countP_filter]
  clear hnames hlength h
  induction lines with
  | nil => rfl
  | cons line lines ih =>
    rw [List.countP_cons, List.filterMap_cons]
    cases hname : startedName c line with
    | none =>
      have hshown : startsShown c attributes line = false := by
        rw [startsShown, hname]
        rfl
      rw [hshown, ih]
      rfl
    | some name =>
      have hshown : startsShown c attributes line =
          (!isHidden attributes name && isKept c name) := by
        rw [startsShown, hname, Bool.and_comm]
        rfl
      rw [List.countP_cons, ih, hshown]

/-- All attributes of lines are dummified or discarded where those are that the lines begin. -/
theorem exists_shownAttributes_eq_nil_iff :
    (∃ data, readLines c [] none lines = some data ∧ shownAttributes attributes data = []) ↔
      ∀ line ∈ lines, isContinuationLine line = true ∨ startsHidden c attributes line = true := by
  have hread : (readLines c [] none lines).isSome ↔ _ := isSome_readLines
  have hline (line : List Char) : (isContinuationLine line = true ∨
      startsHidden c attributes line = true) ↔
        (isContinuationLine line = false → (lineAttribute c line).isSome) ∧
          startsShown c attributes line = false := by
    unfold startsHidden startsShown startedName
    cases hcontinues : isContinuationLine line with
    | true => simp
    | false => cases lineAttribute c line <;> simp
  simp only [hline]
  constructor
  · rintro ⟨data, hdata, hnone⟩ line hmem
    refine ⟨hread.mp (by rw [hdata]; rfl) line hmem, ?_⟩
    have hcount : (shownAttributes attributes data).length = _ := length_shownAttributes hdata
    rw [hnone, List.length_nil, eq_comm, List.countP_eq_zero] at hcount
    simpa using hcount line hmem
  · intro h
    obtain ⟨data, hdata⟩ :=
      Option.isSome_iff_exists.mp (hread.mpr (fun line hmem ↦ (h line hmem).1))
    refine ⟨data, hdata, ?_⟩
    rw [← List.length_eq_zero_iff, length_shownAttributes hdata, List.countP_eq_zero]
    intro line hmem
    rw [(h line hmem).2]
    exact Bool.false_ne_true

end Names

section Blocks

variable {c : RPSLObjectClass} {attributes : List (String × String)} {pk : List Char}
  {lines rest blank : List (List Char)} {name value : List Char}

/-- The lines that dummifying makes of those of a text. -/
def dummyLines (attributes : List (String × String)) (pk : List Char) (lines : List (List Char)) :
    List (List Char) := (lines.flatMap linePieces).map (dummifyLine attributes pk)

theorem dummyLines_append (lines lines' : List (List Char)) :
    dummyLines attributes pk (lines ++ lines') =
      dummyLines attributes pk lines ++ dummyLines attributes pk lines' := by
  unfold dummyLines
  rw [List.flatMap_append, List.map_append]

/-- An attribute has the characters of its lines that are no whitespace. -/
theorem weight_continued (a : Attribute) (rest : List (List Char)) :
    weight (a.continued rest).value + weight (a.continued rest).continuationChars =
      weight a.value + weight a.continuationChars + weight rest.flatten := by
  have hline (line : List Char) :
      weight ('\n' :: strip (line.drop 1)) + weight (line.take 1) = weight line := by
    have hnewline : weight ('\n' :: strip (line.drop 1)) = weight (line.drop 1) := by
      rw [← List.singleton_append, weight_append, weight_strip]
      exact Nat.zero_add _
    rw [hnewline, Nat.add_comm, ← weight_append, List.take_append_drop]
  induction rest generalizing a with
  | nil => simp [Attribute.continued, weight]
  | cons line rest ih =>
    have hfirst : weight (a.continued [line]).value +
        weight (a.continued [line]).continuationChars =
        weight a.value + weight a.continuationChars + weight line := by
      unfold Attribute.continued
      rw [List.map_singleton, List.flatten_singleton, List.flatMap_singleton]
      dsimp only
      rw [weight_append, weight_append, ← hline line]
      omega
    rw [← Attribute.continued_continued, ih, hfirst, List.flatten_cons, weight_append]
    omega

/-- Each line that continues an attribute has a character for it. -/
theorem length_continued (a : Attribute)
    (hrest : ∀ line ∈ rest, isContinuationLine line = true) :
    (a.continued rest).continuationChars.length = a.continuationChars.length + rest.length := by
  unfold Attribute.continued
  rw [List.length_append, List.length_flatMap]
  congr 1
  induction rest with
  | nil => rfl
  | cons line rest ih =>
    obtain ⟨hline, hothers⟩ := List.forall_mem_cons.mp hrest
    rw [List.map_cons, List.sum_cons, ih hothers, List.length_cons]
    cases line with
    | nil => cases hline
    | cons ch line => simp [Nat.add_comm]

/-- Lines have as many pieces as there are lines where each of them is its only piece. -/
theorem length_flatMap_linePieces (lines : List (List Char)) :
    lines.length ≤ (lines.flatMap linePieces).length ∧
      ((lines.flatMap linePieces).length = lines.length →
        ∀ line ∈ lines, (linePieces line).length = 1) := by
  induction lines with
  | nil => simp
  | cons line lines ih =>
    have hpos : 0 < (linePieces line).length := List.length_pos_iff.mpr (linePieces_ne_nil line)
    rw [List.flatMap_cons, List.length_append, List.length_cons]
    refine ⟨by omega, fun hlength ↦ List.forall_mem_cons.mpr ⟨by omega, ih.2 (by omega)⟩⟩

/-- Lines without line breaks are their own pieces. -/
theorem flatMap_linePieces_eq_self (hlines : ∀ line ∈ lines, ∀ ch ∈ line, ch ∉ lineBreaks) :
    lines.flatMap linePieces = lines := by
  induction lines with
  | nil => rfl
  | cons line lines ih =>
    obtain ⟨hline, hothers⟩ := List.forall_mem_cons.mp hlines
    rw [List.flatMap_cons, linePieces_eq_self hline, ih hothers]
    rfl

/-- A line that begins an attribute is not only whitespace. -/
theorem weight_pos_of_lineAttribute {line : List Char} {a : Attribute}
    (ha : lineAttribute c line = some a) : 0 < weight line := by
  unfold lineAttribute at ha
  obtain ⟨⟨before, after⟩, hsplit, -⟩ := Option.bind_eq_some_iff.mp ha
  obtain ⟨rfl, -⟩ := splitOnce_eq_some hsplit
  apply List.countP_pos_iff.mpr
  exact ⟨':', by simp, by decide⟩

theorem weight_flatMap_linePieces (lines : List (List Char)) :
    weight (lines.flatMap linePieces).flatten = weight lines.flatten := by
  induction lines with
  | nil => rfl
  | cons line lines ih =>
    rw [List.flatMap_cons, List.flatten_append, weight_append, weight_linePieces, ih,
      List.flatten_cons, weight_append]

theorem weight_flatten_blank (hblank : ∀ line ∈ blank, strip line = []) :
    weight blank.flatten = 0 := by
  apply weight_eq_zero
  intro ch hch
  obtain ⟨line, hline, hch⟩ := List.mem_flatten.mp hch
  exact mem_whitespace_of_strip (hblank line hline) ch hch

/-- The first piece of a line that begins with a name begins with it as well. -/
theorem exists_linePieces_name (hname : reAttrName name = true) (value : List Char) :
    ∃ value' others, linePieces (name ++ ':' :: value) = (name ++ ':' :: value') :: others := by
  have hstart : ∀ ch ∈ name ++ [':'], ch ∉ lineBreaks := by
    intro ch hch
    rcases List.mem_append.mp hch with hch | hch
    · exact (ProperAttribute.of_mem_name (a := ⟨name, [], []⟩) ⟨hname, by simp⟩ hch).2.1
    · rw [List.mem_singleton.mp hch]
      decide
  obtain ⟨value', others, hfirst⟩ := exists_linePieces_append hstart value
  rw [List.append_assoc, List.append_assoc, List.singleton_append, List.singleton_append] at hfirst
  exact ⟨value', others, hfirst⟩

theorem map_dummifyLine_continuations (hnames : AttributeNames attributes)
    (hrest : ∀ line ∈ rest, isContinuationLine line = true) :
    rest.map (dummifyLine attributes pk) = rest := by
  conv_rhs => rw [← List.map_id rest]
  apply List.map_congr_left
  exact fun line hline ↦ dummifyLine_continuation hnames (hrest line hline)

/-- A shown attribute is kept with the lines that continue it. -/
theorem saveAttribute_shown (hname : isShown c attributes name = true) (value : List Char)
    (rest : List (List Char)) :
    saveAttribute c [] (some ((⟨name, value, []⟩ : Attribute).continued rest)) =
        [(⟨name, value, []⟩ : Attribute).continued rest] ∧
      shownAttributes attributes [(⟨name, value, []⟩ : Attribute).continued rest] =
        [(⟨name, value, []⟩ : Attribute).continued rest] := by
  obtain ⟨hkept, hhidden⟩ := Bool.and_eq_true_iff.mp hname
  rw [isKept, Bool.not_eq_true', decide_eq_false_iff_not] at hkept
  constructor
  · unfold saveAttribute
    dsimp only
    rw [if_neg (show ¬ (((⟨name, value, []⟩ : Attribute).continued rest).name = [] ∨
      isWord c.discardedFields ((⟨name, value, []⟩ : Attribute).continued rest).name) from hkept)]
    rfl
  · exact List.filter_eq_self.mpr (List.forall_mem_singleton.mpr hhidden)

/-- An attribute that is not dummified stays as it is, with nothing after it, exactly where its
lines have no other line breaks and are followed by no line of whitespace. -/
theorem readLines_shownBlock_iff (hnames : AttributeNames attributes)
    (hname : reAttrName name = true) (hshown : isShown c attributes name = true)
    (hrest : ∀ line ∈ rest ++ blank, isContinuationLine line = true)
    (hblank : ∀ line ∈ blank, strip line = [])
    (hlines : ∀ line ∈ (name ++ ':' :: value) :: (rest ++ blank),
      '\n' ∉ line ∧ line.getLast? ≠ some '\r') :
    (∃ data, readLines c [] none
        (dummyLines attributes pk ((name ++ ':' :: value) :: (rest ++ blank))) = some data ∧
      shownAttributes attributes data = [(⟨name, strip value, []⟩ : Attribute).continued rest]) ↔
    blank = [] ∧ ∀ line ∈ (name ++ ':' :: value) :: (rest ++ blank), ∀ ch ∈ line,
      ch ∉ lineBreaks := by
  have hhidden : isHidden attributes name = false := by
    simpa using (Bool.and_eq_true_iff.mp hshown).2
  constructor
  · rintro ⟨data, hdata, hsame⟩
    obtain ⟨value', others, hfirst⟩ := exists_linePieces_name hname value
    have hpieces : ((name ++ ':' :: value) :: (rest ++ blank)).flatMap linePieces =
        (name ++ ':' :: value') :: (others ++ (rest ++ blank).flatMap linePieces) := by
      rw [List.flatMap_cons, hfirst, List.cons_append]
    -- The attribute goes on up to the first piece that begins another one.
    obtain ⟨continued, more, hsplit, hcontinued, hmore⟩ : ∃ continued more,
        others ++ (rest ++ blank).flatMap linePieces = continued ++ more ∧
          (∀ line ∈ continued, isContinuationLine line = true) ∧
          ∀ line ∈ more.head?, isContinuationLine line = false := by
      refine ⟨_, _, List.takeWhile_append_dropWhile.symm, fun line hline ↦
        List.mem_takeWhile_imp hline, fun line hline ↦ ?_⟩
      have hnot := List.head?_dropWhile_not isContinuationLine
        (others ++ (rest ++ blank).flatMap linePieces)
      rw [hline] at hnot
      simpa using hnot
    rw [hsplit] at hpieces
    have hdummy : dummyLines attributes pk ((name ++ ':' :: value) :: (rest ++ blank)) =
        ((name ++ ':' :: value') :: continued) ++ more.map (dummifyLine attributes pk) := by
      unfold dummyLines
      rw [hpieces, List.map_cons, List.map_append, dummifyLine_shown hnames hname hhidden,
        map_dummifyLine_continuations hnames hcontinued]
      rfl
    have hmore' : ∀ line ∈ (more.map (dummifyLine attributes pk)).head?,
        isContinuationLine line = false := by
      intro line hline
      rw [List.head?_map] at hline
      obtain ⟨piece, hpiece, rfl⟩ := Option.map_eq_some_iff.mp hline
      rw [isContinuationLine_dummifyLine]
      exact hmore piece hpiece
    obtain ⟨hsaved, hfilter⟩ := saveAttribute_shown hshown (strip value') continued
    rw [hdummy, readLines_append hmore', readLines_block (isContinuationLine_of_name hname value')
      hcontinued, lineAttribute_of_name hname, Option.map_some, hsaved, Option.bind_some] at hdata
    obtain ⟨later, hlater, rfl⟩ := Option.map_eq_some_iff.mp hdata
    rw [shownAttributes_append, hfilter, List.singleton_append, List.cons.injEq] at hsame
    obtain ⟨hsame, -⟩ := hsame
    have hlength : continued.length = rest.length := by
      have hcount := congrArg (fun a : Attribute ↦ a.continuationChars.length) hsame
      rw [length_continued _ hcontinued, length_continued _ (fun line hline ↦
        hrest line (List.mem_append_left _ hline))] at hcount
      simpa using hcount
    have hweight : weight value' + weight continued.flatten =
        weight value + weight rest.flatten := by
      have htotal := weight_continued ⟨name, strip value', []⟩ continued
      have hchars (value : List Char) :
          weight (⟨name, value, []⟩ : Attribute).continuationChars = 0 :=
        rfl
      rw [hsame, weight_continued, weight_strip, weight_strip, hchars] at htotal
      omega
    -- Only whitespace is left for other lines, and a line that begins an attribute is more.
    have hnothing : weight more.flatten = 0 := by
      have hall := weight_flatMap_linePieces ((name ++ ':' :: value) :: (rest ++ blank))
      have htotal (value : List Char) (lines lines' : List (List Char)) :
          weight ((name ++ ':' :: value) :: (lines ++ lines')).flatten =
            weight (name ++ [':']) + weight value + weight lines.flatten +
              weight lines'.flatten := by
        rw [List.flatten_cons, List.flatten_append, ← weight_append, ← weight_append,
          ← weight_append, List.append_assoc, List.append_assoc]
        simp
      rw [hpieces, htotal, htotal, weight_flatten_blank hblank] at hall
      omega
    have hnone : more = [] := by
      cases more with
      | nil => rfl
      | cons piece more =>
        have hcontinues := hmore piece rfl
        have hread := isSome_readLines.mp (Option.isSome_of_mem hlater)
        have hbegins := hread (dummifyLine attributes pk piece) List.mem_cons_self
          (isContinuationLine_dummifyLine.trans hcontinues)
        have hstarted : (startedName c piece).isSome := by
          rw [← @startedName_dummifyLine c attributes pk piece hnames, startedName,
            isContinuationLine_dummifyLine, hcontinues, if_neg Bool.false_ne_true,
            Option.isSome_map]
          exact hbegins
        rw [startedName, hcontinues, if_neg Bool.false_ne_true, Option.isSome_map] at hstarted
        obtain ⟨a, ha⟩ := Option.isSome_iff_exists.mp hstarted
        have hpos := weight_pos_of_lineAttribute ha
        rw [List.flatten_cons, weight_append] at hnothing
        omega
    obtain ⟨hatLeast, hsingle⟩ :=
      length_flatMap_linePieces ((name ++ ':' :: value) :: (rest ++ blank))
    rw [hpieces, hnone, List.append_nil, List.length_cons, List.length_cons, List.length_append,
      hlength] at hatLeast hsingle
    have hempty : blank = [] := List.length_eq_zero_iff.mp (by omega)
    refine ⟨hempty, fun line hline ↦ ?_⟩
    apply not_mem_of_length_linePieces (hlines line hline).1 (hlines line hline).2
    apply hsingle _ line hline
    rw [hempty, List.length_nil]
  · rintro ⟨rfl, hbreaks⟩
    rw [List.append_nil] at hrest hbreaks ⊢
    have hdummy : dummyLines attributes pk ((name ++ ':' :: value) :: rest) =
        (name ++ ':' :: value) :: rest := by
      unfold dummyLines
      rw [flatMap_linePieces_eq_self hbreaks, List.map_cons, dummifyLine_shown hnames hname hhidden,
        map_dummifyLine_continuations hnames hrest]
    obtain ⟨hsaved, hfilter⟩ := saveAttribute_shown hshown (strip value) rest
    refine ⟨_, ?_, hfilter⟩
    rw [hdummy, readLines_block (isContinuationLine_of_name hname value) hrest,
      lineAttribute_of_name hname, Option.map_some, hsaved]

end Blocks

section Attributes

/-- The lines of an attribute in a text, and lines of whitespace after them that continue it. -/
structure AttributeText where
  name : List Char
  value : List Char
  rest : List (List Char)
  blank : List (List Char)
  name_proper : reAttrName name = true
  continued : ∀ line ∈ rest ++ blank, isContinuationLine line = true
  blank_spaces : ∀ line ∈ blank, strip line = []
  proper : ∀ line ∈ (name ++ ':' :: value) :: (rest ++ blank),
    '\n' ∉ line ∧ line.getLast? ≠ some '\r'

namespace AttributeText

variable (r : AttributeText)

/-- The lines without those of whitespace. -/
def kept : List (List Char) := (r.name ++ ':' :: r.value) :: r.rest

/-- All lines. -/
def lines : List (List Char) := (r.name ++ ':' :: r.value) :: (r.rest ++ r.blank)

/-- What is read of the lines without those of whitespace. -/
def attributes (c : RPSLObjectClass) : List Attribute :=
  saveAttribute c [] (some ((⟨r.name, strip r.value, []⟩ : Attribute).continued r.rest))

end AttributeText

/-- The lines of an attribute in a text survive dummifying: those of an attribute that is shown have
no line breaks, and those of another one have pieces that continue it, or begin another one that is
dummified or discarded. -/
def KeepsLines (c : RPSLObjectClass) (attributes : List (String × String))
    (block : List (List Char)) : Prop :=
  if block.head?.any (startsShown c attributes) then ∀ line ∈ block, ∀ ch ∈ line, ch ∉ lineBreaks
  else ∀ piece ∈ (block.flatMap linePieces).tail,
    isContinuationLine piece = true ∨ startsHidden c attributes piece = true

instance (c : RPSLObjectClass) (attributes : List (String × String)) (block : List (List Char)) :
    Decidable (KeepsLines c attributes block) :=
  decidable_of_iff ((if block.head?.any (startsShown c attributes) then
      block.all (fun line ↦ line.all (· ∉ lineBreaks))
    else (block.flatMap linePieces).tail.all (fun piece ↦
      isContinuationLine piece || startsHidden c attributes piece)) = true)
    (by unfold KeepsLines; split <;> simp)

variable {c : RPSLObjectClass} {attributes : List (String × String)} {pk : List Char}
  {r : AttributeText} {rs : List AttributeText} {data : List Attribute}

theorem startsShown_lines : r.lines.head?.any (startsShown c attributes) =
    isShown c attributes r.name := by
  unfold AttributeText.lines
  rw [List.head?_cons, Option.any_some, startsShown, startedName_of_name r.name_proper]
  rfl

theorem readLines_kept : readLines c [] none r.kept = some (r.attributes c) := by
  unfold AttributeText.kept
  rw [readLines_block (isContinuationLine_of_name r.name_proper _)
    (fun line hline ↦ r.continued line (List.mem_append_left _ hline)),
    lineAttribute_of_name r.name_proper]
  rfl

/-- The first piece of an attribute begins it. -/
theorem exists_linePieces_lines (r : AttributeText) : ∃ value others,
    r.lines.flatMap linePieces = (r.name ++ ':' :: value) :: others := by
  obtain ⟨value, others, hfirst⟩ := exists_linePieces_name r.name_proper r.value
  unfold AttributeText.lines
  exact ⟨value, others ++ (r.rest ++ r.blank).flatMap linePieces, by
    rw [List.flatMap_cons, hfirst, List.cons_append]⟩

theorem startsShown_continuation {line : List Char} (hline : isContinuationLine line = true) :
    startsShown c attributes line = false := by
  rw [startsShown, startedName, if_pos hline]
  rfl

/-- One line of an attribute that is shown begins one. -/
theorem countP_kept : r.kept.countP (startsShown c attributes) =
    if isShown c attributes r.name then 1 else 0 := by
  have hrest : r.rest.countP (startsShown c attributes) = 0 := by
    apply List.countP_eq_zero.mpr
    intro line hline
    rw [startsShown_continuation (r.continued line (List.mem_append_left _ hline))]
    exact Bool.false_ne_true
  unfold AttributeText.kept
  rw [List.countP_cons, hrest, startsShown, startedName_of_name r.name_proper, Nat.zero_add]
  rfl

/-- No fewer attributes are shown after dummifying. -/
theorem countP_kept_le (c : RPSLObjectClass) (pk : List Char) (r : AttributeText)
    (hnames : AttributeNames attributes) :
    r.kept.countP (startsShown c attributes) ≤
      (dummyLines attributes pk r.lines).countP (startsShown c attributes) := by
  obtain ⟨value, others, hpieces⟩ := exists_linePieces_lines r
  have hfirst : startsShown c attributes (dummifyLine attributes pk (r.name ++ ':' :: value)) =
      isShown c attributes r.name := by
    rw [startsShown, startedName_dummifyLine hnames, startedName_of_name r.name_proper]
    rfl
  unfold dummyLines
  rw [countP_kept, hpieces, List.map_cons, List.countP_cons, hfirst]
  omega

/-- What is shown of an attribute stays as it is, without others, exactly where its lines survive
dummifying. -/
theorem readLines_dummyLines_lines_iff (hnames : AttributeNames attributes) :
    (∃ data, readLines c [] none (dummyLines attributes pk r.lines) = some data ∧
      shownAttributes attributes data = shownAttributes attributes (r.attributes c)) ↔
    KeepsLines c attributes r.lines ∧ (isShown c attributes r.name = true → r.blank = []) := by
  unfold KeepsLines
  rw [startsShown_lines]
  cases hshown : isShown c attributes r.name with
  | true =>
    obtain ⟨hsaved, hfilter⟩ := saveAttribute_shown hshown (strip r.value) r.rest
    have hread : (∃ data, readLines c [] none (dummyLines attributes pk r.lines) = some data ∧ _) ↔
        _ := readLines_shownBlock_iff hnames r.name_proper hshown r.continued
          r.blank_spaces r.proper
    rw [AttributeText.attributes, hsaved, hfilter]
    refine hread.trans ?_
    simp only [if_true, forall_const]
    exact and_comm
  | false =>
    have hnone : shownAttributes attributes (r.attributes c) = [] := by
      rw [← List.length_eq_zero_iff, length_shownAttributes readLines_kept, countP_kept, hshown]
      rfl
    obtain ⟨value, others, hpieces⟩ := exists_linePieces_lines r
    have hline (line : List Char) : (isContinuationLine (dummifyLine attributes pk line) = true ∨
        startsHidden c attributes (dummifyLine attributes pk line) = true) ↔
          (isContinuationLine line = true ∨ startsHidden c attributes line = true) := by
      unfold startsHidden
      rw [isContinuationLine_dummifyLine, startedName_dummifyLine hnames]
    have hfirst : startsHidden c attributes (r.name ++ ':' :: value) = true := by
      rw [startsHidden, startedName_of_name r.name_proper, Option.any_some, hshown]
      rfl
    unfold dummyLines
    rw [hnone, exists_shownAttributes_eq_nil_iff, List.forall_mem_map, hpieces]
    simp only [hline, List.forall_mem_cons, hfirst, or_true, true_and, List.tail_cons,
      Bool.false_eq_true, if_false, false_implies, and_true]

/-- Attributes of a text are dummified one after the other. -/
theorem readLines_dummyLines_cons :
    readLines c [] none (dummyLines attributes pk ((r :: rs).flatMap AttributeText.lines)) =
      (readLines c [] none (dummyLines attributes pk r.lines)).bind (fun data ↦
        (readLines c [] none (dummyLines attributes pk (rs.flatMap AttributeText.lines))).map
          (data ++ ·)) := by
  rw [List.flatMap_cons, dummyLines_append]
  apply readLines_append
  intro line hline
  cases rs with
  | nil => cases hline
  | cons r rs =>
    obtain ⟨value, others, hpieces⟩ := exists_linePieces_lines r
    unfold dummyLines at hline
    rw [List.flatMap_cons, List.flatMap_append, hpieces] at hline
    cases hline
    rw [isContinuationLine_dummifyLine]
    exact isContinuationLine_of_name r.name_proper value

theorem length_shownAttributes_le (hnames : AttributeNames attributes)
    (hdata : readLines c [] none (dummyLines attributes pk (rs.flatMap AttributeText.lines)) =
      some data) :
    (shownAttributes attributes (rs.flatMap (fun r ↦ r.attributes c))).length ≤
      (shownAttributes attributes data).length := by
  induction rs generalizing data with
  | nil => exact Nat.zero_le _
  | cons r rs ih =>
    rw [readLines_dummyLines_cons] at hdata
    obtain ⟨first, hfirst, hdata⟩ := Option.bind_eq_some_iff.mp hdata
    obtain ⟨others, hothers, rfl⟩ := Option.map_eq_some_iff.mp hdata
    have hle := countP_kept_le c pk r hnames
    rw [← length_shownAttributes readLines_kept, ← length_shownAttributes hfirst] at hle
    have hrest := ih hothers
    rw [List.flatMap_cons, shownAttributes_append, shownAttributes_append, List.length_append,
      List.length_append]
    omega

/-- What is shown of several attributes stays as it is, without others, exactly where the lines of
each of them survive dummifying. -/
theorem readLines_dummyLines_iff (hnames : AttributeNames attributes) :
    (∃ data, readLines c [] none (dummyLines attributes pk (rs.flatMap AttributeText.lines)) =
        some data ∧
      shownAttributes attributes data =
        shownAttributes attributes (rs.flatMap (fun r ↦ r.attributes c))) ↔
    ∀ r ∈ rs, KeepsLines c attributes r.lines ∧
      (isShown c attributes r.name = true → r.blank = []) := by
  induction rs with
  | nil => exact iff_of_true ⟨[], rfl, rfl⟩ (by simp)
  | cons r rs ih =>
    rw [List.forall_mem_cons, ← ih, ← @readLines_dummyLines_lines_iff c attributes pk r hnames,
      readLines_dummyLines_cons]
    constructor
    · rintro ⟨data, hdata, hsame⟩
      obtain ⟨first, hfirst, hdata⟩ := Option.bind_eq_some_iff.mp hdata
      obtain ⟨others, hothers, rfl⟩ := Option.map_eq_some_iff.mp hdata
      -- Neither part shows fewer attributes, so they show as many each.
      have hle := countP_kept_le c pk r hnames
      rw [← length_shownAttributes readLines_kept, ← length_shownAttributes hfirst] at hle
      have hrest := length_shownAttributes_le hnames hothers
      rw [List.flatMap_cons, shownAttributes_append, shownAttributes_append] at hsame
      have hlength := congrArg List.length hsame
      rw [List.length_append, List.length_append] at hlength
      obtain ⟨hfirstSame, hothersSame⟩ := List.append_inj hsame (by omega)
      exact ⟨⟨first, hfirst, hfirstSame⟩, others, hothers, hothersSame⟩
    · rintro ⟨⟨first, hfirst, hfirstSame⟩, others, hothers, hothersSame⟩
      refine ⟨first ++ others, ?_, ?_⟩
      · rw [hfirst, Option.bind_some, hothers]
        rfl
      · rw [List.flatMap_cons, shownAttributes_append, shownAttributes_append, hfirstSame,
          hothersSame]

/-- What is read of several attributes. -/
theorem readLines_flatMap_kept (rs : List AttributeText) :
    readLines c [] none (rs.flatMap AttributeText.kept) =
      some (rs.flatMap (fun r ↦ r.attributes c)) := by
  have hhead (r : AttributeText) : ∀ line ∈ r.kept.head?, isContinuationLine line = false := by
    intro line hline
    cases hline
    exact isContinuationLine_of_name r.name_proper r.value
  induction rs with
  | nil => rfl
  | cons r rs ih =>
    rw [List.flatMap_cons, List.flatMap_cons, readLines_append, readLines_kept, ih]
    · rfl
    · intro line hline
      cases rs with
      | nil => cases hline
      | cons r rs => exact hhead r line hline

/-- The blocks of several attributes are their lines. -/
theorem attributeBlocks_flatMap_lines (rs : List AttributeText) :
    attributeBlocks (rs.flatMap AttributeText.lines) = rs.map AttributeText.lines := by
  apply List.splitBy_eq_iff.mpr
  refine ⟨List.flatMap_def, ?_, ?_, ?_⟩
  · intro h
    obtain ⟨r, -, hr⟩ := List.mem_map.mp h
    cases hr
  · intro block hblock
    obtain ⟨r, -, rfl⟩ := List.mem_map.mp hblock
    have hcontinued := r.continued
    unfold AttributeText.lines
    generalize r.name ++ ':' :: r.value = first
    generalize r.rest ++ r.blank = lines at hcontinued
    induction lines generalizing first with
    | nil => exact List.isChain_singleton _
    | cons line lines ih =>
      obtain ⟨hline, hothers⟩ := List.forall_mem_cons.mp hcontinued
      exact List.isChain_cons_cons.mpr ⟨hline, ih line hothers⟩
  · apply (List.isChain_map _).mpr
    apply List.Pairwise.isChain
    apply List.pairwise_of_forall
    intro r r'
    exact ⟨List.cons_ne_nil _ _, List.cons_ne_nil _ _,
      isContinuationLine_of_name r'.name_proper r'.value⟩

end Attributes

section Rendered

variable {line core back : List Char} {lines : List (List Char)}

/-- A line of rendered text: it begins an attribute, or continues one. -/
structure RenderedLine (line : List Char) : Prop where
  newline : '\n' ∉ line
  carriageReturn : line.getLast? ≠ some '\r'
  starts : isContinuationLine line = true ∨
    ∃ name value, reAttrName name = true ∧ line = name ++ ':' :: value

/-- Lines of rendered text are those of attributes. -/
theorem exists_attributeTexts (hlines : ∀ line ∈ lines, RenderedLine line)
    (hfirst : ∀ line ∈ lines.head?, isContinuationLine line = false) :
    ∃ rs : List AttributeText, rs.flatMap AttributeText.lines = lines ∧
      ∀ r ∈ rs, r.blank = [] := by
  have hparts : ∃ (continued : List (List Char)) (rs : List AttributeText),
      lines = continued ++ rs.flatMap AttributeText.lines ∧
        (∀ line ∈ continued, isContinuationLine line = true) ∧ ∀ r ∈ rs, r.blank = [] := by
    clear hfirst
    induction lines with
    | nil => exact ⟨[], [], rfl, by simp, by simp⟩
    | cons line lines ih =>
      obtain ⟨hline, hothers⟩ := List.forall_mem_cons.mp hlines
      obtain ⟨continued, rs, rfl, hcontinued, hrs⟩ := ih hothers
      rcases hline.starts with hstarts | ⟨name, value, hname, rfl⟩
      · exact ⟨line :: continued, rs, rfl, List.forall_mem_cons.mpr ⟨hstarts, hcontinued⟩, hrs⟩
      · refine ⟨[], ⟨name, value, continued, [], hname, ?_, by simp, ?_⟩ :: rs, ?_, by simp, ?_⟩
        · rwa [List.append_nil]
        · rw [List.append_nil]
          intro line hmem
          have hmem' : line ∈ (name ++ ':' :: value) ::
              (continued ++ rs.flatMap AttributeText.lines) := by
            rw [← List.cons_append]
            exact List.mem_append_left _ hmem
          exact ⟨(hlines line hmem').newline, (hlines line hmem').carriageReturn⟩
        · simp [AttributeText.lines]
        · exact List.forall_mem_cons.mpr ⟨rfl, hrs⟩
  obtain ⟨continued, rs, rfl, hcontinued, hrs⟩ := hparts
  cases continued with
  | nil => exact ⟨rs, rfl, hrs⟩
  | cons line continued =>
    exact absurd ((hcontinued line List.mem_cons_self).symm.trans (hfirst line rfl)) (by decide)

/-- A line of rendered text stays one without whitespace at its end. -/
theorem RenderedLine.of_append (hline : RenderedLine (core ++ back))
    (hback : ∀ ch ∈ back, ch ∈ whitespace) (hcore : core ≠ [])
    (hlast : ∀ ch ∈ core.getLast?, ch ∉ whitespace) : RenderedLine core := by
  refine ⟨fun h ↦ hline.newline (List.mem_append_left _ h), fun h ↦ ?_, ?_⟩
  · exact hlast '\r' h (by decide)
  · rcases hline.starts with hcontinues | ⟨name, value, hname, htext⟩
    · cases core with
      | nil => exact absurd rfl hcore
      | cons ch core => exact .inl hcontinues
    · right
      have hcolon : ':' ∉ back := fun h ↦ absurd (hback ':' h) (by decide)
      rcases List.append_eq_append_iff.mp htext with ⟨rest, rfl, hrest⟩ | ⟨rest, rfl, hrest⟩
      · exact absurd (by rw [hrest]; simp) hcolon
      · cases rest with
        | nil =>
          rw [List.nil_append] at hrest
          exact absurd (by rw [← hrest]; simp) hcolon
        | cons ch rest =>
          obtain ⟨rfl, -⟩ := List.cons.inj hrest
          exact ⟨name, rest, hname, rfl⟩

/-- The lines of rendered text. -/
theorem renderedLine_of_proper {obj : ParsedObject} (hobj : obj.ProperAttributes) :
    (∀ line ∈ obj.objectData.flatMap attributeLines, RenderedLine line) ∧
      ∀ line ∈ (obj.objectData.flatMap attributeLines).head?, isContinuationLine line = false := by
  unfold ParsedObject.ProperAttributes at hobj
  generalize obj.objectData = data at hobj
  constructor
  · intro line hline
    obtain ⟨a, ha, hline⟩ := List.mem_flatMap.mp hline
    obtain ⟨hnewline, hreturn⟩ := mem_attributeLines (hobj a ha) hline
    obtain ⟨first, rest, hlines, hrest⟩ := attributeLines_spec (hobj a ha)
    refine ⟨hnewline, hreturn, ?_⟩
    rw [hlines] at hline
    rcases List.mem_cons.mp hline with rfl | hline
    · exact .inr ⟨a.name, first, (hobj a ha).name, rfl⟩
    · obtain ⟨ch, text, rfl, hch⟩ := hrest line hline
      exact .inl hch
  · cases data with
    | nil => simp
    | cons a data =>
      obtain ⟨first, rest, hlines, -⟩ := attributeLines_spec (hobj a List.mem_cons_self)
      rw [List.flatMap_cons, hlines]
      rintro line ⟨⟩
      exact isContinuationLine_of_name (hobj a List.mem_cons_self).name first

/-- The lines after the last one that is not only whitespace. -/
theorem exists_trailing_blank (lines : List (List Char)) :
    ∃ kept blank, lines = kept ++ blank ∧ (∀ line ∈ kept.getLast?, strip line ≠ []) ∧
      ∀ line ∈ blank, strip line = [] := by
  induction lines with
  | nil => exact ⟨[], [], rfl, by simp, by simp⟩
  | cons line lines ih =>
    obtain ⟨kept, blank, rfl, hkept, hblank⟩ := ih
    cases kept with
    | cons line' kept => exact ⟨line :: line' :: kept, blank, rfl, hkept, hblank⟩
    | nil =>
      by_cases hline : strip line = []
      · exact ⟨[], line :: blank, rfl, by simp, List.forall_mem_cons.mpr ⟨hline, hblank⟩⟩
      · refine ⟨[line], blank, rfl, ?_, hblank⟩
        rintro _ ⟨⟩
        exact hline

/-- A line that begins with a name is not only whitespace. -/
theorem strip_of_name {name : List Char} (value : List Char) :
    strip (name ++ ':' :: value) ≠ [] := by
  intro h
  have hcolon := mem_whitespace_of_strip h ':' (by simp)
  exact absurd hcolon (by decide)

/-- Lines of rendered text are those of attributes, with those of whitespace at their end apart. -/
theorem exists_attributeTexts_trailing (hlines : ∀ line ∈ lines, RenderedLine line)
    (hfirst : ∀ line ∈ lines.head?, isContinuationLine line = false) (hne : lines ≠ []) :
    ∃ (init : List AttributeText) (r : AttributeText),
      (init ++ [r]).flatMap AttributeText.lines = lines ∧ (∀ r ∈ init, r.blank = []) ∧
        ∀ line ∈ r.kept.getLast?, strip line ≠ [] := by
  obtain ⟨rs, rfl, hrs⟩ := exists_attributeTexts hlines hfirst
  have hrsne : rs ≠ [] := by
    rintro rfl
    exact hne rfl
  obtain ⟨init, r, rfl⟩ : ∃ init r, rs = init ++ [r] :=
    ⟨rs.dropLast, rs.getLast hrsne, (List.dropLast_append_getLast hrsne).symm⟩
  have hempty : r.blank = [] := hrs r (by simp)
  obtain ⟨rest, blank, hrest, hlast, hblank⟩ := exists_trailing_blank r.rest
  have hsame : rest ++ blank = r.rest ++ r.blank := by rw [hempty, List.append_nil, hrest]
  refine ⟨init, ⟨r.name, r.value, rest, blank, r.name_proper, hsame ▸ r.continued, hblank,
    hsame ▸ r.proper⟩, ?_, fun r hr ↦ hrs r (List.mem_append_left _ hr), ?_⟩
  · rw [List.flatMap_append, List.flatMap_append, List.flatMap_singleton, List.flatMap_singleton]
    unfold AttributeText.lines
    dsimp only
    rw [hsame]
  · intro line hline
    unfold AttributeText.kept at hline
    dsimp only at hline
    cases rest with
    | nil =>
      cases hline
      exact strip_of_name r.value
    | cons line' rest =>
      rw [List.getLast?_cons_cons] at hline
      exact hlast line hline

/-- A line of rendered text does not begin with a carriage return. -/
theorem RenderedLine.head? (hline : RenderedLine line) : line.head? ≠ some '\r' := by
  intro h
  rcases hline.starts with hcontinues | ⟨name, value, hname, rfl⟩
  · unfold isContinuationLine at hcontinues
    rw [h] at hcontinues
    exact absurd hcontinues (by decide)
  · cases name with
    | nil => cases hname
    | cons ch name =>
      cases h
      exact (ProperAttribute.of_mem_name (a := ⟨'\r' :: name, [], []⟩) ⟨hname, by simp⟩
        List.mem_cons_self).2.1 (by decide)

/-- A text begins with no whitespace where its first line begins with a name. -/
theorem head?_newlineTerminated_append {name last : List Char} (value : List Char)
    (hname : reAttrName name = true)
    (hfirst : (lines ++ [last]).head? = some (name ++ ':' :: value)) :
    ∀ ch ∈ (newlineTerminated lines ++ last).head?, ch ∉ whitespace := by
  have hspaces : ∀ ch ∈ whitespace, (ch.isLower || ch.isDigit || ch ∈ ['_', '-']) = false := by
    simp [whitespace, lineBreaks]
  have hhead : (newlineTerminated lines ++ last).head? = (name ++ ':' :: value).head? := by
    cases lines with
    | nil =>
      cases hfirst
      rfl
    | cons line lines =>
      cases hfirst
      rw [newlineTerminated_cons_append]
      cases name <;> rfl
  rw [hhead]
  intro ch hch hspace
  cases name with
  | nil => cases hname
  | cons ch' name =>
    cases hch
    unfold reAttrName at hname
    simp only [Bool.and_eq_true, List.all_eq_true] at hname
    exact Bool.false_ne_true ((hspaces ch hspace).symm.trans (hname.2 ch List.mem_cons_self))

end Rendered

section Texts

variable {c : RPSLObjectClass} {attributes : List (String × String)} {pk remarks : List Char}
  {lines : List (List Char)}

/-- The lines of a text that are read after dummifying: whitespace at its end is left out unless
remarks follow it. -/
def consideredLines (text remarks : List Char) : List (List Char) :=
  splitlineUnicodesafe (if strip remarks = [] then strip text else text)

/-- The attributes of the lines of a text that are read after dummifying. -/
structure ConsideredAs (c : RPSLObjectClass) (text remarks : List Char)
    (init : List AttributeText) (r : AttributeText) : Prop where
  lines : (init ++ [r]).flatMap AttributeText.lines = consideredLines text remarks
  read : readText c text = some ((init ++ [r]).flatMap (fun r ↦ r.attributes c))
  init_blank : ∀ r ∈ init, r.blank = []
  last : ∀ line ∈ r.kept.getLast?, strip line ≠ []
  blank : strip remarks = [] → r.blank = []

/-- The lines of rendered text, as they are read. -/
structure TextLines (lines front blank : List (List Char)) (core back : List Char) : Prop where
  eq : lines = front ++ (core ++ back) :: blank
  spaces : ∀ ch ∈ back, ch ∈ whitespace
  core_ne : core ≠ []
  core_last : ∀ ch ∈ core.getLast?, ch ∉ whitespace
  blank_spaces : ∀ line ∈ blank, strip line = []
  strip : strip (newlineTerminated lines) = newlineTerminated front ++ core

theorem flatMap_lines_eq {init : List AttributeText} (hinit : ∀ r ∈ init, r.blank = [])
    (r : AttributeText) : (init ++ [r]).flatMap AttributeText.lines =
      (init ++ [r]).flatMap AttributeText.kept ++ r.blank := by
  have hlines (r : AttributeText) : r.lines = r.kept ++ r.blank := rfl
  have hsame : init.flatMap AttributeText.lines = init.flatMap AttributeText.kept := by
    apply List.flatMap_congr
    intro r hr
    rw [hlines, hinit r hr, List.append_nil]
  rw [List.flatMap_append, List.flatMap_append, hsame, List.flatMap_singleton,
    List.flatMap_singleton, hlines, List.append_assoc]

theorem RenderedLine.ne_nil {line : List Char} (hline : RenderedLine line) : line ≠ [] := by
  rintro rfl
  rcases hline.starts with hcontinues | ⟨name, value, -, htext⟩
  · cases hcontinues
  · simp at htext

theorem map_stripChars_rendered (hlines : ∀ line ∈ lines, RenderedLine line) :
    lines.map (stripChars ['\r']) = lines := by
  conv_rhs => rw [← List.map_id lines]
  apply List.map_congr_left
  intro line hline
  apply stripChars_eq_self
  · intro ch hch hmem
    rw [List.mem_singleton.mp hmem] at hch
    exact (hlines line hline).head? hch
  · intro ch hch hmem
    rw [List.mem_singleton.mp hmem] at hch
    exact (hlines line hline).carriageReturn hch

theorem splitOn_rendered {front : List (List Char)} {last : List Char}
    (hlines : ∀ line ∈ front ++ [last], RenderedLine line) :
    (newlineTerminated front ++ last).splitOn '\n' = front ++ [last] := by
  have hnewline : ∀ line ∈ front ++ [last], '\n' ∉ line := fun line hline ↦
    (hlines line hline).newline
  rw [splitOn_newlineTerminated_append (fun line hline ↦
    hnewline line (List.mem_append_left _ hline)),
    List.splitOn_eq_singleton (hnewline last (by simp))]

/-- The lines of rendered text as they are read, where remarks follow it. -/
theorem splitlineUnicodesafe_rendered (hlines : ∀ line ∈ lines, RenderedLine line) :
    splitlineUnicodesafe (newlineTerminated lines) = lines := by
  rcases List.eq_nil_or_concat' lines with rfl | ⟨front, last, rfl⟩
  · rfl
  have hlast : RenderedLine last := hlines last (by simp)
  have hstripped : stripChars ['\n'] (newlineTerminated (front ++ [last])) =
      newlineTerminated front ++ last := by
    have htext : newlineTerminated (front ++ [last]) =
        (newlineTerminated front ++ last) ++ ['\n'] := by simp
    rw [htext, stripChars_append_right (by simp)]
    apply stripChars_eq_self
    · intro ch hch hmem
      rw [List.mem_singleton.mp hmem] at hch
      cases front with
      | nil => exact hlast.newline (List.mem_of_mem_head? hch)
      | cons line front =>
        have hline : RenderedLine line := hlines line (by simp)
        rw [newlineTerminated_cons_append] at hch
        cases line with
        | nil => exact hline.ne_nil rfl
        | cons ch' line => exact hline.newline (List.mem_of_mem_head? hch)
    · intro ch hch hmem
      rw [List.mem_singleton.mp hmem, List.getLast?_append_of_ne_nil _ hlast.ne_nil] at hch
      exact hlast.newline (List.mem_of_getLast? hch)
  unfold splitlineUnicodesafe
  rw [hstripped, splitOn_rendered hlines, map_stripChars_rendered hlines, if_neg (by simp)]

/-- The first line of rendered text begins with a name. -/
theorem exists_first_name (hlines : ∀ line ∈ lines, RenderedLine line)
    (hfirst : ∀ line ∈ lines.head?, isContinuationLine line = false) (hne : lines ≠ []) :
    ∃ name value, reAttrName name = true ∧ lines.head? = some (name ++ ':' :: value) := by
  cases lines with
  | nil => exact absurd rfl hne
  | cons line lines =>
    rcases (hlines line List.mem_cons_self).starts with hcontinues | ⟨name, value, hname, rfl⟩
    · rw [hfirst line rfl] at hcontinues
      cases hcontinues
    · exact ⟨name, value, hname, rfl⟩

/-- The lines of rendered text, up to the last one that is not only whitespace. -/
theorem exists_textLines (hlines : ∀ line ∈ lines, RenderedLine line)
    (hfirst : ∀ line ∈ lines.head?, isContinuationLine line = false) (hne : lines ≠ []) :
    ∃ front blank core back, TextLines lines front blank core back := by
  obtain ⟨kept, blank, rfl, hlast, hblank⟩ := exists_trailing_blank lines
  obtain ⟨name, value, hname, hhead⟩ := exists_first_name hlines hfirst hne
  rcases List.eq_nil_or_concat' kept with rfl | ⟨front, last, rfl⟩
  · have hmem := List.mem_of_mem_head? hhead
    exact absurd (hblank _ hmem) (strip_of_name value)
  have hhead' : (front ++ [last]).head? = some (name ++ ':' :: value) := by
    rw [← hhead, List.head?_append (l := front ++ [last])]
    cases front <;> rfl
  have hlast' : strip last ≠ [] := hlast last (by simp)
  obtain ⟨core, back, rfl, hback, hcore, hend, hstrip⟩ := exists_strip_newlineTerminated
    (head?_newlineTerminated_append value hname hhead') hlast' hblank
  exact ⟨front, blank, core, back, by simp, hback, hcore, hend, hblank, by simpa using hstrip⟩

theorem TextLines.rendered {front blank : List (List Char)} {core back : List Char}
    (htext : TextLines lines front blank core back)
    (hlines : ∀ line ∈ lines, RenderedLine line)
    (hfirst : ∀ line ∈ lines.head?, isContinuationLine line = false) :
    (∀ line ∈ front ++ [core], RenderedLine line) ∧
      ∀ line ∈ (front ++ [core]).head?, isContinuationLine line = false := by
  obtain ⟨rfl, hspaces, hcore, hlast, -, -⟩ := htext
  constructor
  · intro line hline
    rcases List.mem_append.mp hline with hline | hline
    · exact hlines line (List.mem_append_left _ hline)
    · rw [List.mem_singleton.mp hline]
      exact (hlines (core ++ back) (by simp)).of_append hspaces hcore hlast
  · cases front with
    | cons line front => exact hfirst
    | nil =>
      rintro _ ⟨⟩
      have hcontinues := hfirst (core ++ back) rfl
      cases core with
      | nil => exact absurd rfl hcore
      | cons ch core => exact hcontinues

/-- The lines that are read after dummifying, where no remarks follow. -/
theorem TextLines.consideredLines {front blank : List (List Char)} {core back : List Char}
    (htext : TextLines lines front blank core back)
    (hrendered : ∀ line ∈ front ++ [core], RenderedLine line)
    (hremarks : Utils.strip remarks = []) :
    consideredLines (newlineTerminated lines) remarks = front ++ [core] := by
  rw [Mirroring.consideredLines, if_pos hremarks, splitlineUnicodesafe_strip, htext.strip,
    splitOn_rendered hrendered, map_stripChars_rendered hrendered]
  rw [htext.strip]
  exact fun h ↦ htext.core_ne (List.append_eq_nil_iff.mp h).2

/-- The lines of rendered text, as they are read after dummifying and as they are read before. -/
theorem exists_consideredAs (c : RPSLObjectClass) (hlines : ∀ line ∈ lines, RenderedLine line)
    (hfirst : ∀ line ∈ lines.head?, isContinuationLine line = false) (hne : lines ≠ [])
    (remarks : List Char) :
    ∃ init r, ConsideredAs c (newlineTerminated lines) remarks init r := by
  by_cases hremarks : strip remarks = []
  · obtain ⟨front, blank, core, back, htext⟩ := exists_textLines hlines hfirst hne
    obtain ⟨hrendered, hhead⟩ := htext.rendered hlines hfirst
    obtain ⟨init, r, hparts, hinit, hlast⟩ :=
      exists_attributeTexts_trailing hrendered hhead (by simp)
    have hconsidered := htext.consideredLines hrendered hremarks
    have hread : splitlineUnicodesafe (strip (newlineTerminated lines)) = front ++ [core] := by
      rw [← hconsidered, consideredLines, if_pos hremarks]
    have hblank : r.blank = [] := by
      rcases List.eq_nil_or_concat' r.blank with hempty | ⟨others, last, hconcat⟩
      · exact hempty
      · exfalso
        have hspaces := r.blank_spaces last (by rw [hconcat]; simp)
        rw [flatMap_lines_eq hinit, hconcat, ← List.append_assoc] at hparts
        have hcore : last = core := List.singleton_inj.mp (List.append_inj' hparts rfl).2
        rw [hcore] at hspaces
        cases hend : core.getLast? with
        | none => exact htext.core_ne (List.getLast?_eq_none_iff.mp hend)
        | some ch =>
          exact htext.core_last ch hend
            (mem_whitespace_of_strip hspaces ch (List.mem_of_getLast? hend))
    refine ⟨init, r, ?_, ?_, hinit, hlast, fun _ ↦ hblank⟩
    · rw [hparts, hconsidered]
    · rw [readText, hread, ← hparts, flatMap_lines_eq hinit, hblank, List.append_nil,
        readLines_flatMap_kept]
  · obtain ⟨init, r, hparts, hinit, hlast⟩ := exists_attributeTexts_trailing hlines hfirst hne
    refine ⟨init, r, ?_, ?_, hinit, hlast, fun h ↦ absurd h hremarks⟩
    · rw [hparts, consideredLines, if_neg hremarks, splitlineUnicodesafe_rendered hlines]
    · obtain ⟨front, last, hkept⟩ : ∃ front last, r.kept = front ++ [last] :=
        ⟨r.kept.dropLast, r.kept.getLast (List.cons_ne_nil _ _),
          (List.dropLast_append_getLast _).symm⟩
      have hall : lines = (init.flatMap AttributeText.kept ++ front) ++ last :: r.blank := by
        rw [← hparts, flatMap_lines_eq hinit, List.flatMap_append, List.flatMap_singleton, hkept]
        simp
      have hkeptLines : (init.flatMap AttributeText.kept ++ front) ++ [last] =
          (init ++ [r]).flatMap AttributeText.kept := by
        rw [List.flatMap_append, List.flatMap_singleton, hkept, List.append_assoc]
      obtain ⟨name, value, hname, hhead⟩ := exists_first_name hlines hfirst hne
      rw [hall]
      rw [readText_newlineTerminated, hkeptLines, readLines_flatMap_kept]
      · intro line hline
        have hmem : line ∈ lines := by
          rw [hall]
          rcases List.mem_append.mp hline with hline | hline
          · exact List.mem_append_left _ hline
          · rw [List.mem_singleton.mp hline]
            simp
        exact ⟨(hlines line hmem).newline, (hlines line hmem).head?⟩
      · apply head?_newlineTerminated_append value hname
        rw [← hhead, hall]
        cases init.flatMap AttributeText.kept ++ front <;> rfl
      · exact hlast last (by rw [hkept]; simp)
      · exact r.blank_spaces

/-- Dummifying leaves lines of whitespace, and makes no others. -/
theorem strip_dummifyLine_eq_nil_iff {line : List Char} :
    strip (dummifyLine attributes pk line) = [] ↔ strip line = [] := by
  cases h : hiddenBy attributes line with
  | none => rw [dummifyLine_of_none h]
  | some e =>
    obtain ⟨value, hvalue⟩ := exists_value_of_lineStart (hiddenBy_eq_some h).2
    obtain ⟨value', hvalue'⟩ := exists_value_dummifyLine pk h
    rw [hvalue', hvalue]
    exact iff_of_false (strip_of_name value') (strip_of_name value)

/-- A line that begins with a name does so after dummifying. -/
theorem exists_dummifyLine_name (pk : List Char) (hnames : AttributeNames attributes)
    {name : List Char} (hname : reAttrName name = true) (value : List Char) :
    ∃ value', dummifyLine attributes pk (name ++ ':' :: value) = name ++ ':' :: value' := by
  cases h : hiddenBy attributes (name ++ ':' :: value) with
  | none => exact ⟨value, dummifyLine_of_none h⟩
  | some e =>
    obtain ⟨he, hstart⟩ := hiddenBy_eq_some h
    obtain ⟨rest, hrest⟩ := exists_value_of_lineStart hstart
    obtain ⟨value', hvalue'⟩ := exists_value_dummifyLine pk h
    have hcolon : ':' ∉ name := fun hmem ↦
      (ProperAttribute.of_mem_name (a := ⟨name, [], []⟩) ⟨hname, by simp⟩ hmem).2.2 rfl
    obtain ⟨rfl, -⟩ := append_separator_inj hcolon (hnames.proper e he) hrest
    exact ⟨value', hvalue'⟩

/-- Dummifying makes lines of pieces, if dummy values have no newlines. -/
theorem mem_dummyLines (lines : List (List Char)) (hnames : AttributeNames attributes)
    (hvalues : ∀ e ∈ attributes, '\n' ∉ replacePk pk e.2.toList) {line : List Char}
    (hline : line ∈ dummyLines attributes pk lines) : '\n' ∉ line ∧ line.head? ≠ some '\r' := by
  obtain ⟨piece, hpiece, rfl⟩ := List.mem_map.mp hline
  obtain ⟨line, -, hpiece⟩ := List.mem_flatMap.mp hpiece
  have hbreak {ch : Char} (hch : ch ∈ lineBreaks) : ch ∉ piece :=
    not_mem_of_mem_splitlines hpiece hch
  constructor
  · rw [dummifyLine_eq]
    cases h : hiddenBy attributes piece with
    | none => exact hbreak (by decide)
    | some e =>
      obtain ⟨he, -⟩ := hiddenBy_eq_some h
      have hname : '\n' ∉ e.1.toList := fun hmem ↦
        (ProperAttribute.of_mem_name (a := ⟨e.1.toList, [], []⟩) ⟨hnames e he, by simp⟩ hmem).2.1
          (by decide)
      have hvalue := hvalues e he
      simp [lineStart, ljust, hname, hvalue]
  · rw [head?_dummifyLine]
    exact fun h ↦ hbreak (by decide) (List.mem_of_mem_head? h)

/-- Dummified text begins with the same name as the original one. -/
theorem exists_first_dummyLine (pk : List Char) (hnames : AttributeNames attributes)
    (hlines : ∀ line ∈ lines, RenderedLine line)
    (hfirst : ∀ line ∈ lines.head?, isContinuationLine line = false) (hne : lines ≠ []) :
    ∃ name value value', reAttrName name = true ∧ lines.head? = some (name ++ ':' :: value) ∧
      (dummyLines attributes pk lines).head? = some (name ++ ':' :: value') := by
  obtain ⟨name, value, hname, hhead⟩ := exists_first_name hlines hfirst hne
  cases lines with
  | nil => exact absurd rfl hne
  | cons line lines =>
    cases hhead
    obtain ⟨value', others, hpieces⟩ := exists_linePieces_name hname value
    obtain ⟨value'', hdummy⟩ := exists_dummifyLine_name pk hnames hname value'
    refine ⟨name, value, value'', hname, rfl, ?_⟩
    unfold dummyLines
    rw [List.flatMap_cons, hpieces, List.cons_append, List.map_cons, List.head?_cons, hdummy]

/-- Whitespace at the end of a line does not matter for what is read of it after dummifying. -/
theorem readsAlike_dummifyLine_append (hnames : AttributeNames attributes) {line back : List Char}
    (hback : ∀ ch ∈ back, ch ∈ whitespace) (hline : line ≠ []) :
    ReadsAlike c (dummifyLine attributes pk (line ++ back)) (dummifyLine attributes pk line) := by
  cases h : hiddenBy attributes line with
  | some e =>
    obtain ⟨he, hstart⟩ := hiddenBy_eq_some h
    rw [dummifyLine_congr hnames.proper he (hstart.trans (List.prefix_append _ _)) hstart]
    exact .refl c _
  | none =>
    have hnone : hiddenBy attributes (line ++ back) = none := by
      apply hiddenBy_eq_none_iff.mpr
      intro e he hstart
      rcases List.prefix_or_prefix_of_prefix hstart (List.prefix_append line back) with h' | h'
      · exact hiddenBy_eq_none_iff.mp h e he h'
      · obtain ⟨rest, hrest⟩ := h'
        rw [← hrest, List.prefix_append_right_inj] at hstart
        -- What is left of the name ends in a colon, which is no whitespace.
        cases hend : rest.getLast? with
        | none =>
          rw [List.getLast?_eq_none_iff.mp hend, List.append_nil] at hrest
          exact hiddenBy_eq_none_iff.mp h e he (hrest ▸ List.prefix_rfl)
        | some ch =>
          have hcolon := congrArg List.getLast? hrest
          rw [lineStart, List.getLast?_concat, List.getLast?_append, hend] at hcolon
          cases hcolon
          have hmem := hstart.mem (List.mem_of_getLast? hend)
          exact absurd (hback ':' hmem) (by decide)
    rw [dummifyLine_of_none hnone, dummifyLine_of_none h]
    exact readsAlike_append hback hline

/-- The pieces of lines of whitespace are whitespace. -/
theorem strip_flatMap_linePieces {blank : List (List Char)}
    (hblank : ∀ line ∈ blank, strip line = []) :
    ∀ piece ∈ blank.flatMap linePieces, strip piece = [] := by
  intro piece hpiece
  obtain ⟨line, hline, hpiece⟩ := List.mem_flatMap.mp hpiece
  apply strip_eq_nil
  intro ch hch
  exact mem_whitespace_of_strip (hblank line hline) ch (mem_of_mem_linePieces hpiece hch)

/-- What is read of dummified text, where no remarks follow it. -/
theorem readText_dummyLines (hnames : AttributeNames attributes)
    (hvalues : ∀ e ∈ attributes, '\n' ∉ replacePk pk e.2.toList)
    (hlines : ∀ line ∈ lines, RenderedLine line)
    (hfirst : ∀ line ∈ lines.head?, isContinuationLine line = false) (hne : lines ≠ [])
    (hremarks : strip remarks = []) :
    readText c (newlineTerminated (dummyLines attributes pk lines)) =
      readLines c [] none
        (dummyLines attributes pk (consideredLines (newlineTerminated lines) remarks)) := by
  obtain ⟨front, blank, core, back, htext⟩ := exists_textLines hlines hfirst hne
  obtain ⟨hrendered, hhead⟩ := htext.rendered hlines hfirst
  obtain ⟨pieces, last, spaces, others, hcore, hwhole, hlast, hend, hspaces, hothers⟩ :=
    exists_linePieces_append_whitespace htext.core_ne htext.core_last htext.spaces
  have hdummy : dummyLines attributes pk lines =
      (front.flatMap linePieces ++ pieces).map (dummifyLine attributes pk) ++
        dummifyLine attributes pk (last ++ spaces) ::
          (others ++ blank.flatMap linePieces).map (dummifyLine attributes pk) := by
    unfold dummyLines
    rw [htext.eq, List.flatMap_append, List.flatMap_cons, hwhole]
    simp
  have hdummyCore : dummyLines attributes pk (front ++ [core]) =
      (front.flatMap linePieces ++ pieces).map (dummifyLine attributes pk) ++
        [dummifyLine attributes pk last] := by
    unfold dummyLines
    rw [List.flatMap_append, List.flatMap_singleton, hcore]
    simp
  have hlastLine : strip (last ++ spaces) ≠ [] := by
    intro h
    refine hend (last.getLast hlast) (List.getLast?_eq_some_getLast hlast) ?_
    exact mem_whitespace_of_strip h _ (List.mem_append_left _ (List.getLast_mem hlast))
  obtain ⟨name, -, value, hname, -, hnameLine⟩ :=
    exists_first_dummyLine pk hnames hlines hfirst hne
  rw [htext.consideredLines hrendered hremarks, hdummyCore, hdummy, readText_newlineTerminated]
  · apply readLines_congr
    apply List.rel_append
    · exact List.forall₂_same.mpr (fun line _ ↦ .refl c line)
    · exact .cons (readsAlike_dummifyLine_append hnames hspaces hlast) .nil
  · intro line hline
    apply mem_dummyLines lines hnames hvalues
    rw [hdummy]
    rcases List.mem_append.mp hline with hline | hline
    · exact List.mem_append_left _ hline
    · rw [List.mem_singleton.mp hline]
      simp
  · apply head?_newlineTerminated_append value hname
    rw [← hnameLine, hdummy]
    cases (front.flatMap linePieces ++ pieces).map (dummifyLine attributes pk) <;> rfl
  · rwa [Ne, strip_dummifyLine_eq_nil_iff]
  · rw [List.forall_mem_map]
    intro piece hpiece
    rw [strip_dummifyLine_eq_nil_iff]
    rcases List.mem_append.mp hpiece with hpiece | hpiece
    · exact hothers piece hpiece
    · exact strip_flatMap_linePieces htext.blank_spaces piece hpiece

/-- The first line of remarks begins as they do. -/
theorem isContinuationLine_remarks (hhead : remarks.head? = some 'r') :
    ∀ line ∈ (((strip remarks).splitOn '\n').map (stripChars ['\r'])).head?,
      isContinuationLine line = false := by
  cases remarks with
  | nil => cases hhead
  | cons ch remarks =>
    cases hhead
    obtain ⟨text, -, hstrip, -⟩ := @stripChars_cons whitespace 'r' (by decide) remarks
    change strip ('r' :: remarks) = _ at hstrip
    rw [hstrip, List.splitOn_cons_eq_if_modifyHead, if_neg (by decide)]
    cases text.splitOn '\n' with
    | nil => simp
    | cons part parts =>
      rintro line ⟨⟩
      obtain ⟨part', -, hpart, -⟩ := @stripChars_cons ['\r'] 'r' (by decide) part
      rw [hpart]
      rfl

/-- What is read of dummified text, and of the remarks that follow it. -/
theorem readText_dummyLines_append (hnames : AttributeNames attributes)
    (hvalues : ∀ e ∈ attributes, '\n' ∉ replacePk pk e.2.toList)
    (hlines : ∀ line ∈ lines, RenderedLine line)
    (hfirst : ∀ line ∈ lines.head?, isContinuationLine line = false) (hne : lines ≠ [])
    (hremarks : strip remarks ≠ [] → remarks.head? = some 'r') :
    readText c (newlineTerminated (dummyLines attributes pk lines) ++ remarks) =
      (readLines c [] none
        (dummyLines attributes pk (consideredLines (newlineTerminated lines) remarks))).bind
          (fun data ↦ (readText c remarks).map (data ++ ·)) := by
  by_cases hempty : strip remarks = []
  · have hstrip : strip (newlineTerminated (dummyLines attributes pk lines) ++ remarks) =
        strip (newlineTerminated (dummyLines attributes pk lines)) :=
      stripChars_append_right (mem_whitespace_of_strip hempty) _
    have hread : readText c remarks = some [] := by
      rw [readText, hempty]
      rfl
    rw [← readText_dummyLines hnames hvalues hlines hfirst hne hempty, hread]
    unfold readText
    rw [hstrip]
    simp
  · have hhead := hremarks hempty
    obtain ⟨name, -, value, hname, -, hnameLine⟩ :=
      exists_first_dummyLine pk hnames hlines hfirst hne
    have hstart := @head?_newlineTerminated_append (dummyLines attributes pk lines) name [] value
      hname (by rw [List.head?_append, hnameLine]; rfl)
    rw [List.append_nil] at hstart
    have hstrip : strip (newlineTerminated (dummyLines attributes pk lines) ++ remarks) =
        newlineTerminated (dummyLines attributes pk lines) ++ strip remarks := by
      cases remarks with
      | nil => cases hhead
      | cons ch remarks =>
        cases hhead
        exact stripChars_append_cons hstart (by decide) remarks
    have hstripped : strip (newlineTerminated (dummyLines attributes pk lines) ++ remarks) ≠
        [] := by
      rw [hstrip]
      exact fun h ↦ hempty (List.append_eq_nil_iff.mp h).2
    have hmem := fun line ↦ @mem_dummyLines attributes pk lines hnames hvalues line
    unfold readText
    rw [splitlineUnicodesafe_strip hstripped, hstrip,
      splitOn_newlineTerminated_append (fun line hline ↦ (hmem line hline).1), List.map_append,
      readLines_append (isContinuationLine_remarks hhead),
      readLines_stripChars (fun line hline ↦ (hmem line hline).2), consideredLines, if_neg hempty,
      splitlineUnicodesafe_rendered hlines, splitlineUnicodesafe_strip hempty]

end Texts

end Irrd.Mirroring
