import Irrd.Base.Fallible
import Irrd.Mirroring.DummifiedLines
import Irrd.Utils.Indentation
import Mathlib.Data.Bool.AllAny

/-!
# Validity of dummified objects

Where dummified text is still an object, of the same class, primary key and source, and with the
same other attributes. Source: `irrd/utils/text.py`, `irrd/rpsl/parser.py`.
-/

namespace Irrd.Mirroring

open Irrd.Base Irrd.Rpsl Irrd.Utils

section Remarks

/-- A line of remarks begins a remark or continues one. Where its first piece is whitespace, it is
not indented. -/
def IsRemarkLine (line : List Char) : Prop :=
  let text := line.dropWhile (· = '\r')
  strip (text.takeWhile (· ∉ lineBreaks)) ≠ [] ∨ text.head? = some ' ' ∨ text.head? = some '\t'

instance (line : List Char) : Decidable (IsRemarkLine line) := inferInstanceAs (Decidable (_ ∨ _))

/-- All lines of remarks are lines of remarks, apart from whitespace around them. -/
def RemarksReadable (remarks : List Char) : Prop :=
  trimmed remarks = [] ∨ ∀ line ∈ (trimmed remarks).splitOn '\n', IsRemarkLine line

instance (remarks : List Char) : Decidable (RemarksReadable remarks) :=
  inferInstanceAs (Decidable (_ ∨ _))

/-- What remarks are indented with. -/
def remarksStart : List Char := ljust "remarks:".toList rpslAttributeTextWidth

variable {c : RPSLObjectClass} {line remarks : List Char}

theorem remarksStart_eq : remarksStart = "remarks".toList ++ ':' :: List.replicate 8 ' ' := rfl

/-- A line that begins with whitespace begins no attribute, but may continue one. -/
theorem lineAttribute_of_whitespace (hc : c ∈ objectClasses) {ch : Char} (hch : ch ∈ whitespace)
    (text : List Char) : lineAttribute c (ch :: text) = none := by
  unfold lineAttribute
  cases hsplit : splitOnce ':' (ch :: text) with
  | none => rfl
  | some parts =>
    obtain ⟨attr, value⟩ := parts
    obtain ⟨htext, -⟩ := splitOnce_eq_some hsplit
    rw [Option.bind_some]
    dsimp only
    rw [if_neg]
    have hlower : ∀ ch ∈ whitespace, ch.toLower = ch := List.all_iff_forall_prop.mp (by decide)
    have hname : ∀ ch ∈ whitespace, (ch.isLower || ch.isDigit || ch ∈ ['_', '-']) = false :=
      List.all_iff_forall_prop.mp (by decide)
    cases attr with
    | nil =>
      obtain ⟨rfl, -⟩ := List.cons.inj htext
      exact absurd hch (by decide)
    | cons ch' attr =>
      obtain ⟨rfl, -⟩ := List.cons.inj htext
      have hhead : lower (ch :: attr) = ch :: lower attr := by
        unfold lower
        rw [List.map_cons, hlower ch hch]
      rw [hhead]
      have hnone {rest : List Char} (hproper : reAttrName (ch :: rest) = true) : False := by
        unfold reAttrName at hproper
        simp only [Bool.and_eq_true, List.all_cons] at hproper
        exact Bool.false_ne_true ((hname ch hch).symm.trans hproper.2.1)
      rintro (hword | hproper)
      · obtain ⟨name, hmem, heq⟩ := List.any_eq_true.mp hword
        have hallowed := reAttrName_of_allowed c hc name hmem
        rw [of_decide_eq_true heq] at hallowed
        exact hnone hallowed
      · exact hnone hproper

/-- A line of indented remarks, as it is read. -/
theorem indentedLine_cases (hc : c ∈ objectClasses) (hline : '\n' ∉ line) :
    (IsRemarkLine line ∧ (isContinuationLine (stripChars ['\r'] (indent line remarksStart)) = true ∨
      ∃ value, stripChars ['\r'] (indent line remarksStart) = "remarks".toList ++ ':' :: value)) ∨
    (¬ IsRemarkLine line ∧
      isContinuationLine (stripChars ['\r'] (indent line remarksStart)) = false ∧
      lineAttribute c (stripChars ['\r'] (indent line remarksStart)) = none) := by
  rw [stripChars_indent_dropWhile hline]
  unfold IsRemarkLine
  have hhead := List.head?_dropWhile_not (fun ch : Char ↦ decide (ch = '\r')) line
  generalize line.dropWhile (· = '\r') = text at hhead
  dsimp only
  cases text with
  | nil => exact .inr ⟨by decide, rfl, rfl⟩
  | cons ch text =>
    have hreturn : ch ≠ '\r' := of_decide_eq_false hhead
    by_cases hblank : strip ((ch :: text).takeWhile (· ∉ lineBreaks)) = []
    · obtain ⟨rest, hindent⟩ := exists_indent_cons remarksStart hreturn hblank
      obtain ⟨text', -, hread, -⟩ :=
        @stripChars_cons ['\r'] ch (by simpa using hreturn) rest
      have hspace := mem_whitespace_of_blank hblank
      have hplus : ch ≠ '+' := by
        rintro rfl
        exact absurd hspace (by decide)
      rw [hindent, hread]
      by_cases hcontinues : ch = ' ' ∨ ch = '\t'
      · refine .inl ⟨.inr (by simpa using hcontinues), .inl ?_⟩
        rcases hcontinues with rfl | rfl <;> rfl
      · refine .inr ⟨?_, ?_, lineAttribute_of_whitespace hc hspace text'⟩
        · rw [not_or, not_not]
          exact ⟨hblank, by simpa using hcontinues⟩
        · simp only [not_or] at hcontinues
          simp [isContinuationLine, isContinuation, hcontinues, hplus]
    · left
      obtain ⟨rest, hindent⟩ := exists_indent_eq (List.cons_ne_nil ch text) remarksStart
      refine ⟨.inl hblank, .inr ?_⟩
      rw [hindent, indentPiece, if_neg hblank, remarksStart_eq, List.append_assoc,
        List.append_assoc, List.cons_append]
      have hfront : ∀ d ∈ "remarks".toList.head?, d ∉ ['\r'] := by
        intro d hd
        obtain rfl := Option.some_inj.mp hd
        decide
      rw [stripChars_append_cons hfront (by decide)]
      obtain ⟨value, -, hvalue, -⟩ := @stripChars_cons ['\r'] ':' (by decide)
        (List.replicate 8 ' ' ++ ((ch :: text).takeWhile (· ∉ lineBreaks) ++ rest))
      exact ⟨value, by rw [hvalue]⟩

/-- The lines that tell of dummifying, stripped. -/
theorem strip_remarkLines (remarks : List Char) :
    strip (remarkLines remarks) = indent (trimmed remarks) remarksStart := by
  have hnewline : ∀ ch ∈ ['\n'], ch ∈ whitespace := List.forall_mem_singleton.mpr (by decide)
  have hback : strip (remarkLines remarks) = strip (strip (indent remarks remarksStart)) :=
    stripChars_append_right hnewline _
  have hstrip : strip (strip (indent remarks remarksStart)) = strip (indent remarks remarksStart) :=
    stripChars_stripChars _ _
  rw [hback, hstrip, remarksStart_eq]
  exact strip_indent (by decide) remarks

theorem strip_remarkLines_eq_nil_iff : strip (remarkLines remarks) = [] ↔ strip remarks = [] := by
  rw [strip_remarkLines, ← trimmed_eq_nil_iff]
  constructor
  · intro h
    have hsub := sublist_indent (trimmed remarks) remarksStart
    rw [h] at hsub
    exact List.sublist_nil.mp hsub
  · intro h
    rw [h]
    rfl

/-- The lines that tell of dummifying, as they are read. -/
theorem readText_remarkLines_eq (hremarks : strip remarks ≠ []) :
    readText c (remarkLines remarks) = readLines c [] none
      (((trimmed remarks).splitOn '\n').map
        (fun line ↦ stripChars ['\r'] (indent line remarksStart))) := by
  have hne := mt strip_remarkLines_eq_nil_iff.mp hremarks
  rw [readText, splitlineUnicodesafe_strip hne, strip_remarkLines, splitOn_indent (by decide),
    List.map_map]
  rfl

/-- The lines that tell of dummifying are read as remarks, where they can be read. -/
theorem readText_remarkLines (hc : c ∈ objectClasses) (remarks : List Char) :
    ((readText c (remarkLines remarks)).isSome ↔ RemarksReadable remarks) ∧
      ∀ data, readText c (remarkLines remarks) = some data →
        ∀ a ∈ data, a.name = "remarks".toList := by
  by_cases hempty : strip remarks = []
  · have hread : readText c (remarkLines remarks) = some [] := by
      rw [readText, strip_remarkLines_eq_nil_iff.mpr hempty]
      rfl
    rw [hread]
    refine ⟨iff_of_true rfl (.inl ((trimmed_eq_nil_iff remarks).mpr hempty)), ?_⟩
    rintro data ⟨⟩ a ha
    cases ha
  · have hlines {line : List Char} (hline : line ∈ (trimmed remarks).splitOn '\n') :=
      @indentedLine_cases c line hc (not_mem_of_mem_splitOn hline)
    rw [readText_remarkLines_eq hempty]
    constructor
    · rw [isSome_readLines, List.forall_mem_map, RemarksReadable, trimmed_eq_nil_iff,
        or_iff_right hempty]
      refine forall₂_congr (fun line hline ↦ ?_)
      rcases hlines hline with
        ⟨hremark, hcontinues | ⟨value, hvalue⟩⟩ | ⟨hremark, hcontinues, hnone⟩
      · rw [hcontinues]
        simp [hremark]
      · rw [hvalue, lineAttribute_of_name (by decide)]
        simp [hremark]
      · rw [hcontinues, hnone]
        simp [hremark]
    · intro data hdata a ha
      have hname := List.mem_map_of_mem (f := Attribute.name) ha
      rw [map_name_readLines hdata] at hname
      obtain ⟨text, htext, hstarted⟩ := List.mem_filterMap.mp (List.mem_of_mem_filter hname)
      obtain ⟨line, hline, rfl⟩ := List.mem_map.mp htext
      unfold startedName at hstarted
      rcases hlines hline with ⟨-, hcontinues | ⟨value, hvalue⟩⟩ | ⟨-, -, hnone⟩
      · rw [if_pos hcontinues] at hstarted
        cases hstarted
      · rw [hvalue, isContinuationLine_of_name (by decide), if_neg Bool.false_ne_true,
          lineAttribute_of_name (by decide)] at hstarted
        exact (Option.some_inj.mp hstarted).symm
      · rw [hnone] at hstarted
        split at hstarted <;> cases hstarted

/-- Remarks are accepted, and identify no object. -/
theorem field?_remarks : ∀ c ∈ objectClasses, (∀ f, c.field? "remarks".toList = some f →
    f.kind = .text) ∧ isWord (c.pkFields ++ ["source"]) "remarks".toList = false := by
  decide

theorem accepted_text {env : Environment} {a : Attribute}
    (hkind : ∀ f, c.field? a.name = some f → f.kind = .text) : Accepted env c a := by
  constructor
  · rintro ⟨f, hf, hurl, -⟩
    rw [hkind f hf] at hurl
    cases hurl
  · cases hf : c.field? a.name with
    | none => exact attributeErrors_of_not_raises (fun f hf' ↦ by rw [hf] at hf'; cases hf')
    | some f =>
      have hparse : f.kind.parse env (normaliseRpslValue a.value) false =
          .ok (textFieldParse env (normaliseRpslValue a.value)) := by
        rw [hkind f hf]
        rfl
      rw [attributeErrors_eq hf hparse]
      exact ite_self _

end Remarks

section Values

variable {c : RPSLObjectClass} {attributes : List (String × String)} {pk line : List Char}
  {lines block : List (List Char)} {data : List Attribute} {a : Attribute}

/-- The attribute of a line after dummifying: it has the dummy value, if there is one for the line.
-/
def dummyLineAttribute (c : RPSLObjectClass) (attributes : List (String × String)) (pk : List Char)
    (line : List Char) : Option Attribute :=
  match hiddenBy attributes line with
  | some e => some ⟨e.1.toList, strip (replacePk pk e.2.toList), []⟩
  | none => lineAttribute c line

/-- The attribute of a block after dummifying: the lines that continue it stay. -/
def dummyAttribute (c : RPSLObjectClass) (attributes : List (String × String)) (pk : List Char) :
    List (List Char) → Option Attribute
  | [] => none
  | first :: rest => (dummyLineAttribute c attributes pk first).map (fun a ↦ a.continued rest)

theorem lineAttribute_dummifyLine (hnames : AttributeNames attributes) :
    lineAttribute c (dummifyLine attributes pk line) = dummyLineAttribute c attributes pk line := by
  unfold dummyLineAttribute
  rw [dummifyLine_eq]
  cases h : hiddenBy attributes line with
  | none => rfl
  | some e =>
    obtain ⟨he, -⟩ := hiddenBy_eq_some h
    have hline : ljust (lineStart e.1) rpslAttributeTextWidth ++ replacePk pk e.2.toList =
        e.1.toList ++ ':' ::
          (List.replicate (rpslAttributeTextWidth - (lineStart e.1).length) ' ' ++
            replacePk pk e.2.toList) := by
      simp [ljust, lineStart]
    have hstrip (n : Nat) (text : List Char) : strip (List.replicate n ' ' ++ text) = strip text :=
      stripChars_append_left (fun ch hch ↦ by
        rw [List.eq_of_mem_replicate hch]
        decide) text
    dsimp only
    rw [hline, lineAttribute_of_name (hnames e he), hstrip]

theorem blockAttribute_dummifyLine (hnames : AttributeNames attributes) (hblock : IsBlock block) :
    blockAttribute c (block.map (dummifyLine attributes pk)) =
      dummyAttribute c attributes pk block := by
  obtain ⟨first, rest, rfl, -, hrest⟩ := hblock
  rw [List.map_cons, map_dummifyLine_continuations hnames hrest, blockAttribute,
    lineAttribute_dummifyLine hnames]
  rfl

/-- What is read after dummifying are the attributes of the blocks of pieces. -/
theorem mem_readLines_dummyLines (hnames : AttributeNames attributes)
    (hfirst : ∀ piece ∈ (lines.flatMap linePieces).head?, isContinuationLine piece = false)
    (h : readLines c [] none (dummyLines attributes pk lines) = some data) :
    a ∈ data ↔ ∃ block ∈ attributeBlocks (lines.flatMap linePieces),
      dummyAttribute c attributes pk block = some a ∧ isKept c a.name = true := by
  have hblocks := isBlock_of_mem hfirst
  have hlines : dummyLines attributes pk lines = ((attributeBlocks (lines.flatMap linePieces)).map
      (List.map (dummifyLine attributes pk))).flatten := by
    rw [← List.map_flatten, flatten_attributeBlocks]
    rfl
  rw [hlines] at h
  rw [mem_readLines_flatten ?_ h]
  · constructor
    · rintro ⟨block', hblock', hread⟩
      obtain ⟨block, hblock, rfl⟩ := List.mem_map.mp hblock'
      rw [blockAttribute_dummifyLine hnames (hblocks block hblock)] at hread
      exact ⟨block, hblock, hread⟩
    · rintro ⟨block, hblock, hread⟩
      refine ⟨_, List.mem_map_of_mem hblock, ?_⟩
      rwa [blockAttribute_dummifyLine hnames (hblocks block hblock)]
  · rw [List.forall_mem_map]
    intro block hblock
    obtain ⟨first, rest, rfl, hcontinues, hrest⟩ := hblocks block hblock
    refine ⟨_, _, List.map_cons, isContinuationLine_dummifyLine.trans hcontinues, ?_⟩
    rw [map_dummifyLine_continuations hnames hrest]
    exact hrest

end Values

section Lines

variable {env : Environment} {c : RPSLObjectClass} {attributes : List (String × String)}
  {pk text remarks : List Char} {init : List AttributeText} {r : AttributeText}
  {data first : List Attribute}

/-- An attribute has no lines of whitespace after its others where it does not end in one. -/
theorem blank_eq_nil_iff (hlast : ∀ line ∈ r.kept.getLast?, strip line ≠ []) :
    r.blank = [] ↔ ∀ line ∈ r.lines.getLast?, strip line ≠ [] := by
  have hlines : r.lines = r.kept ++ r.blank := rfl
  rw [hlines]
  constructor
  · intro h
    rwa [h, List.append_nil]
  · intro h
    rcases List.eq_nil_or_concat' r.blank with hempty | ⟨others, line, hconcat⟩
    · exact hempty
    · have hspaces := r.blank_spaces line (by rw [hconcat]; simp)
      exact absurd hspaces (h line (by rw [hconcat]; simp))

/-- The lines of the attributes of a text survive dummifying where those of its blocks do. -/
theorem ConsideredAs.keepsLines_iff (h : ConsideredAs c text remarks init r) :
    (∀ r' ∈ init ++ [r], KeepsLines c attributes r'.lines ∧
      (isShown c attributes r'.name = true → r'.blank = [])) ↔
    (∀ block ∈ attributeBlocks (consideredLines text remarks), KeepsLines c attributes block) ∧
      ∀ block ∈ (attributeBlocks (consideredLines text remarks)).getLast?,
        block.head?.any (startsShown c attributes) = true →
          ∀ line ∈ block.getLast?, strip line ≠ [] := by
  have hlast : ((init ++ [r]).map AttributeText.lines).getLast? = some r.lines := by
    simp
  rw [← h.lines, attributeBlocks_flatMap_lines, hlast, List.forall_mem_map]
  constructor
  · intro hkept
    refine ⟨fun r' hr' ↦ (hkept r' hr').1, ?_⟩
    rintro block ⟨⟩ hshown
    rw [startsShown_lines] at hshown
    exact (blank_eq_nil_iff h.last).mp ((hkept r (by simp)).2 hshown)
  · rintro ⟨hkept, hspaces⟩ r' hr'
    refine ⟨hkept r' hr', fun hshown ↦ ?_⟩
    rcases List.mem_append.mp hr' with hr' | hr'
    · exact h.init_blank r' hr'
    · obtain rfl := List.mem_singleton.mp hr'
      rw [← @startsShown_lines c attributes] at hshown
      exact (blank_eq_nil_iff h.last).mpr (hspaces _ rfl hshown)

theorem ConsideredAs.head?_linePieces (h : ConsideredAs c text remarks init r) :
    ∀ piece ∈ ((consideredLines text remarks).flatMap linePieces).head?,
      isContinuationLine piece = false := by
  obtain ⟨r', rs, hrs⟩ : ∃ r' rs, init ++ [r] = r' :: rs := by
    cases init with
    | nil => exact ⟨r, [], rfl⟩
    | cons r' init => exact ⟨r', init ++ [r], rfl⟩
  obtain ⟨value, others, hpieces⟩ := exists_linePieces_lines r'
  rw [← h.lines, hrs, List.flatMap_cons, List.flatMap_append, hpieces]
  rintro piece ⟨⟩
  exact isContinuationLine_of_name r'.name_proper value

/-- Where what is shown stays as it is, all attributes are accepted where the dummified ones are. -/
theorem ConsideredAs.accepted_iff (h : ConsideredAs c text remarks init r)
    (hnames : AttributeNames attributes)
    (hfirst : readLines c [] none (dummyLines attributes pk (consideredLines text remarks)) =
      some first)
    (hshown : shownAttributes attributes first = shownAttributes attributes data)
    (hdata : ∀ a ∈ data, Accepted env c a) :
    (∀ a ∈ first, Accepted env c a) ↔
      ∀ block ∈ attributeBlocks ((consideredLines text remarks).flatMap linePieces),
        ∀ a ∈ dummyAttribute c attributes pk block, isKept c a.name = true →
          isHidden attributes a.name = true → Accepted env c a := by
  constructor
  · intro haccepted block hblock a ha hkept _
    exact haccepted a ((mem_readLines_dummyLines hnames h.head?_linePieces hfirst).mpr
      ⟨block, hblock, ha, hkept⟩)
  · intro hblocks a ha
    cases hhidden : isHidden attributes a.name with
    | true =>
      obtain ⟨block, hblock, hread, hkept⟩ :=
        (mem_readLines_dummyLines hnames h.head?_linePieces hfirst).mp ha
      exact hblocks block hblock a hread hkept hhidden
    | false =>
      have hmem : a ∈ shownAttributes attributes first :=
        List.mem_filter.mpr ⟨ha, by rw [hhidden]; rfl⟩
      rw [hshown] at hmem
      exact hdata a (List.mem_of_mem_filter hmem)

end Lines

section Objects

variable {env : Environment} {d : DummifySettings} {c : RPSLObjectClass} {pk : String}
  {text text' dummified : List Char} {rendered obj : ParsedObject}
    {data data' added : List Attribute}

/-- Settings that list no attribute of the primary key of a class and no source, with dummy values
of one line that are valid for their attributes. -/
structure ValidSettings (env : Environment) (d : DummifySettings) (c : RPSLObjectClass)
    (pk : List Char) : Prop where
  names : AttributeNames d.attributes
  others : ∀ e ∈ d.attributes, e.1 ∉ c.pkFields ++ ["source"]
  newline : ∀ e ∈ d.attributes, '\n' ∉ replacePk pk e.2.toList
  accepted : ∀ e ∈ d.attributes, Accepted env c ⟨e.1.toList, strip (replacePk pk e.2.toList), []⟩

/-- The dummified text of an object is one of the same class, primary key and source without errors.
It has the same attributes, apart from dummified ones and from the remarks that are added at the end
where it is another text. -/
def StaysValid (env : Environment) (d : DummifySettings) (obj : ParsedObject) (text : List Char)
    (pk : String) : Prop :=
  let dummified := (dummifyObjectText d (display text) obj.objectClass.rpslObjectClass pk).toList
  let shown (text : List Char) :=
    shownAttributes d.attributes (extractAttributesValues obj.objectClass text).1
  ∃ obj', rpslObjectFromText env dummified false none = .ok obj' ∧ obj'.errors = [] ∧
    obj'.objectClass = obj.objectClass ∧ obj'.pk = obj.pk ∧ obj'.source = obj.source ∧
    shown dummified = shown text ++
      if dummified = text then [] else shown (remarkLines (d.remarks.getD "").toList)

/-- The remarks that dummifying adds to a text. -/
def addedRemarks (d : DummifySettings) (pk text : List Char) : List Char :=
  if Unchanged d.attributes pk text then [] else (d.remarks.getD "").toList

/-- The attributes of a text survive dummifying: its lines do, the last of them is not only
whitespace if it belongs to an attribute that is shown, the dummy values are valid with lines that
continue the attributes as well, and the remarks can be read. -/
structure Survives (env : Environment) (d : DummifySettings) (c : RPSLObjectClass)
    (pk text : List Char) : Prop where
  lines : ∀ block ∈ attributeBlocks (consideredLines text (addedRemarks d pk text)),
    KeepsLines c d.attributes block
  spaces : ∀ block ∈ (attributeBlocks (consideredLines text (addedRemarks d pk text))).getLast?,
    block.head?.any (startsShown c d.attributes) = true → ∀ line ∈ block.getLast?, strip line ≠ []
  continued : ∀ block ∈ attributeBlocks
      ((consideredLines text (addedRemarks d pk text)).flatMap linePieces),
    block.tail ≠ [] ∨ block.head?.bind (hiddenBy d.attributes) = none →
      ∀ a ∈ dummyAttribute c d.attributes pk block, isKept c a.name = true →
        isHidden d.attributes a.name = true → Accepted env c a
  remarks : RemarksReadable (addedRemarks d pk text)

/-- Dummy values are valid where those with lines that continue them are. -/
theorem ValidSettings.forall_block_iff {pk : List Char} (hd : ValidSettings env d c pk)
    (blocks : List (List (List Char))) :
    (∀ block ∈ blocks, ∀ a ∈ dummyAttribute c d.attributes pk block, isKept c a.name = true →
        isHidden d.attributes a.name = true → Accepted env c a) ↔
      ∀ block ∈ blocks, block.tail ≠ [] ∨ block.head?.bind (hiddenBy d.attributes) = none →
        ∀ a ∈ dummyAttribute c d.attributes pk block, isKept c a.name = true →
          isHidden d.attributes a.name = true → Accepted env c a := by
  refine forall₂_congr (fun block _ ↦ ⟨fun h _ ↦ h, fun h a ha hkept hhidden ↦ ?_⟩)
  by_cases hblock : block.tail ≠ [] ∨ block.head?.bind (hiddenBy d.attributes) = none
  · exact h hblock a ha hkept hhidden
  · rw [not_or, not_not] at hblock
    obtain ⟨htail, hsome⟩ := hblock
    cases block with
    | nil => cases ha
    | cons first rest =>
      obtain rfl : rest = [] := htail
      obtain ⟨e, he⟩ := Option.ne_none_iff_exists'.mp hsome
      have he' : hiddenBy d.attributes first = some e := he
      have hvalue : dummyAttribute c d.attributes pk [first] =
          some ⟨e.1.toList, strip (replacePk pk e.2.toList), []⟩ := by
        rw [dummyAttribute, dummyLineAttribute, he']
        simp [Attribute.continued]
      rw [hvalue] at ha
      cases ha
      exact hd.accepted e (hiddenBy_eq_some he').1

/-- Attributes that are dummified do not identify objects. -/
theorem ValidSettings.filter_identifies {pk : List Char} (hd : ValidSettings env d c pk)
    (data : List Attribute) :
    (shownAttributes d.attributes data).filter (identifies c) = data.filter (identifies c) := by
  unfold shownAttributes
  rw [List.filter_filter]
  apply List.filter_congr
  intro a _
  rw [Bool.and_eq_left_iff_imp]
  intro ha
  obtain ⟨name, hname, hsame⟩ := List.any_eq_true.mp ha
  by_contra hnot
  rw [Bool.not_eq_true, Bool.not_eq_false'] at hnot
  obtain ⟨e, he, hhidden⟩ := List.any_eq_true.mp hnot
  have heq : e.1 = name := String.toList_inj.mp
    ((of_decide_eq_true hhidden).trans (of_decide_eq_true hsame).symm)
  exact hd.others e he (heq ▸ hname)

/-- The class of text that begins with a name. -/
theorem beforeFirst_newlineTerminated {lines : List (List Char)} {name value : List Char}
    (hname : reAttrName name = true) (hfirst : lines.head? = some (name ++ ':' :: value))
    (rest : List Char) : beforeFirst ':' (newlineTerminated lines ++ rest) = name := by
  have hcolon : ∀ ch ∈ name, decide (ch ≠ ':') = true := fun ch hch ↦
    decide_eq_true (ProperAttribute.of_mem_name (a := ⟨name, [], []⟩) ⟨hname, by simp⟩ hch).2.2
  cases lines with
  | nil => cases hfirst
  | cons line lines =>
    cases hfirst
    unfold beforeFirst
    rw [newlineTerminated_cons_append, List.append_assoc, List.takeWhile_append_of_pos hcolon,
      List.cons_append, List.takeWhile_cons_of_neg (by simp), List.append_nil]

/-- A text with the same attributes as a valid one, apart from dummified ones and from others that
identify no object, is one of the same object without errors. -/
theorem exists_object_of_shown (hd : ValidSettings env d c pk.toList)
    (hc : findClass (strip (beforeFirst ':' text)) = some c)
    (hc' : findClass (strip (beforeFirst ':' text')) = some c)
    (hparse : rpslObjectFromText env text false none = .ok obj)
    (hread : readText c text = some data) (hvalid : ValidAttributes env c data)
    (hread' : readText c text' = some data') (haccepted : ∀ a ∈ data', Accepted env c a)
    (hshown : shownAttributes d.attributes data' = shownAttributes d.attributes data ++ added)
    (hadded : ∀ a ∈ added, identifies c a = false) :
    ∃ obj', rpslObjectFromText env text' false none = .ok obj' ∧ obj'.errors = [] ∧
      obj'.objectClass = obj.objectClass ∧ obj'.pk = obj.pk ∧ obj'.source = obj.source := by
  have hmem := mem_of_findClass hc
  have hnone : added.filter (identifies c) = [] :=
    List.filter_eq_nil_iff.mpr (fun a ha ↦ by rw [hadded a ha]; exact Bool.false_ne_true)
  have hsame : data'.filter (identifies c) = data.filter (identifies c) := by
    rw [← hd.filter_identifies data', hshown, List.filter_append, hnone, List.append_nil,
      hd.filter_identifies]
  obtain ⟨obj', hobj', herrors⟩ := (rpslObjectFromText_valid_iff hc').mpr
    ⟨data', hread', hvalid.of_identifies hmem hsame haccepted⟩
  refine ⟨obj', hobj', herrors, ?_⟩
  rw [rpslObjectFromText_of_findClass hc'] at hobj'
  rw [rpslObjectFromText_of_findClass hc] at hparse
  apply pk_source_eq_of_identifies hmem hobj' hparse
  rw [(readText_eq_some_iff.mp hread').2, (readText_eq_some_iff.mp hread).2, hsame]

/-- The lines that tell of dummifying are those of the remarks that it adds. -/
theorem dummyRemarks_eq {pk : List Char}
    (hsame : dummified = text ↔ Unchanged d.attributes pk text) :
    dummyRemarks d text dummified =
      if addedRemarks d pk text = [] then [] else remarkLines (addedRemarks d pk text) := by
  unfold dummyRemarks addedRemarks
  by_cases hunchanged : Unchanged d.attributes pk text
  · rw [if_pos hunchanged, if_pos rfl]
    cases d.remarks with
    | none => rfl
    | some remarks => exact if_neg (fun h ↦ h.2 (hsame.mpr hunchanged).symm)
  · have hne : text ≠ dummified := fun h ↦ hunchanged (hsame.mp h.symm)
    rw [if_neg hunchanged]
    cases d.remarks with
    | none => rfl
    | some remarks =>
      dsimp only [Option.getD_some]
      by_cases hempty : remarks = ""
      · simp [hempty]
      · rw [if_pos ⟨hempty, hne⟩, if_neg (by simpa using hempty)]

/-- The lines that tell of dummifying are read as the remarks that it adds, and begin as they do. -/
theorem readText_dummyRemarks {pk : List Char}
    (hsame : dummified = text ↔ Unchanged d.attributes pk text) (c : RPSLObjectClass) :
    readText c (dummyRemarks d text dummified) =
        readText c (remarkLines (addedRemarks d pk text)) ∧
      consideredLines text (dummyRemarks d text dummified) =
        consideredLines text (addedRemarks d pk text) ∧
      (strip (dummyRemarks d text dummified) ≠ [] →
        (dummyRemarks d text dummified).head? = some 'r') := by
  rw [dummyRemarks_eq hsame]
  split
  · next hempty =>
    rw [hempty]
    exact ⟨rfl, rfl, fun h ↦ absurd rfl h⟩
  · refine ⟨rfl, ?_, fun h ↦ ?_⟩
    · unfold consideredLines
      simp only [strip_remarkLines_eq_nil_iff]
    · unfold remarkLines at h ⊢
      rcases @head?_strip_indent (addedRemarks d pk text) remarksStart 'r' rfl (by decide) with
        hnone | hfirst
      · rw [List.head?_eq_none_iff] at hnone
        unfold remarksStart at hnone
        rw [hnone] at h
        exact absurd rfl h
      · rw [List.head?_append]
        unfold remarksStart at hfirst
        rw [hfirst]
        rfl

/-- What is shown of the remarks that are added. -/
theorem shown_addedRemarks {pk : List Char}
    (hsame : text' = text ↔ Unchanged d.attributes pk text)
    (hadded : readText c (remarkLines (addedRemarks d pk text)) = some added) :
    shownAttributes d.attributes added = if text' = text then [] else shownAttributes d.attributes
      (extractAttributesValues c (remarkLines (d.remarks.getD "").toList)).1 := by
  unfold addedRemarks at hadded
  split at hadded
  · next hunchanged =>
    have hnone : readText c (remarkLines []) = some [] := rfl
    rw [if_pos (hsame.mpr hunchanged), ← Option.some_inj.mp (hnone.symm.trans hadded)]
    rfl
  · next hunchanged =>
    rw [if_neg (fun h ↦ hunchanged (hsame.mp h)), (readText_eq_some_iff.mp hadded).2]

/-- Dummified text of an object, by what is read of it. -/
structure DummifiedText (d : DummifySettings) (c : RPSLObjectClass) (pk text dummified : List Char)
    (init : List AttributeText) (r : AttributeText) : Prop where
  considered : ConsideredAs c text (addedRemarks d pk text) init r
  unchanged : dummified = text ↔ Unchanged d.attributes pk text
  findClass : beforeFirst ':' dummified = beforeFirst ':' text
  read : readText c dummified = (readLines c [] none
    (dummyLines d.attributes pk (consideredLines text (addedRemarks d pk text)))).bind (fun data ↦
      (readText c (remarkLines (addedRemarks d pk text))).map (data ++ ·))

/-- Dummifying rendered text. -/
theorem exists_dummifiedText (hd : ValidSettings env d c pk.toList) {objectClass : String}
    (hclass : DummifiesClass d objectClass) (hattributes : d.attributes ≠ [])
    (hrendered : rendered.ProperAttributes) (hne : rendered.renderRpslText ≠ []) :
    ∃ init r, DummifiedText d c pk.toList rendered.renderRpslText
      (dummifyObjectText d (display rendered.renderRpslText) objectClass pk).toList init r := by
  obtain ⟨hlines, hfirst⟩ := renderedLine_of_proper hrendered
  have hsame := @newlineTerminated_dummifyLine_eq_self_iff d.attributes pk.toList _
    (ending_renderRpslText hrendered)
  have hremarks (remarks : List Char) :
      newlineTerminated ((splitlines rendered.renderRpslText).map
        (dummifyLine d.attributes pk.toList)) ++ remarkLines remarks ≠ rendered.renderRpslText :=
    dummified_append_ne hrendered hrendered rfl
  rw [dummifyObjectText_eq hclass hattributes pk hne, display, String.toList_ofList]
  rw [renderRpslText_eq] at hsame hremarks hne ⊢
  generalize rendered.objectData.flatMap attributeLines = lines at *
  have hlinesNe : lines ≠ [] := by
    rintro rfl
    exact hne rfl
  have hdummy : (splitlines (newlineTerminated lines)).map (dummifyLine d.attributes pk.toList) =
      dummyLines d.attributes pk.toList lines := by
    rw [splitlines_newlineTerminated]
    rfl
  rw [hdummy] at hsame hremarks ⊢
  obtain ⟨hread, hconsidered, hhead⟩ := readText_dummyRemarks hsame c
  obtain ⟨init, r, hparts⟩ := exists_consideredAs c hlines hfirst hlinesNe
    (addedRemarks d pk.toList (newlineTerminated lines))
  refine ⟨init, r, hparts, ⟨fun h ↦ ?_, fun h ↦ ?_⟩, ?_, ?_⟩
  · rw [dummyRemarks_eq hsame] at h
    split at h
    · rw [List.append_nil] at h
      exact hsame.mp h
    · exact absurd h (hremarks _)
  · have hnone : addedRemarks d pk.toList (newlineTerminated lines) = [] := if_pos h
    rw [dummyRemarks_eq hsame, if_pos hnone, List.append_nil]
    exact hsame.mpr h
  · obtain ⟨name, value, value', hname, hline, hdummyLine⟩ :=
      exists_first_dummyLine pk.toList hd.names hlines hfirst hlinesNe
    have hbefore := beforeFirst_newlineTerminated hname hline []
    rw [List.append_nil] at hbefore
    rw [beforeFirst_newlineTerminated hname hdummyLine, hbefore]
  · rw [readText_dummyLines_append hd.names hd.newline hlines hfirst hlinesNe hhead, hread,
      hconsidered]

/-- The attributes of dummified text are valid, and those that are shown are the same, exactly where
the attributes survive dummifying. -/
theorem DummifiedText.survives_iff {pk : List Char} {init : List AttributeText} {r : AttributeText}
    (h : DummifiedText d c pk text dummified init r) (hd : ValidSettings env d c pk)
    (hc : c ∈ objectClasses) (hread : readText c text = some data)
    (hdata : ∀ a ∈ data, Accepted env c a) :
    (∃ data' added, readText c dummified = some data' ∧ (∀ a ∈ data', Accepted env c a) ∧
      readText c (remarkLines (addedRemarks d pk text)) = some added ∧
      shownAttributes d.attributes data' =
        shownAttributes d.attributes data ++ shownAttributes d.attributes added) ↔
      Survives env d c pk text := by
  have hsame : (init ++ [r]).flatMap (fun r ↦ r.attributes c) = data :=
    Option.some_inj.mp (h.considered.read.symm.trans hread)
  have hkept := (@readLines_dummyLines_iff c d.attributes pk (init ++ [r]) hd.names).trans
    h.considered.keepsLines_iff
  rw [h.considered.lines, hsame] at hkept
  obtain ⟨hremarks, hnames⟩ := readText_remarkLines hc (addedRemarks d pk text)
  rw [h.read]
  constructor
  · rintro ⟨data', added, hdummified, haccepted, hadded, hshown⟩
    obtain ⟨first, hfirst, hrest⟩ := Option.bind_eq_some_iff.mp hdummified
    rw [hadded] at hrest
    cases hrest
    rw [shownAttributes_append] at hshown
    have hshown' := List.append_cancel_right hshown
    obtain ⟨hlines, hspaces⟩ := hkept.mp ⟨first, hfirst, hshown'⟩
    have hvalues := (h.considered.accepted_iff hd.names hfirst hshown' hdata).mp
      (fun a ha ↦ haccepted a (List.mem_append_left _ ha))
    exact ⟨hlines, hspaces, (hd.forall_block_iff _).mp hvalues,
      hremarks.mp (Option.isSome_of_mem hadded)⟩
  · intro hsurvives
    obtain ⟨first, hfirst, hshown⟩ := hkept.mpr ⟨hsurvives.lines, hsurvives.spaces⟩
    obtain ⟨added, hadded⟩ := Option.isSome_iff_exists.mp (hremarks.mpr hsurvives.remarks)
    have haccepted := (h.considered.accepted_iff hd.names hfirst hshown hdata).mpr
      ((hd.forall_block_iff _).mpr hsurvives.continued)
    refine ⟨first ++ added, added, ?_, ?_, hadded, ?_⟩
    · rw [hfirst, hadded]
      rfl
    · intro a ha
      rcases List.mem_append.mp ha with ha | ha
      · exact haccepted a ha
      · apply accepted_text
        rw [hnames added hadded a ha]
        exact (field?_remarks c hc).1
    · rw [shownAttributes_append, hshown]

/-- An object without dummified attributes stays as it is. -/
theorem staysValid_of_not_dummified
    (hparse : rpslObjectFromText env text false none = .ok obj) (hvalid : obj.errors = [])
    (hnot : ¬ DummifiesClass d obj.objectClass.rpslObjectClass ∨ d.attributes = []) :
    StaysValid env d obj text pk := by
  have hsame : dummifyObjectText d (display text) obj.objectClass.rpslObjectClass pk =
      display text := if_pos (.inr hnot)
  unfold StaysValid
  dsimp only
  rw [hsame, display, String.toList_ofList, if_pos rfl, List.append_nil]
  exact ⟨obj, hparse, hvalid, rfl, rfl, rfl, rfl⟩

/-- Dummified objects stay valid exactly where their class is not dummified or their attributes
survive dummifying. -/
theorem staysValid_iff (hrendered : rendered.ProperAttributes)
    (hparse : rpslObjectFromText env rendered.renderRpslText false none = .ok obj)
    (hvalid : obj.errors = []) (hd : ValidSettings env d obj.objectClass pk.toList) :
    StaysValid env d obj rendered.renderRpslText pk ↔
      ¬ DummifiesClass d obj.objectClass.rpslObjectClass ∨ d.attributes = [] ∨
        Survives env d obj.objectClass pk.toList rendered.renderRpslText := by
  have hc := objectClass_of_ok hparse
  have hmem := mem_of_findClass hc
  obtain ⟨data, hread, hdata⟩ := (rpslObjectFromText_valid_iff hc).mp ⟨obj, hparse, hvalid⟩
  have hne : rendered.renderRpslText ≠ [] := by
    intro h
    rw [h] at hc
    cases hc
  by_cases hclass : DummifiesClass d obj.objectClass.rpslObjectClass
  · by_cases hattributes : d.attributes = []
    · exact iff_of_true (staysValid_of_not_dummified hparse hvalid (.inr hattributes))
        (.inr (.inl hattributes))
    obtain ⟨init, r, h⟩ :=
      exists_dummifiedText hd hclass hattributes hrendered hne
    rw [or_iff_right (not_not.mpr hclass), or_iff_right hattributes,
      ← h.survives_iff hd hmem hread hdata.accepted]
    have hc' := h.findClass ▸ hc
    unfold StaysValid
    dsimp only
    rw [(readText_eq_some_iff.mp hread).2]
    constructor
    · rintro ⟨obj', hobj', herrors, -, -, -, hshown⟩
      obtain ⟨data', hread', hdata'⟩ := (rpslObjectFromText_valid_iff hc').mp ⟨obj', hobj', herrors⟩
      have hparts := hread'
      rw [h.read] at hparts
      obtain ⟨first, -, hrest⟩ := Option.bind_eq_some_iff.mp hparts
      obtain ⟨added, hadded, -⟩ := Option.map_eq_some_iff.mp hrest
      rw [(readText_eq_some_iff.mp hread').2, ← shown_addedRemarks h.unchanged hadded] at hshown
      exact ⟨data', added, hread', hdata'.accepted, hadded, hshown⟩
    · rintro ⟨data', added, hread', haccepted, hadded, hshown⟩
      have hidentifies : ∀ a ∈ shownAttributes d.attributes added,
          identifies obj.objectClass a = false := by
        intro a ha
        unfold identifies
        rw [(readText_remarkLines hmem _).2 added hadded a (List.mem_of_mem_filter ha)]
        exact (field?_remarks _ hmem).2
      obtain ⟨obj', hobj', herrors, hobjectClass, hpk, hsource⟩ :=
        exists_object_of_shown hd hc hc' hparse hread hdata hread' haccepted hshown hidentifies
      refine ⟨obj', hobj', herrors, hobjectClass, hpk, hsource, ?_⟩
      rw [(readText_eq_some_iff.mp hread').2, ← shown_addedRemarks h.unchanged hadded]
      exact hshown
  · exact iff_of_true (staysValid_of_not_dummified hparse hvalid (.inl hclass)) (.inl hclass)

/-- Dummy values are valid with the lines that continue them where there are no such lines. -/
theorem forall_continued {attributes : List (String × String)} {pk : List Char}
    {blocks : List (List (List Char))} (h : ∀ block ∈ blocks,
      (dummyAttribute c attributes pk block).any (fun a ↦ isHidden attributes a.name) = true →
        block.tail = [] ∧ block.head?.bind (hiddenBy attributes) ≠ none) :
    ∀ block ∈ blocks, block.tail ≠ [] ∨ block.head?.bind (hiddenBy attributes) = none →
      ∀ a ∈ dummyAttribute c attributes pk block, isKept c a.name = true →
        isHidden attributes a.name = true → Accepted env c a := by
  intro block hblock hcontinued a ha _ hhidden
  have hany : (dummyAttribute c attributes pk block).any (fun a ↦ isHidden attributes a.name) =
      true := by
    rw [ha]
    exact hhidden
  obtain ⟨htail, hsome⟩ := h block hblock hany
  exact absurd hcontinued (not_or.mpr ⟨not_not.mpr htail, hsome⟩)

section Examples

/-- Addresses are not keys, and any value is valid for them. -/
theorem validSettings_hiddenAddresses (pk : List Char) :
    ValidSettings plainEnvironment hiddenAddresses rpslPerson pk := by
  have hkind : ∀ f, rpslPerson.field? "address".toList = some f → f.kind = .text := by decide
  refine ⟨by decide, by decide, ?_, ?_⟩
  · exact List.forall_mem_singleton.mpr (show '\n' ∉ "Hidden".toList by decide)
  · exact List.forall_mem_singleton.mpr (accepted_text hkind)

/-- A rendered person with an address of one line. -/
def personText : List Char :=
  ("person:         A\naddress:        Street 1\nnic-hdl:        A-T\n" ++
    "source:         TS\n").toList

/-- Persons with addresses of one line stay valid. -/
theorem staysValid_address :
    ∃ rendered obj,
      rpslObjectFromText plainEnvironment (personAt "Street 1".toList) false none = .ok rendered ∧
      rpslObjectFromText plainEnvironment rendered.renderRpslText false none = .ok obj ∧
      StaysValid plainEnvironment hiddenAddresses obj rendered.renderRpslText "A-T" := by
  have hevaluated : ((rpslObjectFromText plainEnvironment (personAt "Street 1".toList) false
        none).toOption.map ParsedObject.renderRpslText = some personText ∧
      (rpslObjectFromText plainEnvironment personText false none).toOption.map ParsedObject.errors =
        some []) := by
    decide +kernel
  obtain ⟨rendered, hparse, htext⟩ := Option.map_eq_some_iff.mp hevaluated.1
  obtain ⟨obj, hparse', hvalid⟩ := Option.map_eq_some_iff.mp hevaluated.2
  have hrendered := toOption_eq_some_iff.mp hparse
  have hobj := toOption_eq_some_iff.mp hparse'
  have hclass : obj.objectClass = rpslPerson := (Option.some_inj.mp (objectClass_of_ok hobj)).symm
  rw [← htext] at hobj
  refine ⟨rendered, obj, hrendered, hobj, ?_⟩
  refine (staysValid_iff (properAttributes_rpslObjectFromText hrendered) hobj hvalid
    (hclass ▸ validSettings_hiddenAddresses _)).mpr (.inr (.inr ?_))
  have hremarks : addedRemarks hiddenAddresses "A-T".toList personText = [] := ite_self []
  rw [hclass, htext]
  constructor <;> rw [hremarks]
  · decide +kernel
  · decide +kernel
  · exact forall_continued (by decide +kernel)
  · decide +kernel

end Examples

end Objects

end Irrd.Mirroring
