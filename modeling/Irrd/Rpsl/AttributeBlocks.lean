import Mathlib.Data.List.SplitBy
import Irrd.Rpsl.ExtractedLines

/-!
# Attribute blocks

Lines are read in blocks, of one line that begins an attribute and those that continue it. What is
read of a text without errors is what is read of its blocks, one after the other. Source:
`irrd/rpsl/parser.py`.
-/

namespace Irrd.Rpsl

open Irrd.Base Irrd.Utils

section Lines

variable (c : RPSLObjectClass)

/-- The attribute that a line begins, if that can be its name. -/
def lineAttribute (line : List Char) : Option Attribute :=
  (splitOnce ':' line).bind (fun (attr, value) ↦
    if isWord c.attrsAllowed (lower attr) ∨ reAttrName (lower attr) then
      some ⟨lower attr, strip value, []⟩
    else none)

/-- The attributes that are extracted from lines, unless one of them is an error. -/
def readLines : List Attribute → Option Attribute → List (List Char) → Option (List Attribute)
  | data, current, [] => some (saveAttribute c data current)
  | data, current, line :: lines =>
    if isContinuationLine line then
      readLines data (current.map (fun a ↦ a.continued [line])) lines
    else
      (lineAttribute c line).bind (fun a ↦ readLines (saveAttribute c data current) (some a) lines)

variable {c} {lineNo : Nat} {data : List Attribute} {current : Option Attribute}
  {line : List Char} {lines lines' : List (List Char)}

theorem readLines_nil : readLines c data current [] = some (saveAttribute c data current) := rfl

theorem readLines_cons : readLines c data current (line :: lines) =
    if isContinuationLine line then
      readLines c data (current.map (fun a ↦ a.continued [line])) lines
    else
      (lineAttribute c line).bind
        (fun a ↦ readLines c (saveAttribute c data current) (some a) lines) :=
  rfl

theorem Attribute.continued_continued (a : Attribute) (line : List Char)
    (lines : List (List Char)) :
    (a.continued [line]).continued lines = a.continued (line :: lines) := by
  simp [Attribute.continued]

/-- Extraction gives these attributes where it has no errors. -/
theorem readLines_eq (c : RPSLObjectClass) (lineNo : Nat) (data : List Attribute)
    (current : Option Attribute) (lines : List (List Char)) :
    readLines c data current lines =
      if RPSLParserMessages.errors (extractLines c lineNo data current lines).2 = [] then
        some (extractLines c lineNo data current lines).1
      else none := by
  have herror (message : String) : RPSLParserMessages.errors [(.error, message)] ≠ [] := by
    simp [RPSLParserMessages.errors]
  fun_induction extractLines c lineNo data current lines with
  | case1 lineNo data current => rfl
  | case2 lineNo data current lines =>
    rw [if_neg (herror _)]
    rfl
  | case3 lineNo data current char rest lines hcontinues ih =>
    have hline : isContinuationLine (char :: rest) = true := hcontinues
    rw [readLines_cons, if_pos hline, ← ih]
    congr 1
    cases current <;> simp [Attribute.continued]
  | case4 lineNo data current char rest lines hcontinues saved hsplit =>
    have hline : ¬ isContinuationLine (char :: rest) = true := hcontinues
    rw [readLines_cons, if_neg hline, lineAttribute, hsplit, if_neg (herror _)]
    rfl
  | case5 lineNo data current char rest lines hcontinues saved attr value hsplit attr' hname =>
    have hline : ¬ isContinuationLine (char :: rest) = true := hcontinues
    rw [readLines_cons, if_neg hline, lineAttribute, hsplit, if_neg (herror _), Option.bind_some]
    dsimp only
    rw [if_neg (not_or.mpr hname)]
    rfl
  | case6 lineNo data current char rest lines hcontinues saved attr value hsplit attr' hname ih =>
    have hline : ¬ isContinuationLine (char :: rest) = true := hcontinues
    have hname' : isWord c.attrsAllowed attr' ∨ reAttrName attr' := by
      by_contra hnot
      exact hname (not_or.mp hnot)
    rw [readLines_cons, if_neg hline, lineAttribute, hsplit, Option.bind_some]
    dsimp only
    rw [if_pos hname', Option.bind_some, ih]

theorem readLines_front (front : List Attribute) :
    readLines c (front ++ data) current lines =
      (readLines c data current lines).map (front ++ ·) := by
  induction lines generalizing data current with
  | nil => rw [readLines_nil, readLines_nil, saveAttribute_append, Option.map_some]
  | cons line lines ih =>
    rw [readLines_cons, readLines_cons]
    split
    · exact ih
    · rw [saveAttribute_append, Option.map_bind]
      congr 1
      funext a
      exact ih

/-- Lines are read after others where they do not continue them. -/
theorem readLines_append (hlines' : ∀ line ∈ lines'.head?, isContinuationLine line = false) :
    readLines c data current (lines ++ lines') =
      (readLines c data current lines).bind (fun front ↦
        (readLines c [] none lines').map (front ++ ·)) := by
  induction lines generalizing data current with
  | nil =>
    rw [List.nil_append, readLines_nil, Option.bind_some, ← readLines_front, List.append_nil]
    cases lines' with
    | nil => rfl
    | cons line lines' =>
      have hline : ¬ isContinuationLine line = true := by
        rw [hlines' line rfl]
        exact Bool.false_ne_true
      rw [readLines_cons, readLines_cons, if_neg hline, if_neg hline]
      rfl
  | cons line lines ih =>
    rw [List.cons_append, readLines_cons, readLines_cons]
    split
    · exact ih
    · rw [Option.bind_assoc]
      congr 1
      funext a
      exact ih

/-- Lines are read where those that continue no attribute begin one. -/
theorem isSome_readLines : (readLines c data current lines).isSome ↔
    ∀ line ∈ lines, isContinuationLine line = false → (lineAttribute c line).isSome := by
  induction lines generalizing data current with
  | nil => simp [readLines_nil]
  | cons line lines ih =>
    rw [readLines_cons, List.forall_mem_cons]
    split
    · next hline =>
      rw [ih]
      simp [hline]
    · next hline =>
      rw [Bool.not_eq_true] at hline
      cases ha : lineAttribute c line with
      | none => simp [hline]
      | some a =>
        rw [Option.bind_some, ih]
        simp

/-- Lines that continue an attribute are read as part of it. -/
theorem readLines_continued {a : Attribute} {rest : List (List Char)}
    (hrest : ∀ line ∈ rest, isContinuationLine line = true) :
    readLines c data (some a) (rest ++ lines) =
      readLines c data (some (a.continued rest)) lines := by
  induction rest generalizing a with
  | nil => simp [Attribute.continued]
  | cons line rest ih =>
    obtain ⟨hline, hothers⟩ := List.forall_mem_cons.mp hrest
    rw [List.cons_append, readLines_cons, if_pos hline, Option.map_some, ih hothers,
      Attribute.continued_continued]

/-- The name of the attribute that a line begins, unless it continues one. -/
def startedName (c : RPSLObjectClass) (line : List Char) : Option (List Char) :=
  if isContinuationLine line then none else (lineAttribute c line).map Attribute.name

/-- Attributes of this name are not discarded. -/
def isKept (c : RPSLObjectClass) (name : List Char) : Bool :=
  !decide (name = [] ∨ isWord c.discardedFields name)

theorem map_name_saveAttribute : (saveAttribute c data current).map Attribute.name =
    data.map Attribute.name ++ ((current.map Attribute.name).toList).filter (isKept c) := by
  unfold saveAttribute
  cases current with
  | none => simp
  | some a =>
    dsimp only
    split
    · next h => simp [isKept, h]
    · next h => simp [isKept, h]

/-- The names of the attributes that are read are those of the lines that begin them. -/
theorem map_name_readLines {attributes : List Attribute}
    (h : readLines c data current lines = some attributes) :
    attributes.map Attribute.name = (saveAttribute c data current).map Attribute.name ++
      (lines.filterMap (startedName c)).filter (isKept c) := by
  induction lines generalizing data current with
  | nil =>
    cases h
    simp
  | cons line lines ih =>
    rw [readLines_cons] at h
    split at h
    · next hline =>
      have hname : startedName c line = none := if_pos hline
      rw [ih h, List.filterMap_cons_none hname, map_name_saveAttribute, map_name_saveAttribute,
        Option.map_map]
      rfl
    · next hline =>
      obtain ⟨a, ha, hrest⟩ := Option.bind_eq_some_iff.mp h
      have hname : startedName c line = some a.name := by
        rw [startedName, if_neg hline, ha]
        rfl
      rw [ih hrest, List.filterMap_cons_some hname, map_name_saveAttribute, List.append_assoc,
        ← List.singleton_append, List.filter_append]
      rfl

end Lines

section Blocks

variable {c : RPSLObjectClass}

/-- A line that begins an attribute, and lines that continue it. -/
def IsBlock (block : List (List Char)) : Prop :=
  ∃ first rest, block = first :: rest ∧ isContinuationLine first = false ∧
    ∀ line ∈ rest, isContinuationLine line = true

/-- The blocks of lines. -/
def attributeBlocks (lines : List (List Char)) : List (List (List Char)) :=
  lines.splitBy (fun _ next ↦ isContinuationLine next)

/-- Lines of which the first continues no attribute are in blocks. -/
theorem isBlock_of_mem {lines : List (List Char)}
    (hlines : ∀ line ∈ lines.head?, isContinuationLine line = false) :
    ∀ block ∈ attributeBlocks lines, IsBlock block := by
  have hheads : ∀ block ∈ attributeBlocks lines, ∀ line ∈ block.head?,
      isContinuationLine line = false := by
    have hchain := List.isChain_getLast_head_splitBy
      (fun _ next : List Char ↦ isContinuationLine next) lines
    have hfirst : ∀ block ∈ (attributeBlocks lines).head?, ∀ line ∈ block.head?,
        isContinuationLine line = false := by
      intro block hblock line hline
      apply hlines
      rw [← List.flatten_splitBy (fun _ next ↦ isContinuationLine next) lines]
      unfold attributeBlocks at hblock
      cases hblocks : lines.splitBy (fun _ next ↦ isContinuationLine next) with
      | nil =>
        rw [hblocks] at hblock
        cases hblock
      | cons block' blocks =>
        rw [hblocks] at hblock
        cases hblock
        cases block with
        | nil => cases hline
        | cons first rest => exact hline
    change (attributeBlocks lines).IsChain _ at hchain
    generalize attributeBlocks lines = blocks at hchain hfirst
    induction blocks with
    | nil => simp
    | cons block blocks ih =>
      rw [List.isChain_cons] at hchain
      rw [List.forall_mem_cons]
      refine ⟨hfirst block rfl, ih hchain.2 ?_⟩
      intro next hnext line hline
      obtain ⟨-, hne, hhead⟩ := hchain.1 next hnext
      rw [List.head?_eq_some_head hne] at hline
      cases hline
      exact hhead
  intro block hblock
  have hchain := List.isChain_of_mem_splitBy hblock
  cases block with
  | nil => exact absurd rfl (List.ne_nil_of_mem_splitBy hblock)
  | cons first rest =>
    refine ⟨first, rest, rfl, hheads _ hblock first rfl, ?_⟩
    clear hblock
    induction rest generalizing first with
    | nil => simp
    | cons next rest ih =>
      rw [List.isChain_cons_cons] at hchain
      exact List.forall_mem_cons.mpr ⟨hchain.1, ih next hchain.2⟩

@[simp] theorem flatten_attributeBlocks (lines : List (List Char)) :
    (attributeBlocks lines).flatten = lines := List.flatten_splitBy _ _

/-- One attribute is read of a block, if its first line begins one. -/
theorem readLines_block {first : List Char} {rest : List (List Char)}
    (hfirst : isContinuationLine first = false)
    (hrest : ∀ line ∈ rest, isContinuationLine line = true) :
    readLines c [] none (first :: rest) =
      (lineAttribute c first).map (fun a ↦ saveAttribute c [] (some (a.continued rest))) := by
  have hline : ¬ isContinuationLine first = true := by
    rw [hfirst]
    exact Bool.false_ne_true
  rw [readLines_cons, if_neg hline]
  cases lineAttribute c first with
  | none => rfl
  | some a =>
    rw [Option.bind_some, Option.map_some, ← List.append_nil rest, readLines_continued hrest,
      List.append_nil]
    rfl

/-- The attribute of a block, if its first line begins one. -/
def blockAttribute (c : RPSLObjectClass) : List (List Char) → Option Attribute
  | [] => none
  | first :: rest => (lineAttribute c first).map (fun a ↦ a.continued rest)

theorem saveAttribute_nil (a : Attribute) :
    saveAttribute c [] (some a) = if isKept c a.name then [a] else [] := by
  unfold saveAttribute isKept
  dsimp only
  by_cases hkept : a.name = [] ∨ isWord c.discardedFields a.name = true
  · simp [hkept]
  · simp [hkept]

/-- What is read of blocks are the attributes of each of them that are not discarded. -/
theorem mem_readLines_flatten {blocks : List (List (List Char))} {attributes : List Attribute}
    {a : Attribute} (hblocks : ∀ block ∈ blocks, IsBlock block)
    (h : readLines c [] none blocks.flatten = some attributes) :
    a ∈ attributes ↔ ∃ block ∈ blocks, blockAttribute c block = some a ∧
      isKept c a.name = true := by
  induction blocks generalizing attributes with
  | nil =>
    cases h
    simp [saveAttribute]
  | cons block blocks ih =>
    obtain ⟨⟨first, rest, rfl, hfirst, hrest⟩, hothers⟩ := List.forall_mem_cons.mp hblocks
    have hhead : ∀ line ∈ blocks.flatten.head?, isContinuationLine line = false := by
      cases blocks with
      | nil => simp
      | cons block blocks =>
        obtain ⟨first, rest, rfl, hfirst, -⟩ := hothers block List.mem_cons_self
        rintro line ⟨⟩
        exact hfirst
    rw [List.flatten_cons, readLines_append hhead, readLines_block hfirst hrest] at h
    obtain ⟨front, hfront, h⟩ := Option.bind_eq_some_iff.mp h
    obtain ⟨a', ha', rfl⟩ := Option.map_eq_some_iff.mp hfront
    obtain ⟨others, hread, rfl⟩ := Option.map_eq_some_iff.mp h
    have hblock : blockAttribute c (first :: rest) = some (a'.continued rest) := by
      rw [blockAttribute, ha']
      rfl
    rw [List.mem_append, ih hothers hread, saveAttribute_nil, List.exists_mem_cons_iff, hblock,
      Option.some_inj]
    refine or_congr ?_ Iff.rfl
    by_cases hkept : isKept c (a'.continued rest).name = true
    · rw [if_pos hkept, List.mem_singleton]
      constructor
      · rintro rfl
        exact ⟨rfl, hkept⟩
      · rintro ⟨rfl, -⟩
        rfl
    · rw [if_neg hkept]
      refine iff_of_false List.not_mem_nil ?_
      rintro ⟨rfl, h⟩
      exact hkept h

end Blocks

section Alike

variable {c : RPSLObjectClass} {data : List Attribute} {current : Option Attribute}
  {line line' : List Char} {lines lines' : List (List Char)}

/-- Lines that are read in the same way. -/
structure ReadsAlike (c : RPSLObjectClass) (line line' : List Char) : Prop where
  continues : isContinuationLine line = isContinuationLine line'
  first : isContinuationLine line = true → line.take 1 = line'.take 1
  value : isContinuationLine line = true → strip (line.drop 1) = strip (line'.drop 1)
  begins : lineAttribute c line = lineAttribute c line'

theorem ReadsAlike.refl (c : RPSLObjectClass) (line : List Char) : ReadsAlike c line line :=
  ⟨rfl, fun _ ↦ rfl, fun _ ↦ rfl, rfl⟩

theorem ReadsAlike.symm (h : ReadsAlike c line line') : ReadsAlike c line' line :=
  ⟨h.continues.symm, fun hline ↦ (h.first (h.continues.trans hline)).symm,
    fun hline ↦ (h.value (h.continues.trans hline)).symm, h.begins.symm⟩

theorem ReadsAlike.trans {line'' : List Char} (h : ReadsAlike c line line')
    (h' : ReadsAlike c line' line'') : ReadsAlike c line line'' :=
  ⟨h.continues.trans h'.continues,
    fun hline ↦ (h.first hline).trans (h'.first (h.continues.symm.trans hline)),
    fun hline ↦ (h.value hline).trans (h'.value (h.continues.symm.trans hline)),
    h.begins.trans h'.begins⟩

theorem readLines_congr (h : List.Forall₂ (ReadsAlike c) lines lines') :
    readLines c data current lines = readLines c data current lines' := by
  induction h generalizing data current with
  | nil => rfl
  | cons hline _ ih =>
    rw [readLines_cons, readLines_cons, hline.continues, hline.begins]
    split
    · next hcontinues =>
      rw [← hline.continues] at hcontinues
      rw [ih]
      congr 1
      apply Option.map_congr
      intro a _
      unfold Attribute.continued
      rw [List.map_singleton, List.map_singleton, List.flatMap_singleton, List.flatMap_singleton,
        hline.first hcontinues, hline.value hcontinues]
    · simp only [ih]

/-- Whitespace at the end of a line does not matter. -/
theorem readsAlike_append {back : List Char} (hback : ∀ ch ∈ back, ch ∈ whitespace)
    (hline : line ≠ []) : ReadsAlike c (line ++ back) line := by
  cases line with
  | nil => exact absurd rfl hline
  | cons ch line =>
    refine ⟨rfl, fun _ ↦ rfl, fun _ ↦ stripChars_append_right hback line, ?_⟩
    unfold lineAttribute
    by_cases hcolon : ':' ∈ ch :: line
    · obtain ⟨name, value, hsplit, hname⟩ := List.eq_append_cons_of_mem hcolon
      have hvalue : strip (value ++ back) = strip value := stripChars_append_right hback value
      rw [hsplit, List.append_assoc, List.cons_append, splitOnce_append hname,
        splitOnce_append hname, Option.bind_some, Option.bind_some]
      dsimp only
      rw [hvalue]
    · have hcolon' : ':' ∉ (ch :: line) ++ back := by
        intro hmem
        rcases List.mem_append.mp hmem with hmem | hmem
        · exact hcolon hmem
        · exact absurd (hback _ hmem) (by decide)
      rw [splitOnce_eq_none hcolon, splitOnce_eq_none hcolon']

/-- Carriage returns at the end of a line do not matter. -/
theorem readsAlike_stripChars (hline : line.head? ≠ some '\r') :
    ReadsAlike c (stripChars ['\r'] line) line := by
  obtain ⟨front, back, htext, hfront, hback⟩ := exists_eq_append_stripChars ['\r'] line
  cases front with
  | cons ch front =>
    rw [htext, List.mem_singleton.mp (hfront ch List.mem_cons_self)] at hline
    exact absurd rfl hline
  | nil =>
    rw [List.nil_append] at htext
    by_cases hempty : stripChars ['\r'] line = []
    · rw [hempty, List.nil_append] at htext
      cases back with
      | nil =>
        rw [hempty, htext]
        exact .refl c []
      | cons ch back =>
        rw [htext, List.mem_singleton.mp (hback ch List.mem_cons_self)] at hline
        exact absurd rfl hline
    · have halike : ReadsAlike c (stripChars ['\r'] line ++ back) _ := readsAlike_append ?_ hempty
      · rw [← htext] at halike
        exact halike.symm
      · intro ch hch
        rw [List.mem_singleton.mp (hback ch hch)]
        decide

end Alike

section Texts

variable {c : RPSLObjectClass} {text : List Char}

/-- The attributes that are extracted from a text, unless it has an error. -/
def readText (c : RPSLObjectClass) (text : List Char) : Option (List Attribute) :=
  readLines c [] none (splitlineUnicodesafe (strip text))

/-- Extraction from a text without errors gives these attributes. -/
theorem readText_eq_some_iff {attributes : List Attribute} :
    readText c text = some attributes ↔
      RPSLParserMessages.errors (extractAttributesValues c text).2 = [] ∧
        (extractAttributesValues c text).1 = attributes := by
  have hread := readLines_eq c 0 [] none (splitlineUnicodesafe (strip text))
  change readText c text = if RPSLParserMessages.errors (extractAttributesValues c text).2 = [] then
    some (extractAttributesValues c text).1 else none at hread
  rw [hread]
  split
  · next herrors => simp [herrors]
  · next herrors => simp [herrors]

/-- The lines of a stripped text, as they are read. -/
theorem readLines_stripChars {lines : List (List Char)}
    (hlines : ∀ line ∈ lines, line.head? ≠ some '\r') :
    readLines c [] none (lines.map (stripChars ['\r'])) = readLines c [] none lines := by
  apply readLines_congr
  rw [List.forall₂_map_left_iff, List.forall₂_same]
  intro line hline
  exact readsAlike_stripChars (hlines line hline)

/-- A text is read by its lines, up to the last one that is not only whitespace. -/
theorem readText_newlineTerminated {lines blank : List (List Char)} {last : List Char}
    (hlines : ∀ line ∈ lines ++ [last], '\n' ∉ line ∧ line.head? ≠ some '\r')
    (hhead : ∀ ch ∈ (newlineTerminated lines ++ last).head?, ch ∉ whitespace)
    (hlast : strip last ≠ []) (hblank : ∀ line ∈ blank, strip line = []) :
    readText c (newlineTerminated (lines ++ last :: blank)) =
      readLines c [] none (lines ++ [last]) := by
  obtain ⟨core, back, rfl, hback, hcore, -, hstrip⟩ :=
    exists_strip_newlineTerminated hhead hlast hblank
  obtain ⟨hlines, hcoreLine⟩ := List.forall_mem_append.mp hlines
  obtain ⟨hnewline, hreturn⟩ := hcoreLine _ (List.mem_singleton_self _)
  have hsplit : (newlineTerminated lines ++ core).splitOn '\n' = lines ++ [core] := by
    rw [splitOn_newlineTerminated_append (fun line hline ↦ (hlines line hline).1),
      List.splitOn_eq_singleton (fun h ↦ hnewline (List.mem_append_left _ h))]
  have hcoreHead : core.head? ≠ some '\r' := by
    intro h
    apply hreturn
    rw [List.head?_append, h]
    rfl
  unfold readText
  rw [splitlineUnicodesafe_strip, hstrip, hsplit, readLines_stripChars]
  · apply readLines_congr
    apply List.rel_append
    · exact List.forall₂_same.mpr (fun line _ ↦ .refl c line)
    · exact .cons (readsAlike_append hback hcore).symm .nil
  · intro line hline
    rcases List.mem_append.mp hline with hline | hline
    · exact (hlines line hline).2
    · rwa [List.mem_singleton.mp hline]
  · rw [hstrip]
    exact fun h ↦ hcore (List.append_eq_nil_iff.mp h).2

end Texts

end Irrd.Rpsl
