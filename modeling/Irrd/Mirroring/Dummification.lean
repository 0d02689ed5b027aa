import Mathlib.Data.List.TakeWhile
import Irrd.Conf.Settings
import Irrd.Rpsl.ParserExceptions
import Irrd.Rpsl.RenderedText

/-!
# Dummification

What dummified text shows of hidden attributes. Dummifying replaces lines that begin with the name
of a hidden attribute, so a value is hidden up to its first line break. Source:
`irrd/utils/text.py`, `docs/admins/configuration.rst`.
-/

namespace Irrd.Mirroring

open Irrd.Conf Irrd.Rpsl Irrd.Utils

section Lines

/-- What a line with an attribute of this name begins with. -/
def lineStart (name : String) : List Char := name.toList ++ [':']

/-- The last setting whose attribute a line begins with. -/
def hiddenBy (attributes : List (String × String)) (line : List Char) : Option (String × String) :=
  attributes.reverse.find? (fun e ↦ (lineStart e.1).isPrefixOf line)

/-- What is left of a line when a hidden attribute loses its value. -/
def exposedLine (attributes : List (String × String)) (line : List Char) : List Char :=
  match hiddenBy attributes line with
  | some e => lineStart e.1
  | none => line

/-- The names of hidden attributes are names. -/
def ProperNames (attributes : List (String × String)) : Prop := ∀ e ∈ attributes, ':' ∉ e.1.toList

instance (attributes : List (String × String)) : Decidable (ProperNames attributes) :=
  inferInstanceAs (Decidable (∀ e ∈ attributes, ':' ∉ e.1.toList))

variable {attributes : List (String × String)} {pk line line' : List Char} {e : String × String}

/-- A line is replaced by the last setting for it. -/
theorem dummifyLine_eq : dummifyLine attributes pk line =
    match hiddenBy attributes line with
    | some e => ljust (lineStart e.1) rpslAttributeTextWidth ++ replacePk pk e.2.toList
    | none => line := by
  unfold dummifyLine hiddenBy
  rw [← List.foldr_reverse]
  induction attributes.reverse with
  | nil => rfl
  | cons e rest ih =>
    rw [List.foldr_cons, List.find?_cons]
    by_cases hline : (lineStart e.1).isPrefixOf line = true
    · simp only [hline]
      exact if_pos hline
    · rw [Bool.not_eq_true] at hline
      simp only [hline]
      exact (if_neg (by rw [Bool.not_eq_true]; exact hline)).trans ih

theorem hiddenBy_eq_some (h : hiddenBy attributes line = some e) :
    e ∈ attributes ∧ lineStart e.1 <+: line := by
  refine ⟨List.mem_reverse.mp (List.mem_of_find?_eq_some h), ?_⟩
  have hmatch := List.find?_some h
  simpa using hmatch

theorem hiddenBy_eq_none_iff :
    hiddenBy attributes line = none ↔ ∀ e ∈ attributes, ¬ lineStart e.1 <+: line := by
  simp [hiddenBy]

/-- A line begins with one name at most. -/
theorem name_unique (hnames : ProperNames attributes) {e' : String × String} (he : e ∈ attributes)
    (he' : e' ∈ attributes) (h : lineStart e.1 <+: line) (h' : lineStart e'.1 <+: line) :
    e.1 = e'.1 := by
  obtain ⟨rest, rfl⟩ := h
  obtain ⟨rest', h'⟩ := h'
  unfold lineStart at h'
  rw [List.append_assoc, List.append_assoc] at h'
  exact String.toList_inj.mp (append_separator_inj (hnames e' he') (hnames e he) h').1.symm

/-- Lines that begin with the same name are hidden by the same setting. -/
theorem hiddenBy_congr (hnames : ProperNames attributes) (he : e ∈ attributes)
    (hline : lineStart e.1 <+: line) (hline' : lineStart e.1 <+: line') :
    hiddenBy attributes line = hiddenBy attributes line' := by
  have hsame : ∀ e' ∈ attributes.reverse, (lineStart e'.1).isPrefixOf line =
      (lineStart e'.1).isPrefixOf line' := by
    intro e' he'
    have hmem := List.mem_reverse.mp he'
    rw [Bool.eq_iff_iff, List.isPrefixOf_iff_prefix, List.isPrefixOf_iff_prefix]
    constructor
    · intro h
      rwa [name_unique hnames hmem he h hline]
    · intro h
      rwa [name_unique hnames hmem he h hline']
  unfold hiddenBy
  rw [← List.head?_filter, ← List.head?_filter, List.filter_congr hsame]

/-- The line that stands for a hidden one begins with the same name. -/
theorem lineStart_prefix_ljust (name : String) (width : Nat) (value : List Char) :
    lineStart name <+: ljust (lineStart name) width ++ value := by
  rw [ljust, List.append_assoc]
  exact List.prefix_append _ _

/-- Dummifying makes those lines the same of which the same is left. -/
theorem dummifyLine_eq_iff (hnames : ProperNames attributes) :
    dummifyLine attributes pk line = dummifyLine attributes pk line' ↔
      exposedLine attributes line = exposedLine attributes line' := by
  rw [dummifyLine_eq, dummifyLine_eq]
  unfold exposedLine
  cases h : hiddenBy attributes line with
  | none =>
    have hnone := hiddenBy_eq_none_iff.mp h
    cases h' : hiddenBy attributes line' with
    | none => rfl
    | some e' =>
      have hshown := hnone e' (hiddenBy_eq_some h').1
      refine iff_of_false (fun hsame ↦ hshown ?_) (fun hsame ↦ hshown ?_)
      · dsimp only at hsame
        exact hsame ▸ lineStart_prefix_ljust _ _ _
      · dsimp only at hsame
        exact hsame ▸ List.prefix_rfl
  | some e =>
    obtain ⟨he, hline⟩ := hiddenBy_eq_some h
    cases h' : hiddenBy attributes line' with
    | none =>
      have hshown := hiddenBy_eq_none_iff.mp h' e he
      refine iff_of_false (fun hsame ↦ hshown ?_) (fun hsame ↦ hshown ?_)
      · dsimp only at hsame
        exact hsame ▸ lineStart_prefix_ljust _ _ _
      · dsimp only at hsame
        exact hsame ▸ List.prefix_rfl
    | some e' =>
      obtain ⟨he', hline'⟩ := hiddenBy_eq_some h'
      have hentry (hname : e.1 = e'.1) : e = e' := by
        have hcongr := hiddenBy_congr hnames he hline (hname ▸ hline')
        rw [h, h'] at hcongr
        exact Option.some_inj.mp hcongr
      constructor
      · intro hsame
        dsimp only at hsame ⊢
        have hstart := lineStart_prefix_ljust e.1 rpslAttributeTextWidth (replacePk pk e.2.toList)
        have hstart' := lineStart_prefix_ljust e'.1 rpslAttributeTextWidth
          (replacePk pk e'.2.toList)
        rw [name_unique hnames he he' (hsame ▸ hstart) hstart']
      · intro hsame
        rw [hentry (String.toList_inj.mp (List.append_inj_left' hsame rfl))]

/-- Lines that begin with the same name become the same line. -/
theorem dummifyLine_congr (hnames : ProperNames attributes) (he : e ∈ attributes)
    (hline : lineStart e.1 <+: line) (hline' : lineStart e.1 <+: line') :
    dummifyLine attributes pk line = dummifyLine attributes pk line' := by
  have hsome : hiddenBy attributes line ≠ none :=
    fun h ↦ hiddenBy_eq_none_iff.mp h e he hline
  have hsame := hiddenBy_congr hnames he hline hline'
  rw [dummifyLine_eq, dummifyLine_eq, ← hsame]
  cases h : hiddenBy attributes line with
  | none => exact absurd h hsome
  | some e' => rfl

/-- A line without hidden attributes stays as it is. -/
theorem dummifyLine_of_none (h : hiddenBy attributes line = none) :
    dummifyLine attributes pk line = line := by
  rw [dummifyLine_eq, h]

/-- A hidden line is replaced by one that begins with the same name. -/
theorem lineStart_prefix_dummifyLine (h : hiddenBy attributes line = some e) :
    lineStart e.1 <+: dummifyLine attributes pk line := by
  rw [dummifyLine_eq, h]
  exact lineStart_prefix_ljust _ _ _

/-- A start without newlines that a text has is one of its first line. -/
theorem prefix_of_prefix_append_newline {start first rest : List Char} (hstart : '\n' ∉ start)
    (h : start <+: first ++ '\n' :: rest) : start <+: first := by
  rcases List.prefix_or_prefix_of_prefix h (List.prefix_append first ('\n' :: rest)) with h' | h'
  · exact h'
  · obtain ⟨more, rfl⟩ := h'
    rw [List.prefix_append_right_inj] at h
    cases more with
    | nil => simp
    | cons c more =>
      obtain rfl : c = '\n' := (List.cons_prefix_cons.mp h).1
      exact absurd (by simp) hstart

/-- The text that is left after dummifying tells what is left of each line. -/
theorem newlineTerminated_dummifyLine_eq_iff (hnames : ProperNames attributes)
    {lines lines' : List (List Char)} (hlines : ∀ line ∈ lines, '\n' ∉ line)
    (hlines' : ∀ line ∈ lines', '\n' ∉ line) :
    newlineTerminated (lines.map (dummifyLine attributes pk)) =
        newlineTerminated (lines'.map (dummifyLine attributes pk)) ↔
      lines.map (exposedLine attributes) = lines'.map (exposedLine attributes) := by
  have hstart {line : List Char} {e : String × String} (hline : '\n' ∉ line)
      (h : hiddenBy attributes line = some e) : '\n' ∉ lineStart e.1 :=
    fun hmem ↦ hline ((hiddenBy_eq_some h).2.mem hmem)
  have hstarts {line : List Char} {e : String × String} (h : hiddenBy attributes line = some e)
      (rest : List Char) : lineStart e.1 <+: dummifyLine attributes pk line ++ '\n' :: rest :=
    (lineStart_prefix_dummifyLine h).trans (List.prefix_append _ _)
  induction lines generalizing lines' with
  | nil => cases lines' <;> simp
  | cons line lines ih =>
    cases lines' with
    | nil => simp
    | cons line' lines' =>
      have hline := hlines line List.mem_cons_self
      have hline' := hlines' line' List.mem_cons_self
      have hrest : newlineTerminated (lines.map (dummifyLine attributes pk)) =
          newlineTerminated (lines'.map (dummifyLine attributes pk)) ↔
            lines.map (exposedLine attributes) = lines'.map (exposedLine attributes) :=
        ih (fun l hl ↦ hlines l (List.mem_cons_of_mem _ hl))
          (fun l hl ↦ hlines' l (List.mem_cons_of_mem _ hl))
      rw [List.map_cons, List.map_cons, List.map_cons, List.map_cons, newlineTerminated_cons,
        newlineTerminated_cons, List.cons.injEq, ← @dummifyLine_eq_iff _ pk _ _ hnames, ← hrest]
      constructor
      · intro hsame
        -- The first lines begin in the same way, so they are both hidden by the same setting or
        -- both as they are.
        have hfirst : dummifyLine attributes pk line = dummifyLine attributes pk line' := by
          cases h : hiddenBy attributes line with
          | none =>
            cases h' : hiddenBy attributes line' with
            | none =>
              rw [dummifyLine_of_none h, dummifyLine_of_none h'] at hsame ⊢
              exact (append_separator_inj hline hline' hsame).1
            | some e' =>
              rw [dummifyLine_of_none h] at hsame
              have hshown := prefix_of_prefix_append_newline (hstart hline' h')
                (hsame ▸ hstarts h' _)
              exact absurd hshown (hiddenBy_eq_none_iff.mp h e' (hiddenBy_eq_some h').1)
          | some e =>
            have hbegins := hstarts h (newlineTerminated (lines.map (dummifyLine attributes pk)))
            rw [hsame] at hbegins
            cases h' : hiddenBy attributes line' with
            | none =>
              rw [dummifyLine_of_none h'] at hbegins
              have hshown := prefix_of_prefix_append_newline (hstart hline h) hbegins
              exact absurd hshown (hiddenBy_eq_none_iff.mp h' e (hiddenBy_eq_some h).1)
            | some e' =>
              obtain ⟨he, hname⟩ := hiddenBy_eq_some h
              obtain ⟨he', hname'⟩ := hiddenBy_eq_some h'
              have hnames' := name_unique hnames he he' hbegins (hstarts h' _)
              exact dummifyLine_congr hnames he hname (hnames' ▸ hname')
        rw [hfirst] at hsame
        exact ⟨hfirst, (List.cons.inj (List.append_cancel_left hsame)).2⟩
      · rintro ⟨hfirst, hothers⟩
        rw [hfirst, hothers]

/-- Dummifying does not change how a line begins. -/
theorem head?_dummifyLine : (dummifyLine attributes pk line).head? = line.head? := by
  cases h : hiddenBy attributes line with
  | none => rw [dummifyLine_of_none h]
  | some e =>
    have hhead {text : List Char} (hstarts : lineStart e.1 <+: text) :
        text.head? = (lineStart e.1).head? := by
      obtain ⟨rest, rfl⟩ := hstarts
      cases hname : e.1.toList <;> simp [lineStart, hname]
    rw [hhead (lineStart_prefix_dummifyLine h), hhead (hiddenBy_eq_some h).2]

end Lines

section Texts

variable {attributes : List (String × String)} {pk : List Char}

/-- A text that dummifying leaves as it is: its lines end in newlines, and hidden attributes have
their dummy values. -/
def Unchanged (attributes : List (String × String)) (pk text : List Char) : Prop :=
  (∀ c ∈ text, c ∈ lineBreaks → c = '\n') ∧
    ∀ line ∈ splitlines text, dummifyLine attributes pk line = line

instance (attributes : List (String × String)) (pk text : List Char) :
    Decidable (Unchanged attributes pk text) :=
  inferInstanceAs (Decidable ((∀ c ∈ text, c ∈ lineBreaks → c = '\n') ∧
    ∀ line ∈ splitlines text, dummifyLine attributes pk line = line))

/-- A text whose lines all end in newlines. -/
theorem eq_newlineTerminated {text : List Char}
    (h : ∀ piece ∈ splitlinesKeepends text, piece.2 = ['\n']) :
    newlineTerminated (splitlines text) = text := by
  have hpieces : newlineTerminated (splitlines text) =
      (splitlinesKeepends text).flatMap (fun piece ↦ piece.1 ++ piece.2) := by
    unfold newlineTerminated splitlines
    rw [List.flatMap_map]
    exact List.flatMap_congr (fun piece hpiece ↦ by rw [h piece hpiece])
  rw [hpieces, flatMap_splitlinesKeepends]

/-- There are at most as many newlines as single characters, and only newlines if there are as
many. -/
theorem count_endings (pieces : List (List Char × List Char))
    (hpieces : ∀ piece ∈ pieces, ∃ c, piece.2 = [c]) :
    (pieces.map (fun piece ↦ piece.2.count '\n')).sum ≤ pieces.length ∧
      ((pieces.map (fun piece ↦ piece.2.count '\n')).sum = pieces.length →
        ∀ piece ∈ pieces, piece.2 = ['\n']) := by
  induction pieces with
  | nil => simp
  | cons piece pieces ih =>
    obtain ⟨⟨c, hc⟩, hothers⟩ := List.forall_mem_cons.mp hpieces
    obtain ⟨hle, heq⟩ := ih hothers
    rw [List.map_cons, List.sum_cons, List.length_cons, hc]
    by_cases hnewline : c = '\n'
    · subst hnewline
      rw [List.count_singleton_self]
      exact ⟨by omega, fun hsum ↦ List.forall_mem_cons.mpr ⟨hc, heq (by omega)⟩⟩
    · have hzero : [c].count '\n' = 0 :=
        List.count_eq_zero.mpr (by simpa using Ne.symm hnewline)
      rw [hzero]
      exact ⟨by omega, fun hsum ↦ by omega⟩

/-- Dummifying leaves a text as it is exactly where that is so line by line. -/
theorem newlineTerminated_dummifyLine_eq_self_iff {text : List Char}
    (hendings : ∀ piece ∈ splitlinesKeepends text, ∃ c ∈ lineBreaks, piece.2 = [c]) :
    newlineTerminated ((splitlines text).map (dummifyLine attributes pk)) = text ↔
      Unchanged attributes pk text := by
  have hmem {piece : List Char × List Char} (hpiece : piece ∈ splitlinesKeepends text) {c : Char}
      (hc : c ∈ piece.2) : c ∈ text := by
    rw [← flatMap_splitlinesKeepends text]
    exact List.mem_flatMap.mpr ⟨piece, hpiece, List.mem_append_right _ hc⟩
  constructor
  · intro hsame
    -- There is a newline for each line, so no line ends in another character, and no dummy value
    -- has a newline.
    have hcount := congrArg (List.count '\n') hsame
    have htext : text.count '\n' =
        ((splitlinesKeepends text).map (fun piece ↦ piece.2.count '\n')).sum := by
      conv_lhs => rw [← flatMap_splitlinesKeepends text]
      rw [List.count_flatMap]
      refine congrArg List.sum (List.map_congr_left (fun piece hpiece ↦ ?_))
      have hline := not_mem_of_mem_splitlines (List.mem_map_of_mem (f := Prod.fst) hpiece)
        (show '\n' ∈ lineBreaks by decide)
      rw [Function.comp_apply, List.count_append, List.count_eq_zero_of_not_mem hline, Nat.zero_add]
    rw [count_newlineTerminated, htext, List.length_map] at hcount
    obtain ⟨hatMost, hall⟩ := count_endings _ (fun piece hpiece ↦
      (hendings piece hpiece).imp (fun _ h ↦ h.2))
    have hlength : (splitlines text).length = (splitlinesKeepends text).length := by
      simp [splitlines]
    have hnewlines := hall (by omega)
    have hvalues : ∀ line ∈ splitlines text, '\n' ∉ dummifyLine attributes pk line := by
      have hsum : (((splitlines text).map (dummifyLine attributes pk)).map
          (fun line ↦ line.count '\n')).sum = 0 := by omega
      intro line hline
      rw [List.sum_eq_zero_iff_forall_eq_nat] at hsum
      have hzero := hsum _ (List.mem_map_of_mem (List.mem_map_of_mem hline))
      exact List.count_eq_zero.mp hzero
    refine ⟨fun c hc hbreak ↦ ?_, fun line hline ↦ ?_⟩
    · rw [← flatMap_splitlinesKeepends text] at hc
      obtain ⟨piece, hpiece, hc⟩ := List.mem_flatMap.mp hc
      rcases List.mem_append.mp hc with hc | hc
      · exact absurd hc (not_mem_of_mem_splitlines
          (List.mem_map_of_mem (f := Prod.fst) hpiece) hbreak)
      · rw [hnewlines piece hpiece] at hc
        exact List.mem_singleton.mp hc
    · have hlines : (splitlines text).map (dummifyLine attributes pk) = splitlines text :=
        newlineTerminated_inj (List.forall_mem_map.mpr hvalues)
          (fun line hline ↦ not_mem_of_mem_splitlines hline (by decide))
          (hsame.trans (eq_newlineTerminated hnewlines).symm)
      exact List.map_inj_left.mp (hlines.trans (List.map_id _).symm) line hline
  · rintro ⟨hbreaks, hlines⟩
    have hnewlines : ∀ piece ∈ splitlinesKeepends text, piece.2 = ['\n'] := by
      intro piece hpiece
      obtain ⟨c, hc, hending⟩ := hendings piece hpiece
      rw [hending, hbreaks c (hmem hpiece (by simp [hending])) hc]
    rw [List.map_congr_left (g := id) hlines, List.map_id, eq_newlineTerminated hnewlines]

end Texts

section Remarks

/-- The number of lines that do not continue an attribute. -/
def countStarts (text : List Char) : Nat :=
  (text.splitOn '\n').countP (fun line ↦ !line.head?.any isContinuation)

theorem countStarts_append_newline (x y : List Char) :
    countStarts (x ++ '\n' :: y) = countStarts x + countStarts y := by
  unfold countStarts
  rw [List.splitOn_append_cons_self, List.countP_append]

/-- The lines that do not continue an attribute are counted line by line. -/
theorem countStarts_newlineTerminated (lines : List (List Char)) (rest : List Char) :
    countStarts (newlineTerminated lines ++ rest) =
      (lines.map countStarts).sum + countStarts rest := by
  induction lines with
  | nil => simp
  | cons line lines ih =>
    rw [newlineTerminated_cons, List.append_assoc, List.cons_append, countStarts_append_newline, ih,
      List.map_cons, List.sum_cons, Nat.add_assoc]

/-- A text begins with a line that continues no attribute unless it begins like one that does. -/
theorem countStarts_pos {text : List Char} (htext : text.head?.any isContinuation = false) :
    0 < countStarts text := by
  unfold countStarts
  rw [List.countP_pos_iff]
  cases text with
  | nil => exact ⟨[], by simp [List.splitOn_nil], rfl⟩
  | cons c text =>
    rw [List.splitOn_cons_eq_if_modifyHead]
    split
    · exact ⟨[], List.mem_cons_self, rfl⟩
    · cases hparts : text.splitOn '\n' with
      | nil => exact absurd hparts (List.splitOn_ne_nil _ _)
      | cons part parts =>
        refine ⟨c :: part, List.mem_cons_self, ?_⟩
        simpa using htext

/-- A line without newlines is counted if it continues no attribute. -/
theorem countStarts_line {line : List Char} (hline : '\n' ∉ line) :
    countStarts line = if line.head?.any isContinuation then 0 else 1 := by
  unfold countStarts
  rw [List.splitOn_eq_singleton hline, List.countP_singleton]
  cases line.head?.any isContinuation <;> rfl

/-- Remarks begin with the name of their attribute, unless they are only whitespace. -/
theorem head?_strip_indent {remarks start : List Char} {c : Char} (hc : start.head? = some c)
    (hspace : c ∉ whitespace) :
    (strip (indent remarks start)).head? = none ∨
      (strip (indent remarks start)).head? = some c := by
  rw [head?_strip]
  unfold indent
  have hpieces := mem_splitlinesKeepends remarks
  generalize splitlinesKeepends remarks = pieces at hpieces
  induction pieces with
  | nil => exact .inl rfl
  | cons piece pieces ih =>
    obtain ⟨line, ending⟩ := piece
    obtain ⟨⟨-, hending⟩, hothers⟩ := List.forall_mem_cons.mp hpieces
    rw [List.flatMap_cons]
    dsimp only
    split
    · next hblank =>
      have hline := mem_whitespace_of_strip hblank
      have hbreaks : ∀ d ∈ ending, d ∈ whitespace := by
        rcases hending with rfl | rfl | ⟨d, hd, rfl⟩
        · simp
        · simp [whitespace, lineBreaks]
        · exact List.forall_mem_singleton.mpr (List.mem_append_left _ hd)
      have hall : ∀ d ∈ line ++ ending, decide (d ∈ whitespace) = true := by
        intro d hd
        rcases List.mem_append.mp hd with hd | hd
        · exact decide_eq_true (hline d hd)
        · exact decide_eq_true (hbreaks d hd)
      rw [List.dropWhile_append_of_pos hall]
      exact ih hothers
    · refine .inr ?_
      cases start with
      | nil => cases hc
      | cons d start =>
        cases hc
        simp [hspace]

end Remarks

section Objects

variable {attributes : List (String × String)} {pk : List Char} {obj obj' : ParsedObject}

/-- The lines of rendered text end in single characters. -/
theorem ending_renderRpslText (hobj : obj.ProperAttributes) :
    ∀ piece ∈ splitlinesKeepends obj.renderRpslText, ∃ c ∈ lineBreaks, piece.2 = [c] := by
  rw [renderRpslText_eq, splitlinesKeepends_newlineTerminated]
  intro piece hpiece
  obtain ⟨line, hline, hpiece⟩ := List.mem_flatMap.mp hpiece
  obtain ⟨a, ha, hline⟩ := List.mem_flatMap.mp hline
  obtain ⟨hnewline, hreturn⟩ := mem_attributeLines (hobj a ha) hline
  exact ending_splitlinesKeepends hnewline hreturn piece hpiece

/-- Rendered text has a line for each attribute that continues none. -/
theorem countStarts_renderRpslText (hobj : obj.ProperAttributes) :
    countStarts obj.renderRpslText = obj.objectData.length + 1 := by
  rw [renderRpslText_eq, ← List.append_nil (newlineTerminated _), countStarts_newlineTerminated]
  unfold ParsedObject.ProperAttributes at hobj
  generalize obj.objectData = data at hobj
  have hsum : ((data.flatMap attributeLines).map countStarts).sum = data.length := by
    induction data with
    | nil => rfl
    | cons a data ih =>
      obtain ⟨ha, hothers⟩ := List.forall_mem_cons.mp hobj
      obtain ⟨first, rest, hlines, hrest⟩ := attributeLines_spec ha
      have hnewline {line : List Char} (h : line ∈ attributeLines a) := (mem_attributeLines ha h).1
      rw [List.flatMap_cons, List.map_append, List.sum_append, ih hothers]
      rw [hlines] at hnewline ⊢
      have hname : (a.name ++ ':' :: first).head?.any isContinuation = false := by
        cases hname : a.name with
        | nil => rfl
        | cons c name => exact (ha.of_mem_name (hname ▸ List.mem_cons_self)).1
      have hcontinued : (rest.map countStarts).sum = 0 := by
        rw [List.sum_eq_zero_iff_forall_eq_nat]
        intro n hn
        obtain ⟨line, hline, rfl⟩ := List.mem_map.mp hn
        obtain ⟨c, text, rfl, hc⟩ := hrest line hline
        rw [countStarts_line (hnewline (List.mem_cons_of_mem _ hline))]
        simp [hc]
      rw [List.map_cons, List.sum_cons, countStarts_line (hnewline List.mem_cons_self), hname,
        hcontinued, List.length_cons]
      simp only [Bool.false_eq_true, if_false]
      omega
  rw [hsum]
  rfl

/-- Dummified text has such a line for each attribute as well. -/
theorem le_countStarts_dummified (hobj : obj.ProperAttributes) (rest : List Char) :
    obj.objectData.length + countStarts rest ≤
      countStarts (newlineTerminated ((splitlines obj.renderRpslText).map
        (dummifyLine attributes pk)) ++ rest) := by
  rw [countStarts_newlineTerminated]
  have hlines : splitlines obj.renderRpslText = obj.objectData.flatMap (fun a ↦
      (attributeLines a).flatMap (fun line ↦ splitlines (line ++ ['\n']))) := by
    unfold splitlines
    rw [renderRpslText_eq, splitlinesKeepends_newlineTerminated, List.flatMap_assoc,
      List.map_flatMap]
    exact List.flatMap_congr (fun a _ ↦ List.map_flatMap)
  rw [hlines]
  unfold ParsedObject.ProperAttributes at hobj
  generalize obj.objectData = data at hobj
  refine Nat.add_le_add_right ?_ _
  induction data with
  | nil => exact Nat.zero_le _
  | cons a data ih =>
    obtain ⟨ha, hothers⟩ := List.forall_mem_cons.mp hobj
    obtain ⟨first, rest, hlines, -⟩ := attributeLines_spec ha
    have hone : 1 ≤ ((((attributeLines a).flatMap (fun line ↦ splitlines (line ++ ['\n']))).map
        (dummifyLine attributes pk)).map countStarts).sum := by
      -- The first of these lines begins with the name of the attribute.
      cases hname : a.name with
      | nil =>
        have hproper := ha.name
        rw [hname] at hproper
        cases hproper
      | cons c name =>
        obtain ⟨hcontinues, hbreak, -⟩ := ha.of_mem_name (hname ▸ List.mem_cons_self)
        have hsplit : ∃ line lines, splitlines (c :: (name ++ ':' :: first ++ ['\n'])) =
            (c :: line) :: lines := by
          unfold splitlines
          rw [splitlinesKeepends_of_not_break hbreak]
          cases splitlinesKeepends (name ++ ':' :: first ++ ['\n']) with
          | nil => exact ⟨[], [], rfl⟩
          | cons piece pieces => exact ⟨piece.1, pieces.map Prod.fst, rfl⟩
        obtain ⟨line, lines, hsplit⟩ := hsplit
        have hpos : 0 < countStarts (dummifyLine attributes pk (c :: line)) := by
          refine countStarts_pos ?_
          rw [head?_dummifyLine]
          exact hcontinues
        rw [hlines, hname, List.flatMap_cons, List.cons_append, List.cons_append, hsplit,
          List.cons_append, List.map_cons, List.map_cons, List.sum_cons]
        omega
    rw [List.flatMap_cons, List.map_append, List.map_append, List.sum_append, List.length_cons]
    have hrest := ih hothers
    omega

/-- The attributes of two objects are the same, except for the values of hidden ones. -/
def SameButHidden (attributes : List (String × String)) (obj obj' : ParsedObject) : Prop :=
  List.Forall₂ (fun a a' : Attribute ↦
    a.name = a'.name ∧ ((∃ e ∈ attributes, e.1.toList = a.name) ∨ a = a'))
    obj.objectData obj'.objectData

instance (attributes : List (String × String)) : Decidable (SameButHidden attributes obj obj') :=
  inferInstanceAs (Decidable (List.Forall₂ _ _ _))

/-- Objects of this class are dummified. -/
def DummifiesClass (d : DummifySettings) (objectClass : String) : Prop :=
  objectClass.toList ∈ d.objectClasses.map (fun c ↦ lower (strip c.toList))

instance (d : DummifySettings) (objectClass : String) : Decidable (DummifiesClass d objectClass) :=
  inferInstanceAs (Decidable (_ ∈ _))

/-- The lines that tell of dummifying. -/
def remarkLines (remarks : List Char) : List Char :=
  strip (indent remarks (ljust "remarks:".toList rpslAttributeTextWidth)) ++ ['\n']

/-- What is added to a dummified text that is not the original one. -/
def dummyRemarks (d : DummifySettings) (text dummified : List Char) : List Char :=
  match d.remarks with
  | some remarks => if remarks ≠ "" ∧ text ≠ dummified then remarkLines remarks.toList else []
  | none => []

/-- With remarks, texts are the same if they are dummified to the same and both or neither have
changed, provided that adding remarks to a text makes it none of the original ones. -/
theorem append_dummyRemarks_eq_iff {d : DummifySettings}
    {text text' dummified dummified' : List Char}
    (hremarks : ∀ remarks, dummified ++ remarkLines remarks ≠ text')
    (hremarks' : ∀ remarks, dummified' ++ remarkLines remarks ≠ text) :
    dummified ++ dummyRemarks d text dummified = dummified' ++ dummyRemarks d text' dummified' ↔
      dummified = dummified' ∧
        (isSet d.remarks = true → (dummified = text ↔ dummified' = text')) := by
  have hempty (remarks : String) : isSet (some remarks) = true ↔ remarks ≠ "" := by
    simp [isSet]
  unfold dummyRemarks
  cases d.remarks with
  | none => simp [isSet]
  | some remarks =>
    dsimp only
    rw [hempty]
    by_cases hset : remarks = ""
    · simp [hset]
    by_cases hsame : dummified = text
    · by_cases hsame' : dummified' = text'
      · simp [hset, hsame, hsame']
      · have hchanged : ¬ text' = dummified' := fun h ↦ hsame' h.symm
        have hlines := hremarks' remarks.toList
        simp only [hset, hsame, hsame', hchanged, ne_eq, not_true_eq_false, not_false_eq_true,
          and_true, and_false, if_true, if_false, List.append_nil, true_iff, imp_false]
        exact iff_of_false (Ne.symm hlines) id
    · have hchanged : ¬ text = dummified := fun h ↦ hsame h.symm
      by_cases hsame' : dummified' = text'
      · have hlines := hremarks remarks.toList
        simp only [hset, hsame, hsame', hchanged, ne_eq, not_true_eq_false, not_false_eq_true,
          and_true, and_false, if_true, if_false, List.append_nil, iff_true, imp_false,
          iff_false]
        exact hlines
      · have hchanged' : ¬ text' = dummified' := fun h ↦ hsame' h.symm
        simp [hset, hsame, hsame', hchanged, hchanged']

/-- The text of an object of a dummified class. -/
theorem dummifyObjectText_eq {d : DummifySettings} {objectClass : String}
    (hclass : DummifiesClass d objectClass) (hattributes : d.attributes ≠ []) (pk : String)
    {text : List Char} (htext : text ≠ []) :
    dummifyObjectText d (display text) objectClass pk =
      display (newlineTerminated ((splitlines text).map (dummifyLine d.attributes pk.toList)) ++
        dummyRemarks d text
          (newlineTerminated ((splitlines text).map (dummifyLine d.attributes pk.toList)))) := by
  have hlist : (display text).toList = text := String.toList_ofList
  have hempty : display text ≠ "" := by
    intro h
    rw [h] at hlist
    exact htext hlist.symm
  have hlines : (splitlines text).map (dummifyLine d.attributes pk.toList) ≠ [] := by
    simp [splitlines, splitlinesKeepends_eq_nil_iff, htext]
  unfold dummifyObjectText
  dsimp only
  rw [if_neg (by
    rintro (h | h | h)
    · exact hempty h
    · exact h hclass
    · exact hattributes h), hlist, intercalate_newline hlines]
  unfold dummyRemarks remarkLines
  cases d.remarks with
  | none => simp [display]
  | some remarks =>
    dsimp only
    split
    · simp [display]
    · simp [display]

/-- Remarks are never what makes a dummified text one that needs none. -/
theorem dummified_append_ne {d : DummifySettings} {remarks : List Char}
    (hobj : obj.ProperAttributes) (hobj' : obj'.ProperAttributes)
    (hlength : obj.objectData.length = obj'.objectData.length) :
    newlineTerminated ((splitlines obj.renderRpslText).map (dummifyLine d.attributes pk)) ++
      remarkLines remarks ≠ obj'.renderRpslText := by
  intro hsame
  have hcount := @le_countStarts_dummified d.attributes pk obj hobj (remarkLines remarks)
  rw [hsame, countStarts_renderRpslText hobj', remarkLines, countStarts_append_newline] at hcount
  have hremarks : 0 < countStarts
      (strip (indent remarks (ljust "remarks:".toList rpslAttributeTextWidth))) := by
    refine countStarts_pos ?_
    rcases @head?_strip_indent remarks (ljust "remarks:".toList rpslAttributeTextWidth) 'r' rfl
      (by decide) with h | h
    · rw [h]
      rfl
    · rw [h]
      rfl
  have hlast : 0 < countStarts [] := by decide
  omega

/-- Dummified texts of objects that only differ in hidden values are the same exactly where the
values have nothing but their first lines to hide, and where remarks are set, both or neither have
their dummy values already. -/
theorem dummifyObjectText_eq_iff (d : DummifySettings) (hnames : ProperNames d.attributes)
    {objectClass : String} (hclass : DummifiesClass d objectClass) (pk : String)
    {obj obj' : ParsedObject} (hobj : obj.ProperAttributes) (hobj' : obj'.ProperAttributes)
    (hsame : SameButHidden d.attributes obj obj') :
    dummifyObjectText d (display obj.renderRpslText) objectClass pk =
        dummifyObjectText d (display obj'.renderRpslText) objectClass pk ↔
      (splitlines obj.renderRpslText).map (exposedLine d.attributes) =
          (splitlines obj'.renderRpslText).map (exposedLine d.attributes) ∧
        (isSet d.remarks = true → (Unchanged d.attributes pk.toList obj.renderRpslText ↔
          Unchanged d.attributes pk.toList obj'.renderRpslText)) := by
  have hlength : obj.objectData.length = obj'.objectData.length := List.Forall₂.length_eq hsame
  by_cases hattributes : d.attributes = []
  · have hdata : obj.objectData = obj'.objectData := by
      rw [SameButHidden, hattributes] at hsame
      refine List.forall₂_eq_eq_eq ▸ hsame.imp (fun a a' h ↦ ?_)
      simpa using h.2
    have htext : obj.renderRpslText = obj'.renderRpslText := by
      rw [renderRpslText_eq, renderRpslText_eq, hdata]
    simp [htext]
  by_cases hempty : obj.objectData = []
  · have hempty' : obj'.objectData = [] := by
      rw [← List.length_eq_zero_iff, ← hlength, hempty]
      rfl
    have htext : obj.renderRpslText = obj'.renderRpslText := by
      rw [renderRpslText_eq, renderRpslText_eq, hempty, hempty']
    simp [htext]
  have hnonempty {o : ParsedObject} (ho : o.ProperAttributes) (hlen : 0 < o.objectData.length) :
      o.renderRpslText ≠ [] := by
    intro h
    have hcount := countStarts_renderRpslText ho
    rw [h, show countStarts [] = 1 from rfl] at hcount
    omega
  have hpos : 0 < obj.objectData.length := List.length_pos_iff.mpr hempty
  have hexposed := @newlineTerminated_dummifyLine_eq_iff _ pk.toList hnames
    (splitlines obj.renderRpslText) (splitlines obj'.renderRpslText)
    (fun line hline ↦ not_mem_of_mem_splitlines hline (by decide))
    (fun line hline ↦ not_mem_of_mem_splitlines hline (by decide))
  have hunchanged := @newlineTerminated_dummifyLine_eq_self_iff d.attributes pk.toList _
    (ending_renderRpslText hobj)
  have hunchanged' := @newlineTerminated_dummifyLine_eq_self_iff d.attributes pk.toList _
    (ending_renderRpslText hobj')
  rw [dummifyObjectText_eq hclass hattributes pk (hnonempty hobj hpos),
    dummifyObjectText_eq hclass hattributes pk (hnonempty hobj' (hlength ▸ hpos)), display, display,
    String.ofList_inj, ← hexposed, ← hunchanged, ← hunchanged']
  exact append_dummyRemarks_eq_iff (fun _ ↦ dummified_append_ne hobj hobj' hlength)
    (fun _ ↦ dummified_append_ne hobj' hobj hlength.symm)

section Examples

/-- A person with this address. -/
def personAt (address : List Char) : List Char :=
  "person: A\naddress: ".toList ++ address ++ "\nnic-hdl: A-T\nsource: TS".toList

/-- Addresses of persons are hidden. -/
def hiddenAddresses : DummifySettings := ⟨["person"], [("address", "Hidden")], none⟩

/-- The second line of an address is not hidden. -/
theorem dummifyObjectText_continuation_ne :
    ∃ obj obj',
      rpslObjectFromText plainEnvironment (personAt "Street\n 1".toList) false none = .ok obj ∧
      rpslObjectFromText plainEnvironment (personAt "Street\n 2".toList) false none = .ok obj' ∧
      obj.errors = [] ∧ obj'.errors = [] ∧ obj.pk = obj'.pk ∧
      DummifiesClass hiddenAddresses "person" ∧
      SameButHidden hiddenAddresses.attributes obj obj' ∧
      dummifyObjectText hiddenAddresses (display obj.renderRpslText) "person" "A-T" ≠
        dummifyObjectText hiddenAddresses (display obj'.renderRpslText) "person" "A-T" :=
  ⟨_, _, rfl, rfl, by decide +kernel, by decide +kernel, by decide +kernel, by decide +kernel,
    by decide +kernel, by decide +kernel⟩

/-- Addresses of one line are hidden. -/
theorem dummifyObjectText_eq_iff_address :
    ∃ obj obj',
      rpslObjectFromText plainEnvironment (personAt "Street 1".toList) false none = .ok obj ∧
      rpslObjectFromText plainEnvironment (personAt "Street 2".toList) false none = .ok obj' ∧
      obj.renderRpslText ≠ obj'.renderRpslText ∧
      dummifyObjectText hiddenAddresses (display obj.renderRpslText) "person" "A-T" =
        dummifyObjectText hiddenAddresses (display obj'.renderRpslText) "person" "A-T" :=
  ⟨_, _, rfl, rfl, by decide +kernel,
    (dummifyObjectText_eq_iff hiddenAddresses (by decide +kernel) (by decide +kernel) "A-T"
      (@properAttributes_rpslObjectFromText plainEnvironment
        (personAt "Street 1".toList) false none _ rfl)
      (@properAttributes_rpslObjectFromText plainEnvironment
        (personAt "Street 2".toList) false none _ rfl)
      (by decide +kernel)).mpr ⟨by decide +kernel, fun h ↦ absurd h (by decide)⟩⟩

end Examples

end Objects

end Irrd.Mirroring
