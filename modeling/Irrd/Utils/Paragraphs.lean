import Irrd.Utils.Splitlines

/-!
# Paragraphs

Blocks of lines that empty lines separate. Source: `irrd/utils/text.py`.
-/

namespace Irrd.Utils

/-- A line that is left out. Lines with `#` are, whether or not comments are to be stripped. -/
def isIgnoredLine (stripComments : Bool) (line : List Char) : Bool :=
  (stripComments && line.head? = some '%') || line.head? = some '#'

/-- A line ends the paragraph so far, or adds to it, `irrd/utils/text.py:67–76`. -/
def paragraphStep (stripComments : Bool) (current line : List Char) :
    Option (List Char) × List Char :=
  let line := stripChars ['\r', '\n'] line
  if isIgnoredLine stripComments line then (none, current)
  else if line = [] then (if current = [] then none else some current, [])
  else (none, current ++ line ++ ['\n'])

/-- The paragraphs that lines complete, and the one that is left. -/
def scanParagraphs (stripComments : Bool) : List Char → List (List Char) →
    List (List Char) × List Char
  | current, [] => ([], current)
  | current, line :: lines =>
    let step := paragraphStep stripComments current line
    let rest := scanParagraphs stripComments step.2 lines
    (step.1.toList ++ rest.1, rest.2)

/-- The paragraphs of lines. -/
def paragraphsOfLines (stripComments : Bool) (lines : List (List Char)) : List (List Char) :=
  let scanned := scanParagraphs stripComments [] lines
  if strip scanned.2 = [] then scanned.1 else scanned.1 ++ [scanned.2]

/-- `split_paragraphs_rpsl`, `irrd/utils/text.py:50–79`. -/
def splitParagraphsRpsl (input : List Char) (stripComments : Bool) : List (List Char) :=
  paragraphsOfLines stripComments (splitlineUnicodesafe input)

/-- A line that paragraphs keep as it is. -/
structure KeptLine (line : List Char) : Prop where
  nonempty : line ≠ []
  newline : '\n' ∉ line
  stripped : stripChars ['\r', '\n'] line = line
  kept : isIgnoredLine false line = false

/-- A text that is one paragraph. -/
def IsParagraph (text : List Char) : Prop :=
  scanParagraphs false [] (text.splitOn '\n') = ([text], [])

instance (text : List Char) : Decidable (IsParagraph text) :=
  inferInstanceAs (Decidable (_ = _))

section Scanning

variable {stripComments : Bool} {current : List Char}

theorem scanParagraphs_append (lines lines' : List (List Char)) :
    scanParagraphs stripComments current (lines ++ lines') =
      ((scanParagraphs stripComments current lines).1 ++
        (scanParagraphs stripComments (scanParagraphs stripComments current lines).2 lines').1,
        (scanParagraphs stripComments (scanParagraphs stripComments current lines).2
          lines').2) := by
  induction lines generalizing current with
  | nil => rfl
  | cons line lines ih =>
    rw [List.cons_append, scanParagraphs, scanParagraphs]
    dsimp only
    rw [ih, List.append_assoc]

/-- An empty line leaves no paragraph open. -/
theorem scanParagraphs_concat_nil (lines : List (List Char)) :
    (scanParagraphs stripComments current (lines ++ [[]])).2 = [] := by
  rw [scanParagraphs_append]
  cases stripComments <;> simp [scanParagraphs, paragraphStep, stripChars, isIgnoredLine]

/-- Without an open paragraph, an empty line does nothing. -/
theorem scanParagraphs_nil_cons (lines : List (List Char)) :
    scanParagraphs stripComments [] ([] :: lines) = scanParagraphs stripComments [] lines := by
  cases stripComments <;> simp [scanParagraphs, paragraphStep, stripChars, isIgnoredLine]

/-- Kept lines add to the paragraph that is open. -/
theorem scanParagraphs_keptLines {lines : List (List Char)}
    (hlines : ∀ line ∈ lines, KeptLine line) :
    scanParagraphs false current lines = ([], current ++ newlineTerminated lines) := by
  induction lines generalizing current with
  | nil => simp [scanParagraphs]
  | cons line lines ih =>
    obtain ⟨hline, hothers⟩ := List.forall_mem_cons.mp hlines
    have hstep : paragraphStep false current line = (none, current ++ line ++ ['\n']) := by
      unfold paragraphStep
      dsimp only
      rw [hline.stripped, if_neg (by simp [hline.kept]), if_neg hline.nonempty]
    rw [scanParagraphs, hstep]
    dsimp only
    rw [ih hothers]
    simp

/-- What a step leaves open or completes consists of kept lines. -/
theorem paragraphStep_spec {line : List Char} (hline : '\n' ∉ line) {lines : List (List Char)}
    (hcurrent : current = newlineTerminated lines) (hlines : ∀ line ∈ lines, KeptLine line) :
    (∃ rest, (paragraphStep false current line).2 = newlineTerminated rest ∧
      ∀ line ∈ rest, KeptLine line) ∧
    ∀ paragraph, (paragraphStep false current line).1 = some paragraph → paragraph = current ∧
      lines ≠ [] := by
  unfold paragraphStep
  dsimp only
  split
  · exact ⟨⟨lines, hcurrent, hlines⟩, by simp⟩
  · next hkept =>
    rw [Bool.not_eq_true] at hkept
    split
    · refine ⟨⟨[], rfl, by simp⟩, fun paragraph h ↦ ?_⟩
      by_cases hnil : current = []
      · simp [hnil] at h
      · rw [if_neg hnil] at h
        refine ⟨(Option.some_inj.mp h).symm, ?_⟩
        rintro rfl
        exact hnil hcurrent
    · next hnonempty =>
      have hnew : KeptLine (stripChars ['\r', '\n'] line) := by
        exact ⟨hnonempty, fun h ↦ hline (mem_of_mem_stripChars h), stripChars_stripChars _ _, hkept⟩
      refine ⟨⟨lines ++ [stripChars ['\r', '\n'] line], by simp [hcurrent], ?_⟩, by simp⟩
      intro other hother
      rcases List.mem_append.mp hother with hother | hother
      · exact hlines other hother
      · rwa [List.mem_singleton.mp hother]

/-- Completed paragraphs consist of kept lines, like the one that is left. -/
theorem scanParagraphs_spec {lines : List (List Char)} (hlines : ∀ line ∈ lines, '\n' ∉ line)
    {kept : List (List Char)} (hcurrent : current = newlineTerminated kept)
    (hkept : ∀ line ∈ kept, KeptLine line) :
    (∀ paragraph ∈ (scanParagraphs false current lines).1, ∃ rest, rest ≠ [] ∧
      paragraph = newlineTerminated rest ∧ ∀ line ∈ rest, KeptLine line) ∧
    ∃ rest, (scanParagraphs false current lines).2 = newlineTerminated rest ∧
      ∀ line ∈ rest, KeptLine line := by
  induction lines generalizing current kept with
  | nil => exact ⟨by simp [scanParagraphs], kept, hcurrent, hkept⟩
  | cons line lines ih =>
    obtain ⟨hline, hothers⟩ := List.forall_mem_cons.mp hlines
    obtain ⟨⟨rest, hrest, hrestKept⟩, hcompleted⟩ := paragraphStep_spec hline hcurrent hkept
    obtain ⟨hparagraphs, hlast⟩ := ih hothers hrest hrestKept
    rw [scanParagraphs]
    refine ⟨fun paragraph hmem ↦ ?_, hlast⟩
    rcases List.mem_append.mp hmem with hmem | hmem
    · obtain ⟨rfl, hne⟩ := hcompleted paragraph (Option.mem_toList.mp hmem)
      exact ⟨kept, hne, hcurrent, hkept⟩
    · exact hparagraphs paragraph hmem

end Scanning

/-- A text is one paragraph if it consists of lines that paragraphs keep. -/
theorem isParagraph_iff {text : List Char} : IsParagraph text ↔
    ∃ lines, lines ≠ [] ∧ text = newlineTerminated lines ∧ ∀ line ∈ lines, KeptLine line := by
  constructor
  · intro h
    have hspec := (@scanParagraphs_spec [] (text.splitOn '\n')
      (fun line hline ↦ not_mem_of_mem_splitOn hline) [] rfl (by simp)).1
    rw [show scanParagraphs false [] (text.splitOn '\n') = ([text], []) from h] at hspec
    exact hspec text (List.mem_singleton_self _)
  · rintro ⟨lines, hlines, rfl, hkept⟩
    have hopen : newlineTerminated lines ≠ [] := by
      cases lines with
      | nil => exact absurd rfl hlines
      | cons line lines => simp
    unfold IsParagraph
    rw [splitOn_newlineTerminated (fun line hline ↦ (hkept line hline).newline),
      scanParagraphs_append, scanParagraphs_keptLines hkept]
    simp [scanParagraphs, paragraphStep, stripChars, isIgnoredLine, hopen]

section Composition

variable {stripComments : Bool} {lines lines' : List (List Char)}

/-- Lines that leave no paragraph open are taken apart on their own. -/
theorem paragraphsOfLines_append (hclosed : (scanParagraphs stripComments [] lines).2 = []) :
    paragraphsOfLines stripComments (lines ++ lines') =
      (scanParagraphs stripComments [] lines).1 ++ paragraphsOfLines stripComments lines' := by
  unfold paragraphsOfLines
  rw [scanParagraphs_append, hclosed]
  dsimp only
  split
  · rfl
  · rw [List.append_assoc]

/-- A kept line and an empty one are a paragraph. -/
theorem scanParagraphs_keptLine {line : List Char} (hline : KeptLine line) :
    scanParagraphs false [] [line, []] = ([line ++ ['\n']], []) := by
  have hkept := @scanParagraphs_keptLines [] _ (List.forall_mem_singleton.mpr hline)
  rw [show [line, []] = [line] ++ [[]] from rfl, scanParagraphs_append, hkept]
  simp [scanParagraphs, paragraphStep, stripChars, isIgnoredLine]

theorem paragraphsOfLines_keptLine {line : List Char} (hline : KeptLine line) :
    paragraphsOfLines false (line :: [] :: lines) =
      (line ++ ['\n']) :: paragraphsOfLines false lines := by
  have hscan := scanParagraphs_keptLine hline
  have happend := @paragraphsOfLines_append false _ lines (congrArg Prod.snd hscan)
  rw [hscan] at happend
  exact happend

/-- A text that is a paragraph is one wherever it stands. -/
theorem paragraphsOfLines_isParagraph {text : List Char} (htext : IsParagraph text) :
    paragraphsOfLines false (text.splitOn '\n' ++ lines) =
      text :: paragraphsOfLines false lines := by
  unfold IsParagraph at htext
  rw [paragraphsOfLines_append (by rw [htext]), htext]
  rfl

/-- All paragraphs are paragraphs. -/
theorem isParagraph_of_mem_paragraphsOfLines (hlines : ∀ line ∈ lines, '\n' ∉ line)
    {text : List Char} (htext : text ∈ paragraphsOfLines false lines) : IsParagraph text := by
  obtain ⟨hparagraphs, rest, hlast, hrest⟩ :=
    @scanParagraphs_spec [] _ hlines [] rfl (by simp)
  unfold paragraphsOfLines at htext
  dsimp only at htext
  split at htext
  · exact isParagraph_iff.mpr (hparagraphs text htext)
  · next hopen =>
    rcases List.mem_append.mp htext with htext | htext
    · exact isParagraph_iff.mpr (hparagraphs text htext)
    · rw [List.mem_singleton.mp htext]
      refine isParagraph_iff.mpr ⟨rest, ?_, hlast, hrest⟩
      rintro rfl
      exact hopen (by rw [hlast]; rfl)

end Composition

section Input

/-- Empty lines at the beginning do not matter. -/
theorem paragraphsOfLines_dropWhile (stripComments : Bool) (text : List Char) :
    paragraphsOfLines stripComments ((text.dropWhile (fun c ↦ decide (c ∈ ['\n']))).splitOn '\n') =
      paragraphsOfLines stripComments (text.splitOn '\n') := by
  induction text with
  | nil => rfl
  | cons c text ih =>
    by_cases hc : c = '\n'
    · subst hc
      have hsplit : ('\n' :: text).splitOn '\n' = [] :: text.splitOn '\n' := by
        have happend := List.splitOn_append_cons_self (a := '\n') [] text
        simpa using happend
      rw [List.dropWhile_cons_of_pos (by decide), ih, hsplit]
      unfold paragraphsOfLines
      rw [scanParagraphs_nil_cons]
    · rw [List.dropWhile_cons_of_neg (by simpa using hc)]

/-- Carriage returns at the ends of lines do not matter. -/
theorem paragraphsOfLines_map_stripChars (stripComments : Bool) (lines : List (List Char)) :
    paragraphsOfLines stripComments (lines.map (stripChars ['\r'])) =
      paragraphsOfLines stripComments lines := by
  have hscan (current : List Char) :
      scanParagraphs stripComments current (lines.map (stripChars ['\r'])) =
        scanParagraphs stripComments current lines := by
    induction lines generalizing current with
    | nil => rfl
    | cons line lines ih =>
      have hstep : paragraphStep stripComments current (stripChars ['\r'] line) =
          paragraphStep stripComments current line := by
        unfold paragraphStep
        rw [stripChars_stripChars_of_subset (by simp)]
      rw [List.map_cons, scanParagraphs, scanParagraphs, hstep, ih]
  unfold paragraphsOfLines
  rw [hscan]

/-- The paragraphs of a text are those of its lines, if it does not end in a newline. -/
theorem splitParagraphsRpsl_eq (stripComments : Bool) {text : List Char}
    (hlast : text.getLast? ≠ some '\n') :
    splitParagraphsRpsl text stripComments =
      paragraphsOfLines stripComments (text.splitOn '\n') := by
  unfold splitParagraphsRpsl splitlineUnicodesafe
  split
  · next hnil =>
    subst hnil
    cases stripComments <;> decide
  · have hstrip : stripChars ['\n'] text = text.dropWhile (fun c ↦ decide (c ∈ ['\n'])) := by
      have hkept : ∀ c ∈ (text.dropWhile (fun c ↦ decide (c ∈ ['\n']))).reverse.head?,
          c ∉ ['\n'] := by
        intro c hc
        rw [List.head?_reverse] at hc
        obtain ⟨front, hfront⟩ := List.dropWhile_suffix (fun c ↦ decide (c ∈ ['\n'])) (l := text)
        rw [← hfront, List.getLast?_append, hc] at hlast
        simpa using hlast
      unfold stripChars
      rw [dropWhile_eq_self hkept, List.reverse_reverse]
    rw [paragraphsOfLines_map_stripChars, hstrip, paragraphsOfLines_dropWhile]

end Input

end Irrd.Utils
