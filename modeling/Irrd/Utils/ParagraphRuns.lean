import Irrd.Base.Runs
import Irrd.Utils.Paragraphs

/-!
# Paragraphs as runs

Paragraphs against the runs of lines that are not empty. Lines with `#` are always left out, and so
is what comes last if it is only whitespace, which for a text is not the same as for a file.
Source: `irrd/utils/text.py`.
-/

namespace Irrd.Utils

open Irrd.Base

/-- The lines that a text file yields, each with the newline that ends it. -/
def fileLines : List Char → List (List Char)
  | [] => []
  | c :: text =>
    if c = '\n' then ['\n'] :: fileLines text
    else
      match fileLines text with
      | [] => [[c]]
      | line :: lines => (c :: line) :: lines

/-- `split_paragraphs_rpsl` of a file with this content. -/
def splitParagraphsFile (content : List Char) (stripComments : Bool) : List (List Char) :=
  paragraphsOfLines stripComments (fileLines content)

/-- A line that begins with `%` or `#`. -/
def startsComment (line : List Char) : Bool := line.head? = some '%' || line.head? = some '#'

/-- The lines of a text, without their newlines and the carriage returns around them. -/
def textLines (content : List Char) : List (List Char) :=
  (content.splitOn '\n').map (stripChars ['\r'])

/-- The lines that are to be in paragraphs, and empty ones. -/
def relevantLines (content : List Char) (stripComments : Bool) : List (List Char) :=
  if stripComments then (textLines content).filter (fun line ↦ !startsComment line)
  else textLines content

/-- The maximal runs of lines that are not empty, as text. -/
def lineRuns (lines : List (List Char)) : List (List Char) :=
  (runs List.isEmpty lines).map newlineTerminated

/-- A text and a file with this content have the same paragraphs, which are the maximal runs of
lines that are not empty. -/
def LosesNothing (content : List Char) (stripComments : Bool) : Prop :=
  splitParagraphsRpsl content stripComments = lineRuns (relevantLines content stripComments) ∧
    splitParagraphsFile content stripComments = lineRuns (relevantLines content stripComments)

/-- The last run of lines in a text, newlines at its end left out, has more than whitespace. -/
def EndsInText (content : List Char) (stripComments : Bool) : Prop :=
  let last := lastRun List.isEmpty (relevantLines (stripChars ['\n'] content) stripComments)
  last = [] ∨ ∃ line ∈ last, strip line ≠ []

instance (content : List Char) (stripComments : Bool) :
    Decidable (EndsInText content stripComments) := inferInstanceAs (Decidable (_ ∨ _))

section Lines

variable {stripComments : Bool} {lines opened : List (List Char)} {line : List Char}

/-- The lines that are taken into paragraphs, and empty ones. -/
def takenLines (stripComments : Bool) (lines : List (List Char)) : List (List Char) :=
  (lines.map (stripChars ['\r', '\n'])).filter (fun line ↦ !isIgnoredLine stripComments line)

theorem takenLines_cons (line : List Char) (lines : List (List Char)) :
    takenLines stripComments (line :: lines) =
      if isIgnoredLine stripComments (stripChars ['\r', '\n'] line) then
        takenLines stripComments lines
      else stripChars ['\r', '\n'] line :: takenLines stripComments lines := by
  unfold takenLines
  rw [List.map_cons, List.filter_cons]
  cases isIgnoredLine stripComments (stripChars ['\r', '\n'] line) <;> rfl

theorem newlineTerminated_eq_nil_iff : newlineTerminated lines = [] ↔ lines = [] := by
  cases lines <;> simp

theorem lineRuns_of_forall (hlines : [] ∉ lines) :
    lineRuns lines = if newlineTerminated lines = [] then [] else [newlineTerminated lines] := by
  have hsplit : runs List.isEmpty lines = if lines = [] then [] else [lines] := by
    apply runs_of_forall
    intro line hline
    cases line with
    | nil => exact absurd hline hlines
    | cons c line => rfl
  unfold lineRuns
  rw [hsplit]
  by_cases hempty : lines = []
  · subst hempty
    rfl
  · rw [if_neg hempty, if_neg (mt newlineTerminated_eq_nil_iff.mp hempty)]
    rfl

/-- The paragraphs that lines complete, with the one that is left, are the runs of the lines that
are taken. -/
theorem scanParagraphs_eq (hopened : [] ∉ opened) (lines : List (List Char)) :
    (scanParagraphs stripComments (newlineTerminated opened) lines).1 ++
        (if (scanParagraphs stripComments (newlineTerminated opened) lines).2 = [] then []
          else [(scanParagraphs stripComments (newlineTerminated opened) lines).2]) =
      lineRuns (opened ++ takenLines stripComments lines) ∧
    (scanParagraphs stripComments (newlineTerminated opened) lines).2 =
      newlineTerminated (lastRun List.isEmpty (opened ++ takenLines stripComments lines)) := by
  have hnonempty {opened : List (List Char)} (h : [] ∉ opened) :
      ∀ line ∈ opened, line.isEmpty = false := by
    intro line hline
    cases line with
    | nil => exact absurd hline h
    | cons c line => rfl
  induction lines generalizing opened with
  | nil =>
    have htaken : opened ++ takenLines stripComments [] = opened := List.append_nil _
    rw [htaken, lineRuns_of_forall hopened, lastRun_of_forall (hnonempty hopened)]
    exact ⟨rfl, rfl⟩
  | cons line lines ih =>
    rw [takenLines_cons, scanParagraphs]
    unfold paragraphStep
    dsimp only
    by_cases hignored : isIgnoredLine stripComments (stripChars ['\r', '\n'] line) = true
    · rw [if_pos hignored, if_pos hignored]
      exact ih hopened
    rw [if_neg hignored, if_neg hignored]
    by_cases hempty : stripChars ['\r', '\n'] line = []
    · obtain ⟨hruns, hlast⟩ := @ih [] (by simp)
      rw [newlineTerminated_nil] at hruns hlast
      rw [if_pos hempty, hempty]
      dsimp only
      constructor
      · have hsplit : lineRuns (opened ++ [] :: takenLines stripComments lines) =
            lineRuns opened ++ lineRuns ([] ++ takenLines stripComments lines) := by
          unfold lineRuns
          rw [runs_append_cons rfl, List.map_append, List.nil_append]
        rw [hsplit, ← hruns, lineRuns_of_forall hopened, ← List.append_assoc]
        congr 2
        split <;> rfl
      · rw [lastRun_append_cons rfl]
        exact hlast
    · rw [if_neg hempty]
      dsimp only
      have hline : [] ∉ opened ++ [stripChars ['\r', '\n'] line] := by
        intro hmem
        rcases List.mem_append.mp hmem with hmem | hmem
        · exact hopened hmem
        · exact hempty (List.mem_singleton.mp hmem).symm
      have hcurrent : newlineTerminated opened ++ stripChars ['\r', '\n'] line ++ ['\n'] =
          newlineTerminated (opened ++ [stripChars ['\r', '\n'] line]) := by simp
      rw [hcurrent, ← List.singleton_append (l := takenLines stripComments lines),
        ← List.append_assoc]
      exact ih hline

theorem strip_newlineTerminated_eq_nil_iff :
    strip (newlineTerminated lines) = [] ↔ ∀ line ∈ lines, strip line = [] := by
  constructor
  · intro h line hline
    apply strip_eq_nil
    intro c hc
    apply mem_whitespace_of_strip h
    exact List.mem_flatMap.mpr ⟨line, hline, List.mem_append_left _ hc⟩
  · intro h
    apply strip_eq_nil
    intro c hc
    obtain ⟨line, hline, hc⟩ := List.mem_flatMap.mp hc
    rcases List.mem_append.mp hc with hc | hc
    · exact mem_whitespace_of_strip (h line hline) c hc
    · rw [List.mem_singleton.mp hc]
      decide

/-- Paragraphs are the runs of the lines that are taken, exactly where the last run has more than
whitespace. -/
theorem paragraphsOfLines_eq_iff (stripComments : Bool) (lines : List (List Char)) :
    (paragraphsOfLines stripComments lines = lineRuns (takenLines stripComments lines) ↔
      lastRun List.isEmpty (takenLines stripComments lines) = [] ∨
        ∃ line ∈ lastRun List.isEmpty (takenLines stripComments lines), strip line ≠ []) ∧
    ∀ paragraph ∈ paragraphsOfLines stripComments lines,
      paragraph ∈ lineRuns (takenLines stripComments lines) := by
  obtain ⟨hruns, hlast⟩ := @scanParagraphs_eq stripComments [] (by simp) lines
  rw [newlineTerminated_nil, List.nil_append] at hruns hlast
  unfold paragraphsOfLines
  dsimp only
  rw [← hruns, hlast]
  generalize (scanParagraphs stripComments [] lines).1 = completed
  generalize lastRun List.isEmpty (takenLines stripComments lines) = last
  by_cases hopen : last = []
  · subst hopen
    simp [strip]
  · rw [if_neg (mt newlineTerminated_eq_nil_iff.mp hopen)]
    split
    · next hall =>
      rw [strip_newlineTerminated_eq_nil_iff] at hall
      refine ⟨iff_of_false (by simp) ?_, fun paragraph hmem ↦ List.mem_append_left _ hmem⟩
      rintro (hnone | ⟨line, hline, hnot⟩)
      · exact hopen hnone
      · exact hnot (hall line hline)
    · next hnot =>
      rw [strip_newlineTerminated_eq_nil_iff] at hnot
      push Not at hnot
      exact ⟨iff_of_true rfl (.inr hnot), fun paragraph hmem ↦ hmem⟩

end Lines

section Contents

variable {content line : List Char} {parts : List (List Char)}

/-- A text by its lines and what follows the last newline. -/
theorem exists_eq_newlineTerminated_append (content : List Char) :
    ∃ parts last, content = newlineTerminated parts ++ last ∧ (∀ part ∈ parts, '\n' ∉ part) ∧
      '\n' ∉ last := by
  induction content with
  | nil => exact ⟨[], [], rfl, by simp, by simp⟩
  | cons c content ih =>
    obtain ⟨parts, last, rfl, hparts, hlast⟩ := ih
    by_cases hc : c = '\n'
    · subst hc
      exact ⟨[] :: parts, last, by simp, List.forall_mem_cons.mpr ⟨by simp, hparts⟩, hlast⟩
    · cases parts with
      | nil => exact ⟨[], c :: last, rfl, by simp, by simp [Ne.symm hc, hlast]⟩
      | cons part parts =>
        obtain ⟨hpart, hothers⟩ := List.forall_mem_cons.mp hparts
        exact ⟨(c :: part) :: parts, last, by simp,
          List.forall_mem_cons.mpr ⟨by simp [Ne.symm hc, hpart], hothers⟩, hlast⟩

theorem fileLines_append_newline (hline : '\n' ∉ line) (rest : List Char) :
    fileLines (line ++ '\n' :: rest) = (line ++ ['\n']) :: fileLines rest := by
  induction line with
  | nil => rfl
  | cons c line ih =>
    obtain ⟨hc, hothers⟩ := not_or.mp (fun h ↦ hline (List.mem_cons.mpr h))
    rw [List.cons_append, fileLines, if_neg (Ne.symm hc), ih hothers]
    rfl

theorem fileLines_of_not_mem (hline : '\n' ∉ line) :
    fileLines line = if line = [] then [] else [line] := by
  induction line with
  | nil => rfl
  | cons c line ih =>
    obtain ⟨hc, hothers⟩ := not_or.mp (fun h ↦ hline (List.mem_cons.mpr h))
    rw [fileLines, if_neg (Ne.symm hc), ih hothers]
    cases line <;> rfl

/-- Without newlines in a line, only carriage returns are stripped from it. -/
theorem stripChars_of_newline_not_mem (hline : '\n' ∉ line) :
    stripChars ['\r', '\n'] line = stripChars ['\r'] line := by
  have hsubset : ['\r'] ⊆ ['\r', '\n'] := by simp
  rw [← stripChars_stripChars_of_subset hsubset]
  have hends {c : Char} (hc : c ∉ ['\r']) (hmem : c ∈ stripChars ['\r'] line) :
      c ∉ ['\r', '\n'] := by
    have hnewline : c ≠ '\n' := by
      rintro rfl
      exact hline (mem_of_mem_stripChars hmem)
    simpa [hnewline] using hc
  apply stripChars_eq_self
  · exact fun c hc ↦ hends (head?_stripChars hc) (List.mem_of_mem_head? hc)
  · exact fun c hc ↦ hends (getLast?_stripChars hc) (List.mem_of_getLast? hc)

/-- The lines of a file are those of its content without the newline that ends the last one. -/
theorem map_fileLines (content : List Char) : content = [] ∨
    ∃ text, (content = text ∨ content = text ++ ['\n']) ∧
      (fileLines content).map (stripChars ['\r', '\n']) = textLines text := by
  obtain ⟨parts, last, rfl, hparts, hlast⟩ := exists_eq_newlineTerminated_append content
  have hfile (rest : List Char) : (fileLines (newlineTerminated parts ++ rest)).map
      (stripChars ['\r', '\n']) =
        parts.map (stripChars ['\r']) ++ (fileLines rest).map (stripChars ['\r', '\n']) := by
    clear hlast
    induction parts with
    | nil => rfl
    | cons part parts ih =>
      obtain ⟨hpart, hothers⟩ := List.forall_mem_cons.mp hparts
      rw [newlineTerminated_cons_append, fileLines_append_newline hpart, List.map_cons,
        ih hothers, stripChars_append_right (by simp), stripChars_of_newline_not_mem hpart]
      rfl
  by_cases hempty : last = []
  · subst hempty
    rcases List.eq_nil_or_concat' parts with rfl | ⟨front, part, rfl⟩
    · exact .inl rfl
    · obtain ⟨hfront, hpart⟩ := List.forall_mem_append.mp hparts
      refine .inr ⟨newlineTerminated front ++ part, .inr (by simp), ?_⟩
      rw [hfile, textLines, splitOn_newlineTerminated_append hfront,
        List.splitOn_eq_singleton (hpart part (List.mem_singleton_self _))]
      exact List.append_nil _
  · refine .inr ⟨_, .inl rfl, ?_⟩
    rw [hfile, textLines, splitOn_newlineTerminated_append hparts,
      List.splitOn_eq_singleton hlast, List.map_append, fileLines_of_not_mem hlast,
      if_neg hempty, List.map_singleton, stripChars_of_newline_not_mem hlast]
    rfl

/-- The lines of a text are those that paragraphs are made of, with empty ones around them. -/
theorem textLines_eq_splitlineUnicodesafe (content : List Char) : ∃ front back,
    (∀ line ∈ front, line = []) ∧ (∀ line ∈ back, line = []) ∧
      textLines content = front ++ textLines (stripChars ['\n'] content) ++ back := by
  obtain ⟨front, back, hcontent, hfront, hback⟩ := exists_eq_append_stripChars ['\n'] content
  have hleft (front text : List Char) (hfront : ∀ c ∈ front, c ∈ ['\n']) :
      ∃ lines : List (List Char), (∀ line ∈ lines, line = []) ∧
        textLines (front ++ text) = lines ++ textLines text := by
    induction front with
    | nil => exact ⟨[], by simp, rfl⟩
    | cons c front ih =>
      obtain ⟨hc, hothers⟩ := List.forall_mem_cons.mp hfront
      obtain ⟨lines, hlines, htext⟩ := ih hothers
      have hsplit := List.splitOn_append_cons_self (a := '\n') [] (front ++ text)
      rw [List.nil_append, List.splitOn_nil] at hsplit
      refine ⟨[] :: lines, List.forall_mem_cons.mpr ⟨rfl, hlines⟩, ?_⟩
      rw [List.mem_singleton.mp hc, List.cons_append, textLines, hsplit, List.map_append,
        ← textLines, htext]
      rfl
  have hright : ∃ lines : List (List Char), (∀ line ∈ lines, line = []) ∧
      textLines (stripChars ['\n'] content ++ back) =
        textLines (stripChars ['\n'] content) ++ lines := by
    generalize stripChars ['\n'] content = text
    induction back generalizing text with
    | nil => exact ⟨[], by simp, by simp⟩
    | cons c back ih =>
      obtain ⟨hc, hothers⟩ := List.forall_mem_cons.mp hback
      obtain ⟨lines, hlines, htext⟩ := hleft back [] hothers
      refine ⟨lines ++ [[]], ?_, ?_⟩
      · intro line hline
        rcases List.mem_append.mp hline with hline | hline
        · exact hlines line hline
        · exact List.mem_singleton.mp hline
      · rw [List.append_nil] at htext
        rw [List.mem_singleton.mp hc, textLines, List.splitOn_append_cons_self, List.map_append,
          ← textLines, ← textLines, htext]
        rfl
  obtain ⟨front', hfront', htext⟩ := hleft front (stripChars ['\n'] content ++ back) hfront
  obtain ⟨back', hback', hrest⟩ := hright
  refine ⟨front', back', hfront', hback', ?_⟩
  conv_lhs => rw [hcontent, List.append_assoc, htext, hrest]
  rw [List.append_assoc]

end Contents

section Paragraphs

variable {content : List Char} {stripComments : Bool}

/-- Newlines around a text do not matter for the runs of its lines. -/
theorem runs_textLines (stripComments : Bool) (text : List Char) :
    runs List.isEmpty ((textLines text).filter (fun line ↦ !isIgnoredLine stripComments line)) =
      runs List.isEmpty ((textLines (stripChars ['\n'] text)).filter
        (fun line ↦ !isIgnoredLine stripComments line)) ∧
    (lastRun List.isEmpty ((textLines text).filter
        (fun line ↦ !isIgnoredLine stripComments line)) = [] ∨
      lastRun List.isEmpty ((textLines text).filter
          (fun line ↦ !isIgnoredLine stripComments line)) =
        lastRun List.isEmpty ((textLines (stripChars ['\n'] text)).filter
          (fun line ↦ !isIgnoredLine stripComments line))) := by
  obtain ⟨front, back, hfront, hback, htext⟩ := textLines_eq_splitlineUnicodesafe text
  have hempty {lines : List (List Char)} (h : ∀ line ∈ lines, line = []) :
      ∀ line ∈ lines.filter (fun line ↦ !isIgnoredLine stripComments line),
        line.isEmpty = true := by
    intro line hline
    rw [h line (List.mem_of_mem_filter hline)]
    rfl
  rw [htext, List.filter_append, List.filter_append]
  have hfront' := hempty hfront
  have hback' := hempty hback
  generalize front.filter (fun line ↦ !isIgnoredLine stripComments line) = front at hfront'
  generalize back.filter (fun line ↦ !isIgnoredLine stripComments line) = back at hback'
  refine ⟨?_, ?_⟩
  · rw [runs_append_separators hback', runs_separators_append hfront']
  · rcases List.eq_nil_or_concat' back with rfl | ⟨others, separator, rfl⟩
    · right
      rw [List.append_nil, lastRun_separators_append hfront']
    · left
      rw [← List.append_assoc, lastRun_append_cons (hback' separator (by simp))]
      rfl

/-- The lines that are taken into the paragraphs of a text. -/
theorem takenLines_splitlineUnicodesafe (stripComments : Bool) (content : List Char) :
    runs List.isEmpty ((textLines (stripChars ['\n'] content)).filter
        (fun line ↦ !isIgnoredLine stripComments line)) =
      runs List.isEmpty (takenLines stripComments (splitlineUnicodesafe content)) ∧
    lastRun List.isEmpty ((textLines (stripChars ['\n'] content)).filter
        (fun line ↦ !isIgnoredLine stripComments line)) =
      lastRun List.isEmpty (takenLines stripComments (splitlineUnicodesafe content)) := by
  unfold splitlineUnicodesafe takenLines
  split
  · next hnil =>
    subst hnil
    cases stripComments <;> exact ⟨rfl, rfl⟩
  · have hlines : ((stripChars ['\n'] content).splitOn '\n').map (stripChars ['\r']) =
        (((stripChars ['\n'] content).splitOn '\n').map (stripChars ['\r'])).map
          (stripChars ['\r', '\n']) := by
      rw [List.map_map]
      apply List.map_congr_left
      intro part hpart
      rw [Function.comp_apply, stripChars_stripChars_of_subset (by simp),
        stripChars_of_newline_not_mem (not_mem_of_mem_splitOn hpart)]
    unfold textLines
    rw [← hlines]
    exact ⟨rfl, rfl⟩

/-- The lines that are taken into the paragraphs of a file. -/
theorem takenLines_fileLines (stripComments : Bool) (content : List Char) :
    runs List.isEmpty ((textLines content).filter
        (fun line ↦ !isIgnoredLine stripComments line)) =
      runs List.isEmpty (takenLines stripComments (fileLines content)) ∧
    (lastRun List.isEmpty (takenLines stripComments (fileLines content)) = [] ∨
      lastRun List.isEmpty (takenLines stripComments (fileLines content)) =
        lastRun List.isEmpty ((textLines (stripChars ['\n'] content)).filter
          (fun line ↦ !isIgnoredLine stripComments line))) := by
  rcases map_fileLines content with rfl | ⟨text, htext, hfile⟩
  · cases stripComments <;> exact ⟨rfl, .inl rfl⟩
  · have hcore : stripChars ['\n'] content = stripChars ['\n'] text := by
      rcases htext with rfl | rfl
      · rfl
      · exact stripChars_append_right (by simp) text
    obtain ⟨hruns, hlast⟩ := runs_textLines stripComments text
    unfold takenLines
    rw [hfile, (runs_textLines stripComments content).1, hcore, ← hruns]
    exact ⟨rfl, hlast⟩

theorem relevantLines_eq (hlines : stripComments = false →
    ∀ line ∈ textLines content, line.head? ≠ some '#') :
    relevantLines content stripComments =
      (textLines content).filter (fun line ↦ !isIgnoredLine stripComments line) := by
  unfold relevantLines
  cases stripComments with
  | true => rfl
  | false =>
    rw [eq_comm, if_neg Bool.false_ne_true, List.filter_eq_self]
    intro line hline
    simpa [isIgnoredLine] using hlines rfl line hline

theorem newline_notMem_of_mem_textLines {line : List Char} (hline : line ∈ textLines content) :
    '\n' ∉ line := by
  intro h
  obtain ⟨part, hpart, rfl⟩ := List.mem_map.mp hline
  exact not_mem_of_mem_splitOn hpart (mem_of_mem_stripChars h)

/-- A line that begins with `#` is in a run of the text, and in none of its paragraphs. -/
theorem splitParagraphsRpsl_ne_of_hash {line : List Char} (hline : line ∈ textLines content)
    (hhash : line.head? = some '#') :
    splitParagraphsRpsl content false ≠ lineRuns (relevantLines content false) := by
  intro htext
  have hnonempty : line.isEmpty = false := by
    cases line with
    | nil => cases hhash
    | cons c line => rfl
  have hmem : line ∈ (runs List.isEmpty (textLines content)).flatten := by
    rw [flatten_runs]
    exact List.mem_filter.mpr ⟨hline, by simp [hnonempty]⟩
  obtain ⟨run, hrun, hmem⟩ := List.mem_flatten.mp hmem
  have hparagraph : newlineTerminated run ∈ splitParagraphsRpsl content false := by
    rw [htext]
    exact List.mem_map_of_mem hrun
  obtain ⟨-, htextMem⟩ := paragraphsOfLines_eq_iff false (splitlineUnicodesafe content)
  obtain ⟨taken, htaken, hsame⟩ := List.mem_map.mp (htextMem _ hparagraph)
  have htakenMem : taken ∈ runs List.isEmpty ((textLines content).filter
      (fun line ↦ !isIgnoredLine false line)) := by
    rw [(runs_textLines false content).1, (takenLines_splitlineUnicodesafe false content).1]
    exact htaken
  have heq : taken = run := newlineTerminated_inj
    (fun line hline ↦ newline_notMem_of_mem_textLines
      (List.mem_of_mem_filter (mem_of_mem_run htakenMem hline)))
    (fun line hline ↦ newline_notMem_of_mem_textLines (mem_of_mem_run hrun hline)) hsame
  rw [heq] at htakenMem
  have hkept := (List.mem_filter.mp (mem_of_mem_run htakenMem hmem)).2
  simp [isIgnoredLine, hhash] at hkept

/-- Splitting into paragraphs loses nothing, and is the same for a text and a file, exactly where no
line begins with `#` unless comments are stripped, and the text does not end in whitespace after an
empty line. -/
theorem losesNothing_iff (content : List Char) (stripComments : Bool) :
    LosesNothing content stripComments ↔
      (stripComments = false → ∀ line ∈ textLines content, line.head? ≠ some '#') ∧
        EndsInText content stripComments := by
  obtain ⟨htextIff, -⟩ := paragraphsOfLines_eq_iff stripComments (splitlineUnicodesafe content)
  obtain ⟨hfileIff, -⟩ := paragraphsOfLines_eq_iff stripComments (fileLines content)
  obtain ⟨htextRuns, htextLast⟩ := takenLines_splitlineUnicodesafe stripComments content
  obtain ⟨hfileRuns, hfileLast⟩ := takenLines_fileLines stripComments content
  have hcoreRuns := (runs_textLines stripComments content).1
  by_cases hlines : stripComments = false → ∀ line ∈ textLines content, line.head? ≠ some '#'
  · have hcoreLines : stripComments = false →
        ∀ line ∈ textLines (stripChars ['\n'] content), line.head? ≠ some '#' := by
      intro h line hline
      obtain ⟨front, back, -, -, htext⟩ := textLines_eq_splitlineUnicodesafe content
      exact hlines h line (by rw [htext]; simp [hline])
    unfold LosesNothing EndsInText splitParagraphsRpsl splitParagraphsFile
    dsimp only
    rw [relevantLines_eq hlines, relevantLines_eq hcoreLines, htextLast]
    have htextAll : lineRuns ((textLines content).filter
        (fun line ↦ !isIgnoredLine stripComments line)) =
          lineRuns (takenLines stripComments (splitlineUnicodesafe content)) := by
      unfold lineRuns
      rw [hcoreRuns, htextRuns]
    have hfileAll : lineRuns ((textLines content).filter
        (fun line ↦ !isIgnoredLine stripComments line)) =
          lineRuns (takenLines stripComments (fileLines content)) := by
      unfold lineRuns
      rw [hfileRuns]
    rw [and_iff_right hlines]
    constructor
    · rintro ⟨htext, -⟩
      exact htextIff.mp (htext.trans htextAll)
    · intro hends
      refine ⟨(htextIff.mpr hends).trans htextAll.symm, (hfileIff.mpr ?_).trans hfileAll.symm⟩
      rcases hfileLast with hnone | hsame
      · exact .inl hnone
      · rw [hsame, htextLast]
        exact hends
  · refine iff_of_false ?_ (fun h ↦ hlines h.1)
    push Not at hlines
    obtain ⟨rfl, line, hline, hhash⟩ := hlines
    exact fun h ↦ splitParagraphsRpsl_ne_of_hash hline hhash h.1

/-- A line with `#` is lost although comments are kept, and whitespace at the end of a text but not
of a file. -/
theorem not_losesNothing :
    splitParagraphsRpsl "mntner: A\n# B\nsource: C\n".toList false =
        ["mntner: A\nsource: C\n".toList] ∧
      ¬ LosesNothing "mntner: A\n# B\nsource: C\n".toList false ∧
      splitParagraphsRpsl "mntner: A\n\n \n\n".toList true = ["mntner: A\n".toList] ∧
      splitParagraphsFile "mntner: A\n\n \n\n".toList true =
        ["mntner: A\n".toList, " \n".toList] := by
  refine ⟨by decide, fun h ↦ absurd h.1 (by decide), by decide, by decide⟩

end Paragraphs

end Irrd.Utils
