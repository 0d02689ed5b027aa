import Irrd.Mirroring.NrtmGenerator
import Irrd.Mirroring.NrtmStreamParser
import Irrd.Rpsl.RenderedText
import Irrd.Storage.HandlerRun

/-!
# NRTMv3 round trips

What the parser reads from the responses of the generator. Source:
`irrd/mirroring/nrtm_generator.py`, `irrd/mirroring/parsers.py`.
-/

namespace Irrd.Mirroring

open Irrd.Base Irrd.Rpsl Irrd.Storage Irrd.Utils NRTMStreamParser

section Parsing

variable {source : List Char} {p p' : NRTMStreamParser}

/-- A paragraph that begins no operation. -/
def handleHeader (source : List Char) (p : NRTMStreamParser) (paragraph : List Char) :
    Except StreamError NRTMStreamParser :=
  match matchStartLine paragraph with
  | some m => p.handleStartLine source m paragraph
  | none => .ok (if isComment paragraph then { p with lastCommentSeen := paragraph } else p)

/-- Paragraphs that begin no operations are handled one by one. -/
theorem handleParagraphs_append {header : List (List Char)}
    (hheader : ∀ paragraph ∈ header, isOperation paragraph = false)
    (paragraphs : List (List Char)) :
    handleParagraphs source p (header ++ paragraphs) =
      (header.foldlM (handleHeader source) p).bind (fun p ↦
        handleParagraphs source p paragraphs) := by
  induction header generalizing p with
  | nil => rfl
  | cons paragraph header ih =>
    obtain ⟨hparagraph, hothers⟩ := List.forall_mem_cons.mp hheader
    rw [List.cons_append, List.foldlM_cons, handleParagraphs.eq_2, handleHeader]
    cases matchStartLine paragraph with
    | some m =>
      cases hstart : p.handleStartLine source m paragraph with
      | error e => simp only [hstart]; rfl
      | ok p' =>
        simp only [hstart]
        exact ih hothers
    | none =>
      dsimp only
      by_cases hcomment : isComment paragraph = true
      · rw [if_pos hcomment, if_pos hcomment]
        exact ih hothers
      · rw [if_neg hcomment, if_neg hcomment, if_neg (by rw [hparagraph]; decide)]
        exact ih hothers

/-- A START line is only handled where it is the first one, and fits. -/
theorem handleStartLine_eq_ok_iff {m : StartLine} {line : List Char} :
    p.handleStartLine source m line = .ok p' ↔ p.nrtmSource = none ∧ source = upperText m.source ∧
      m.version ∈ [['1'], ['3']] ∧ p' = { p with
        version := m.version
        nrtmSource := some source
        firstSerial := m.firstSerial
        lastSerial := m.lastSerial } := by
  unfold handleStartLine
  dsimp only
  by_cases hfirst : p.nrtmSource = none
  · by_cases hsource : source = upperText m.source
    · by_cases hversion : m.version ∈ [['1'], ['3']]
      · simp [hfirst, ← hsource, hversion, eq_comm]
      · simp [hfirst, ← hsource, hversion]
    · simp [hfirst, hsource]
  · have hsome : p.nrtmSource.isSome = true := Option.isSome_iff_ne_none.mpr hfirst
    simp [hfirst, hsome]

/-- Operations are only added. -/
theorem operations_prefix {paragraphs : List (List Char)}
    (h : handleParagraphs source p paragraphs = .ok p') : p.operations <+: p'.operations := by
  fun_induction handleParagraphs source p paragraphs with
  | case1 p =>
    cases h
    exact List.prefix_rfl
  | case2 p paragraph paragraphs m hm ih =>
    obtain ⟨started, hstart, h⟩ := bind_eq_ok_iff.mp h
    obtain ⟨-, -, -, rfl⟩ := handleStartLine_eq_ok_iff.mp hstart
    exact (ih _ h :)
  | case3 p paragraph paragraphs hm hcomment ih => exact ih h
  | case4 p paragraph paragraphs hm hcomment hoperation ih =>
    obtain ⟨⟨operation, serial⟩, -, h⟩ := bind_eq_ok_iff.mp h
    cases paragraphs with
    | nil => cases h
    | cons objectText paragraphs =>
      exact (List.prefix_append _ _).trans (ih operation serial h)
  | case5 p paragraph paragraphs hm hcomment hoperation ih => exact ih h

/-- Without START lines, only comments are remembered. -/
theorem foldlM_handleHeader (source : List Char) (p : NRTMStreamParser)
    {header : List (List Char)} (hstarts : header.filterMap matchStartLine = []) :
    ∃ comment, header.foldlM (handleHeader source) p =
      .ok { p with lastCommentSeen := comment } := by
  induction header generalizing p with
  | nil => exact ⟨p.lastCommentSeen, rfl⟩
  | cons paragraph header ih =>
    rw [List.filterMap_eq_nil_iff] at hstarts
    obtain ⟨hparagraph, hothers⟩ := List.forall_mem_cons.mp hstarts
    have hrest := List.filterMap_eq_nil_iff.mpr hothers
    rw [List.foldlM_cons, handleHeader, hparagraph]
    dsimp only
    split
    · exact ih { p with lastCommentSeen := paragraph } hrest
    · exact ih p hrest

/-- Once a START line has been seen, there is no other. -/
theorem no_start_of_started {header : List (List Char)} (hstarted : p.nrtmSource ≠ none)
    (h : header.foldlM (handleHeader source) p = .ok p') :
    header.filterMap matchStartLine = [] := by
  induction header generalizing p with
  | nil => rfl
  | cons paragraph header ih =>
    rw [List.foldlM_cons, handleHeader] at h
    cases hm : matchStartLine paragraph with
    | some m =>
      rw [hm] at h
      obtain ⟨started, hstart, -⟩ := bind_eq_ok_iff.mp h
      exact absurd (handleStartLine_eq_ok_iff.mp hstart).1 hstarted
    | none =>
      rw [hm] at h
      dsimp only at h
      rw [List.filterMap_cons_none hm]
      split at h
      · exact ih (p := { p with lastCommentSeen := paragraph }) hstarted h
      · exact ih hstarted h

/-- A START line for a source. -/
def FitsSource (source : List Char) (m : StartLine) : Prop :=
  source = upperText m.source ∧ m.version ∈ [['1'], ['3']]

/-- A parser that has seen a START line and a last comment. -/
def started (source : List Char) (m : StartLine) (comment : List Char) : NRTMStreamParser :=
  ⟨m.version, some source, m.firstSerial, m.lastSerial, -1, [], comment⟩

/-- A header is handled where it has no START line, or one that fits. -/
theorem foldlM_handleHeader_init {header : List (List Char)}
    (h : header.foldlM (handleHeader source) init = .ok p') :
    p'.nrtmSource = none ∧ p'.firstSerial = -1 ∨
      ∃ m comment, header.filterMap matchStartLine = [m] ∧ FitsSource source m ∧
        p' = started source m comment := by
  cases hstarts : header.filterMap matchStartLine with
  | nil =>
    obtain ⟨comment, hok⟩ := foldlM_handleHeader source init hstarts
    rw [hok] at h
    cases h
    exact .inl ⟨rfl, rfl⟩
  | cons m starts =>
    refine .inr ⟨m, ?_⟩
    obtain ⟨before, paragraph, after, rfl, hbefore, hm, hafter⟩ :=
      List.filterMap_eq_cons_iff.mp hstarts
    obtain ⟨comment, hok⟩ := foldlM_handleHeader source init
      (List.filterMap_eq_nil_iff.mpr hbefore)
    rw [List.foldlM_append, hok] at h
    replace h : (paragraph :: after).foldlM (handleHeader source)
      { init with lastCommentSeen := comment } = .ok p' := h
    rw [List.foldlM_cons] at h
    obtain ⟨p₁, hstart, h⟩ := bind_eq_ok_iff.mp h
    rw [handleHeader, hm] at hstart
    obtain ⟨-, hsource, hversion, rfl⟩ := handleStartLine_eq_ok_iff.mp hstart
    have hnone := no_start_of_started (by simp) h
    obtain ⟨comment', hok'⟩ := foldlM_handleHeader source _ hnone
    rw [hok'] at h
    cases h
    exact ⟨comment', by rw [← hafter, hnone], ⟨hsource, hversion⟩, rfl⟩

/-- A header with one START line that fits is handled. -/
theorem foldlM_handleHeader_of_start {header : List (List Char)} {m : StartLine}
    (hstarts : header.filterMap matchStartLine = [m]) (hm : FitsSource source m) :
    ∃ comment, header.foldlM (handleHeader source) init = .ok (started source m comment) := by
  obtain ⟨before, paragraph, after, rfl, hbefore, hmatch, hafter⟩ :=
    List.filterMap_eq_cons_iff.mp hstarts
  obtain ⟨comment, hok⟩ := foldlM_handleHeader source init
    (List.filterMap_eq_nil_iff.mpr hbefore)
  obtain ⟨comment', hok'⟩ := foldlM_handleHeader source
    (started source m comment) hafter
  refine ⟨comment', ?_⟩
  have hstart : handleStartLine source { init with lastCommentSeen := comment } m paragraph =
      .ok (started source m comment) :=
    handleStartLine_eq_ok_iff.mpr ⟨rfl, hm.1, hm.2, rfl⟩
  rw [List.foldlM_append, hok]
  show (paragraph :: after).foldlM (handleHeader source) _ = _
  rw [List.foldlM_cons, handleHeader, hmatch]
  dsimp only
  rw [hstart]
  exact hok'

/-- What a START line says stays as it is. -/
theorem frame_of_started {paragraphs : List (List Char)} (hstarted : p.nrtmSource ≠ none)
    (h : handleParagraphs source p paragraphs = .ok p') :
    p'.nrtmSource = p.nrtmSource ∧ p'.version = p.version ∧ p'.firstSerial = p.firstSerial ∧
      p'.lastSerial = p.lastSerial := by
  fun_induction handleParagraphs source p paragraphs with
  | case1 p =>
    cases h
    exact ⟨rfl, rfl, rfl, rfl⟩
  | case2 p paragraph paragraphs m hm ih =>
    obtain ⟨started, hstart, -⟩ := bind_eq_ok_iff.mp h
    exact absurd (handleStartLine_eq_ok_iff.mp hstart).1 hstarted
  | case3 p paragraph paragraphs hm hcomment ih => exact ih hstarted h
  | case4 p paragraph paragraphs hm hcomment hoperation ih =>
    obtain ⟨⟨operation, serial⟩, -, h⟩ := bind_eq_ok_iff.mp h
    cases paragraphs with
    | nil => cases h
    | cons objectText paragraphs => exact ih operation serial hstarted h
  | case5 p paragraph paragraphs hm hcomment hoperation ih => exact ih hstarted h

end Parsing

section Operations

/-- The name of an operation. -/
def operationName : DatabaseOperation → List Char
  | .addOrUpdate => "ADD".toList
  | .delete => "DEL".toList

/-- The line that an operation begins with. -/
def operationHead (version : String) (e : RPSLDatabaseJournal) : List Char :=
  operationName e.operation ++ if version = "3" then ' ' :: (toString e.serialNrtm).toList else []

variable {source : List Char} {p p' : NRTMStreamParser} {version : String}
  {e : RPSLDatabaseJournal}

/-- `int` reads the serial at the end of a line. -/
theorem parseInt_serialLine (n : Nat) :
    parseInt ((toString n).toList ++ ['\n']) = some (n : Int) :=
  parseInt_toString_append n (by simp [intSpaces])

/-- The serials of entries go up, each by one where they are not written. -/
def SerialsFrom (version : String) : Int → List RPSLDatabaseJournal → Prop
  | _, [] => True
  | expected, e :: entries =>
    expected ≤ e.serialNrtm ∧ (version ≠ "3" → expected = e.serialNrtm) ∧
      SerialsFrom version (e.serialNrtm + 1) entries

/-- The line of an operation is handled as one. -/
theorem handleOperation_operationHead (hstarted : p.nrtmSource.isSome = true)
    (hexpected : p.expectedSerial ≤ e.serialNrtm)
    (hwritten : version ≠ "3" → p.expectedSerial = e.serialNrtm) :
    p.handleOperation source (operationHead version e ++ ['\n']) =
      .ok (e.operation, e.serialNrtm) := by
  have hnone : p.nrtmSource.isNone = false := by
    cases h : p.nrtmSource with
    | none => simp [h] at hstarted
    | some nrtmSource => rfl
  have hline : p.operationLine source (operationHead version e ++ ['\n']) =
      .ok (operationName e.operation, e.serialNrtm) := by
    unfold operationLine operationHead
    by_cases hversion : version = "3"
    · have hspaces : ' ' ∉ operationName e.operation := by cases e.operation <;> decide
      have hdigits : ' ' ∉ (toString e.serialNrtm).toList ++ ['\n'] := by
        intro h
        rcases List.mem_append.mp h with h | h
        · exact absurd (isDigit_of_mem_toString h) (by decide)
        · exact absurd h (by decide)
      rw [if_pos hversion, List.append_assoc, List.cons_append, if_pos (by simp),
        List.splitOn_append_cons_self, List.splitOn_eq_singleton hspaces,
        List.splitOn_eq_singleton hdigits]
      simp only [List.singleton_append, parseInt_serialLine]
      rw [if_neg (by omega)]
    · rw [if_neg hversion, hwritten hversion]
      cases e.operation <;> rfl
  unfold handleOperation
  rw [hnone, hline]
  cases e.operation <;> rfl

theorem kind_operationHead (version : String) (e : RPSLDatabaseJournal) :
    matchStartLine (operationHead version e ++ ['\n']) = none ∧
      isComment (operationHead version e ++ ['\n']) = false ∧
      isOperation (operationHead version e ++ ['\n']) = true := by
  unfold operationHead
  cases e.operation <;> exact ⟨rfl, rfl, rfl⟩

/-- An operation and the paragraph after it. -/
theorem handleParagraphs_operationHead (hstarted : p.nrtmSource.isSome = true)
    (hexpected : p.expectedSerial ≤ e.serialNrtm)
    (hwritten : version ≠ "3" → p.expectedSerial = e.serialNrtm) (paragraphs : List (List Char)) :
    handleParagraphs source p ((operationHead version e ++ ['\n']) :: paragraphs) =
      match paragraphs with
      | [] => .error .stopIteration
      | objectText :: paragraphs =>
        handleParagraphs source (p.addOperation e.operation e.serialNrtm objectText)
          paragraphs := by
  obtain ⟨hstart, hcomment, hoperation⟩ := kind_operationHead version e
  rw [handleParagraphs.eq_2, hstart]
  dsimp only
  rw [hcomment, hoperation, handleOperation_operationHead hstarted hexpected hwritten]
  rfl

/-- The line that a response ends with. -/
def endLine (source : List Char) : List Char := "%END ".toList ++ source

/-- The lines of an operation and its text. -/
def operationLines (version : String) (text : RPSLDatabaseJournal → List Char)
    (e : RPSLDatabaseJournal) : List (List Char) :=
  operationHead version e :: [] :: (text e).splitOn '\n'

/-- The operation that is to be read from a journal entry. -/
def expectedOperation (text : RPSLDatabaseJournal → List Char) (e : RPSLDatabaseJournal) :
    StreamOperation := ⟨e.operation, e.serialNrtm, text e⟩

/-- A character of names in ASCII. -/
def isPlainSourceChar (c : Char) : Bool := c.isAlphanum || c = '_' || c = '-'

/-- A name as configured sources have it. -/
def ProperSource (source : List Char) : Prop :=
  source ≠ [] ∧ ∀ c ∈ source, isPlainSourceChar c = true ∧ c.toUpper = c

instance (source : List Char) : Decidable (ProperSource source) :=
  @instDecidableAnd _ _ _ (List.decidableBAll _ source)

theorem not_mem_of_properSource (hsource : ProperSource source) {c : Char}
    (hc : isPlainSourceChar c = false) : c ∉ source := by
  intro hmem
  rw [(hsource.2 c hmem).1] at hc
  cases hc

theorem toNat_lt_of_isPlainSourceChar {c : Char} (hc : isPlainSourceChar c = true) :
    c.toNat < 128 := by
  unfold isPlainSourceChar at hc
  simp only [Bool.or_eq_true, decide_eq_true_eq] at hc
  rcases hc with (halnum | rfl) | rfl
  · have hcases := isAlphanum_iff.mp halnum
    omega
  · decide
  · decide

/-- The names of configured sources are in upper case. -/
theorem upperText_of_properSource (hsource : ProperSource source) : upperText source = source := by
  rw [upperText_of_lt (fun c hc ↦ toNat_lt_of_isPlainSourceChar (hsource.2 c hc).1)]
  conv_rhs => rw [← List.map_id source]
  exact List.map_congr_left (fun c hc ↦ (hsource.2 c hc).2)

/-- A line without line ends at its own ends, and with a letter or percent sign first, is kept. -/
theorem keptLine_of {line : List Char} {c : Char} (hhead : line.head? = some c) (hc : c ≠ '#')
    (hnewline : '\n' ∉ line) (hreturn : '\r' ∉ line) : KeptLine line := by
  refine ⟨fun h ↦ by simp [h] at hhead, hnewline, ?_, ?_⟩
  · have hkept : ∀ d ∈ line, d ∉ ['\r', '\n'] := by
      rintro d hd hmem
      rcases List.mem_cons.mp hmem with rfl | hmem
      · exact hreturn hd
      · exact hnewline (List.mem_singleton.mp hmem ▸ hd)
    exact stripChars_eq_self (fun d hd ↦ hkept d (List.mem_of_mem_head? hd))
      (fun d hd ↦ hkept d (List.mem_of_mem_getLast? hd))
  · simp [isIgnoredLine, hhead, hc]

theorem keptLine_operationHead (version : String) (e : RPSLDatabaseJournal) :
    KeptLine (operationHead version e) := by
  have hno (c : Char) (hdigit : c.isDigit = false)
      (hname : c ∉ operationName e.operation ++ [' ']) : c ∉ operationHead version e := by
    unfold operationHead
    intro h
    rcases List.mem_append.mp h with h | h
    · exact hname (List.mem_append_left _ h)
    · split at h
      · rcases List.mem_cons.mp h with rfl | h
        · exact hname (by simp)
        · rw [isDigit_of_mem_toString h] at hdigit
          cases hdigit
      · cases h
  have hhead : ∃ c, (operationHead version e).head? = some c ∧ c ≠ '#' := by
    unfold operationHead
    cases e.operation
    · exact ⟨'A', rfl, by decide⟩
    · exact ⟨'D', rfl, by decide⟩
  obtain ⟨c, hc, hne⟩ := hhead
  exact keptLine_of hc hne (hno _ (by decide) (by cases e.operation <;> decide))
    (hno _ (by decide) (by cases e.operation <;> decide))

theorem keptLine_endLine (hsource : ProperSource source) : KeptLine (endLine source) := by
  have hno (c : Char) (hchar : isPlainSourceChar c = false) (hname : c ∉ "%END ".toList) :
      c ∉ endLine source := by
    intro h
    rcases List.mem_append.mp h with h | h
    · exact hname h
    · exact not_mem_of_properSource hsource hchar h
  exact keptLine_of (c := '%') rfl (by decide) (hno _ (by decide) (by decide))
    (hno _ (by decide) (by decide))

/-- The end of a response is a comment. -/
theorem paragraphsOfLines_endLine (hsource : ProperSource source) :
    paragraphsOfLines false [endLine source] = [endLine source ++ ['\n']] := by
  have hscan := @scanParagraphs_keptLines [] _
    (List.forall_mem_singleton.mpr (keptLine_endLine hsource))
  have hopen : strip (endLine source ++ ['\n']) ≠ [] := by
    intro h
    have hhead := head?_strip (endLine source ++ ['\n'])
    rw [h] at hhead
    cases hhead
  unfold paragraphsOfLines
  rw [hscan]
  simp [hopen]

/-- What operations expect after the one with a serial. -/
theorem expectedSerial_addOperation (operation : DatabaseOperation) (serial : Nat)
    (objectText : List Char) :
    (p.addOperation operation serial objectText).expectedSerial = serial + 1 := by
  unfold expectedSerial addOperation
  dsimp only
  rw [if_neg (by omega)]

/-- The parser after operations. -/
def afterOperations (text : RPSLDatabaseJournal → List Char) (p : NRTMStreamParser)
    (entries : List RPSLDatabaseJournal) : NRTMStreamParser :=
  entries.foldl (fun p e ↦ p.addOperation e.operation e.serialNrtm (text e)) p

variable {text : RPSLDatabaseJournal → List Char} {entries : List RPSLDatabaseJournal}

/-- The paragraphs of operations, up to the end of the response. -/
def operationParagraphs (source : List Char) (version : String)
    (text : RPSLDatabaseJournal → List Char) (entries : List RPSLDatabaseJournal) :
    List (List Char) :=
  paragraphsOfLines false (entries.flatMap (operationLines version text) ++ [endLine source])

theorem operationParagraphs_cons (e : RPSLDatabaseJournal) :
    operationParagraphs source version text (e :: entries) = (operationHead version e ++ ['\n']) ::
      paragraphsOfLines false ((text e).splitOn '\n' ++
        (entries.flatMap (operationLines version text) ++ [endLine source])) := by
  unfold operationParagraphs
  rw [List.flatMap_cons, List.append_assoc, operationLines, List.cons_append, List.cons_append,
    paragraphsOfLines_keptLine (keptLine_operationHead version e)]

theorem newline_not_mem_lines (hsource : ProperSource source) {line : List Char}
    (hline : line ∈ entries.flatMap (operationLines version text) ++ [endLine source]) :
    '\n' ∉ line := by
  rcases List.mem_append.mp hline with hline | hline
  · obtain ⟨e, -, hline⟩ := List.mem_flatMap.mp hline
    rcases List.mem_cons.mp hline with rfl | hline
    · exact (keptLine_operationHead version e).newline
    · rcases List.mem_cons.mp hline with rfl | hline
      · simp
      · exact not_mem_of_mem_splitOn hline
  · rw [List.mem_singleton.mp hline]
    exact (keptLine_endLine hsource).newline

/-- Operations with texts that are paragraphs are read as they are. -/
theorem handleParagraphs_operations (hsource : ProperSource source)
    (hstarted : p.nrtmSource.isSome = true)
    (hserials : SerialsFrom version p.expectedSerial entries)
    (htexts : ∀ e ∈ entries, IsParagraph (text e)) :
    handleParagraphs source p (operationParagraphs source version text entries) =
      .ok { afterOperations text p entries with lastCommentSeen := endLine source ++ ['\n'] } := by
  induction entries generalizing p with
  | nil =>
    have hstart : matchStartLine (endLine source ++ ['\n']) = none := rfl
    unfold operationParagraphs
    rw [List.flatMap_nil, List.nil_append, paragraphsOfLines_endLine hsource,
      handleParagraphs.eq_2, hstart]
    rfl
  | cons e entries ih =>
    obtain ⟨htext, hothers⟩ := List.forall_mem_cons.mp htexts
    obtain ⟨hexpected, hwritten, hrest⟩ := hserials
    rw [operationParagraphs_cons, paragraphsOfLines_isParagraph htext,
      handleParagraphs_operationHead hstarted hexpected hwritten]
    rw [← expectedSerial_addOperation (p := p) e.operation e.serialNrtm (text e)] at hrest
    exact ih hstarted hrest hothers

/-- Only texts that are paragraphs are read as they are. -/
theorem isParagraph_of_operations (hsource : ProperSource source)
    (hstarted : p.nrtmSource.isSome = true)
    (hserials : SerialsFrom version p.expectedSerial entries)
    (h : handleParagraphs source p (operationParagraphs source version text entries) = .ok p')
    (hoperations : p'.operations = p.operations ++ entries.map (expectedOperation text)) :
    ∀ e ∈ entries, IsParagraph (text e) := by
  induction entries generalizing p with
  | nil => simp
  | cons e entries ih =>
    obtain ⟨hexpected, hwritten, hrest⟩ := hserials
    rw [operationParagraphs_cons, handleParagraphs_operationHead hstarted hexpected hwritten] at h
    cases hparagraphs : paragraphsOfLines false ((text e).splitOn '\n' ++
        (entries.flatMap (operationLines version text) ++ [endLine source])) with
    | nil =>
      rw [hparagraphs] at h
      cases h
    | cons objectText paragraphs =>
      rw [hparagraphs] at h
      dsimp only at h
      -- The text that is read stands where the one of the entry is expected.
      have hread : objectText = text e := by
        have hprefix := operations_prefix h
        rw [hoperations, addOperation, List.map_cons, List.prefix_append_right_inj,
          List.cons_prefix_cons] at hprefix
        exact congrArg StreamOperation.objectText hprefix.1
      have hlines : ∀ line ∈ (text e).splitOn '\n' ++
          (entries.flatMap (operationLines version text) ++ [endLine source]), '\n' ∉ line := by
        intro line hline
        rcases List.mem_append.mp hline with hline | hline
        · exact not_mem_of_mem_splitOn hline
        · exact newline_not_mem_lines hsource hline
      have hparagraph : IsParagraph (text e) :=
        hread ▸ isParagraph_of_mem_paragraphsOfLines hlines (hparagraphs ▸ List.mem_cons_self)
      rw [paragraphsOfLines_isParagraph hparagraph] at hparagraphs
      obtain ⟨-, rfl⟩ := List.cons.inj hparagraphs
      subst hread
      rw [← expectedSerial_addOperation (p := p) e.operation e.serialNrtm (text e)] at hrest
      refine List.forall_mem_cons.mpr ⟨hparagraph, ih
        (p := p.addOperation e.operation e.serialNrtm (text e)) hstarted hrest h ?_⟩
      rw [hoperations]
      simp [expectedOperation, addOperation]

theorem afterOperations_cons (e : RPSLDatabaseJournal) :
    afterOperations text p (e :: entries) =
      afterOperations text (p.addOperation e.operation e.serialNrtm (text e)) entries := rfl

/-- Operations add themselves, and leave the rest as it is. -/
theorem afterOperations_spec : (afterOperations text p entries).operations =
      p.operations ++ entries.map (expectedOperation text) ∧
    (afterOperations text p entries).version = p.version ∧
    (afterOperations text p entries).nrtmSource = p.nrtmSource ∧
    (afterOperations text p entries).firstSerial = p.firstSerial ∧
    (afterOperations text p entries).lastSerial = p.lastSerial := by
  induction entries generalizing p with
  | nil => simp [afterOperations]
  | cons e entries ih =>
    obtain ⟨hoperations, hframe⟩ := ih (p := p.addOperation e.operation e.serialNrtm (text e))
    rw [afterOperations_cons]
    refine ⟨?_, hframe⟩
    rw [hoperations]
    simp [addOperation, expectedOperation]

/-- The serial after operations is the highest one. -/
theorem currentOpSerial_afterOperations_le_iff {expected n : Int}
    (hexpected : p.currentOpSerial < expected) (hserials : SerialsFrom version expected entries) :
    (afterOperations text p entries).currentOpSerial ≤ n ↔
      p.currentOpSerial ≤ n ∧ ∀ e ∈ entries, (e.serialNrtm : Int) ≤ n := by
  induction entries generalizing p expected with
  | nil => simp [afterOperations]
  | cons e entries ih =>
    obtain ⟨hle, -, hrest⟩ := hserials
    have hnext : (p.addOperation e.operation e.serialNrtm (text e)).currentOpSerial <
        (e.serialNrtm : Int) + 1 := by
      show (e.serialNrtm : Int) < e.serialNrtm + 1
      omega
    rw [afterOperations_cons, ih hnext hrest, List.forall_mem_cons]
    show (e.serialNrtm : Int) ≤ n ∧ _ ↔ _
    constructor
    · rintro ⟨he, hothers⟩
      exact ⟨by omega, he, hothers⟩
    · rintro ⟨-, he, hothers⟩
      exact ⟨he, hothers⟩

/-- The end of a response is the one that is expected. -/
theorem strip_upperText_endLine (hsource : ProperSource source) :
    strip (upperText (endLine source ++ ['\n'])) = "%END ".toList ++ source := by
  have hupper : upperText (endLine source ++ ['\n']) = endLine source ++ ['\n'] := by
    unfold endLine
    rw [upperText_append, upperText_append, upperText_of_properSource hsource]
    rfl
  have hchars : ∀ c ∈ whitespace, isPlainSourceChar c = false := by
    simp [whitespace, lineBreaks, isPlainSourceChar]
  rw [hupper]
  show stripChars whitespace (endLine source ++ ['\n']) = endLine source
  rw [stripChars_append_right (by simp [whitespace, lineBreaks])]
  refine stripChars_eq_self (fun c hc ↦ ?_) (fun c hc hspace ↦ ?_)
  · cases hc
    decide
  · obtain ⟨d, hd⟩ := Option.ne_none_iff_exists'.mp (fun hnone ↦
      hsource.1 (List.getLast?_eq_none_iff.mp hnone))
    rw [endLine, List.getLast?_append, hd] at hc
    cases hc
    have hchar := (hsource.2 c (List.mem_of_getLast? hd)).1
    rw [hchars c hspace] at hchar
    cases hchar

end Operations

section Serials

variable {db : Database} {source : String} {start : Nat} {last : Option Nat}

/-- Serials that go up from a serial. -/
theorem serialsFrom_of_pairwise {entries : List RPSLDatabaseJournal} {expected : Nat}
    (hfrom : ∀ e ∈ entries, expected ≤ e.serialNrtm)
    (hsorted : entries.Pairwise (fun e e' ↦ e.serialNrtm < e'.serialNrtm)) :
    SerialsFrom "3" expected entries := by
  induction entries generalizing expected with
  | nil => trivial
  | cons e entries ih =>
    obtain ⟨hlater, hothers⟩ := List.pairwise_cons.mp hsorted
    refine ⟨Int.ofNat_le.mpr (hfrom e List.mem_cons_self), fun h ↦ absurd rfl h, ?_⟩
    have hrest : ∀ e' ∈ entries, e.serialNrtm + 1 ≤ e'.serialNrtm := hlater
    exact ih hrest hothers

/-- The entries of a range go up from its start. -/
theorem serialsFrom_serialNrtmRange :
    SerialsFrom "3" start (NRTMGenerator.serialNrtmRange db source start last) := by
  have hperm := List.perm_insertionSort (fun e e' : RPSLDatabaseJournal ↦
    e.serialNrtm ≤ e'.serialNrtm) ((db.journal.ofSource source).filter (fun e ↦
      decide (start ≤ e.serialNrtm) && last.all (e.serialNrtm ≤ ·)))
  have hnodup : (NRTMGenerator.serialNrtmRange db source start last).Pairwise
      (fun e e' ↦ e.serialNrtm ≠ e'.serialNrtm) := by
    have hserials := List.pairwise_map.mp (nodup_serials db.journal source)
    exact hperm.symm.pairwise (hserials.filter _) Ne.symm
  have hle : (NRTMGenerator.serialNrtmRange db source start last).Pairwise
      (fun e e' ↦ e.serialNrtm ≤ e'.serialNrtm) := by
    have : Std.Total (fun e e' : RPSLDatabaseJournal ↦ e.serialNrtm ≤ e'.serialNrtm) :=
      ⟨fun e e' ↦ Nat.le_total _ _⟩
    have : IsTrans RPSLDatabaseJournal (fun e e' ↦ e.serialNrtm ≤ e'.serialNrtm) :=
      ⟨fun _ _ _ h h' ↦ Nat.le_trans h h'⟩
    exact List.pairwise_insertionSort _ _
  refine serialsFrom_of_pairwise (fun e he ↦ ?_) (hle.imp₂ (fun _ _ h h' ↦ by omega) hnodup)
  have hrange := (List.mem_filter.mp (hperm.mem_iff.mp he)).2
  simp only [Bool.and_eq_true, decide_eq_true_eq] at hrange
  exact hrange.1

/-- Serials that follow each other need not be written. -/
theorem serialsFrom_of_contiguous {version : String} {entries : List RPSLDatabaseJournal}
    {expected : Nat} (hcontiguous : entries.map RPSLDatabaseJournal.serialNrtm =
      List.range' expected entries.length) : SerialsFrom version expected entries := by
  induction entries generalizing expected with
  | nil => trivial
  | cons e entries ih =>
    rw [List.map_cons, List.length_cons, List.range'_succ] at hcontiguous
    obtain ⟨he, hothers⟩ := List.cons.inj hcontiguous
    subst he
    exact ⟨le_rfl, fun _ ↦ rfl, ih hothers⟩

end Serials

section Responses

variable (g : NRTMGeneratorSettings) (version source : String) (start last : Nat)

/-- The header of a response. -/
def responseHeader : List String :=
  (g.nrtmResponseHeader.filter (· ≠ "")).toList.map (fun header ↦
    String.ofList (indent header.toList ['%']))

/-- The START line of a response. -/
def startText : String := s!"%START Version: {version} {source} " ++ s!"{start}-{last}\n"

/-- The header and the START line of a response. -/
def openingText : List Char :=
  ("\n".intercalate (responseHeader g ++ [startText version source start last])).toList

/-- The paragraphs that the header and the START line of a response make up. -/
def openingParagraphs : List (List Char) :=
  (scanParagraphs false [] ((openingText g version source start last).splitOn '\n')).1

/-- The text of an object as filtered for the client. -/
def filteredText (removeAuthHashes clientIsDummifyingExempt : Bool) (e : RPSLDatabaseJournal) :
    String :=
  let text := if removeAuthHashes then Utils.removeAuthHashes e.objectText else e.objectText
  if clientIsDummifyingExempt then text
  else dummifyObjectText g.dummify text e.objectClass e.rpslPk

end Responses

section ResponseLines

variable {g : NRTMGeneratorSettings} {db : Database} {version source : String} {start : Nat}
  {last : Option Nat} {removeAuthHashes clientIsDummifyingExempt : Bool} {now : Nat}

/-- Texts joined by newlines, split at newlines. -/
theorem splitOn_intercalate {parts : List String} (hparts : parts ≠ []) :
    ("\n".intercalate parts).toList.splitOn '\n' =
      parts.flatMap (fun part ↦ part.toList.splitOn '\n') := by
  induction parts with
  | nil => exact absurd rfl hparts
  | cons part parts ih =>
    cases parts with
    | nil => simp
    | cons part' parts =>
      have hnewline : "\n".toList = ['\n'] := rfl
      rw [String.intercalate_cons_cons, String.toList_append, String.toList_append, hnewline,
        List.append_assoc, List.singleton_append, List.splitOn_append_cons_self, ih (by simp)]
      rfl

/-- An operation of a response by its lines. -/
theorem splitOn_operationText (e : RPSLDatabaseJournal) :
    (NRTMGenerator.operationText g version removeAuthHashes
        clientIsDummifyingExempt e).toList.splitOn '\n' =
      operationLines version (fun e ↦ (filteredText g removeAuthHashes clientIsDummifyingExempt
        e).toList) e := by
  have htext : (NRTMGenerator.operationText g version removeAuthHashes clientIsDummifyingExempt
      e).toList = operationHead version e ++ '\n' :: ([] ++ '\n' ::
        (filteredText g removeAuthHashes clientIsDummifyingExempt e).toList) := by
    unfold NRTMGenerator.operationText operationHead operationName
    dsimp only
    rw [String.toList_append, String.toList_append, String.toList_append]
    by_cases hversion : version = "3"
    · rw [if_pos hversion, if_pos hversion]
      cases e.operation <;> simp [filteredText, String.toList_append] <;> rfl
    · rw [if_neg hversion, if_neg hversion]
      cases e.operation <;> simp [filteredText]
  rw [htext, List.splitOn_append_cons_self, List.splitOn_append_cons_self,
    List.splitOn_eq_singleton (keptLine_operationHead version e).newline, List.splitOn_nil]
  rfl

end ResponseLines

section Opening

/-- A line that shows nothing but a comment. -/
def QuietLine (line : List Char) : Prop :=
  ∀ c ∈ (line.dropWhile (fun c ↦ decide (c ∈ whitespace))).head?, c = '%'

/-- Whitespace before a text does not matter. -/
theorem quietLine_append {front : List Char} (hfront : ∀ c ∈ front, c ∈ whitespace)
    {line : List Char} : QuietLine (front ++ line) ↔ QuietLine line := by
  unfold QuietLine
  rw [List.dropWhile_append_of_pos (fun c hc ↦ decide_eq_true (hfront c hc))]

theorem quietLine_percent (line : List Char) : QuietLine ('%' :: line) := by
  have hkept : decide ('%' ∈ whitespace) = false := by decide
  unfold QuietLine
  rw [List.dropWhile_cons_of_neg (by simpa using hkept)]
  simp

/-- Text with quiet lines stays so with a comment or whitespace before it. -/
theorem quietLine_front {front rest : List Char} (hnewline : '\n' ∉ front)
    (hfront : (∀ c ∈ front, c ∈ whitespace) ∨ ∃ comment, front = '%' :: comment)
    (hrest : ∀ line ∈ rest.splitOn '\n', QuietLine line) :
    ∀ line ∈ (front ++ rest).splitOn '\n', QuietLine line := by
  rw [splitOn_append_of_not_mem hnewline]
  cases hlines : rest.splitOn '\n' with
  | nil => exact absurd hlines (List.splitOn_ne_nil _ _)
  | cons first lines =>
    rw [hlines] at hrest
    obtain ⟨hfirst, hothers⟩ := List.forall_mem_cons.mp hrest
    rw [List.modifyHead_cons]
    refine List.forall_mem_cons.mpr ⟨?_, hothers⟩
    rcases hfront with hspaces | ⟨comment, rfl⟩
    · exact (quietLine_append hspaces).mpr hfirst
    · exact quietLine_percent _

/-- The lines of indented text are comments, or only whitespace. -/
theorem quietLine_indent (text : List Char) :
    ∀ line ∈ (indent text ['%']).splitOn '\n', QuietLine line := by
  have hpieces := mem_splitlinesKeepends text
  unfold indent
  generalize splitlinesKeepends text = pieces at hpieces
  induction pieces with
  | nil =>
    intro line hline
    rw [List.flatMap_nil, List.splitOn_nil] at hline
    rw [List.mem_singleton.mp hline]
    simp [QuietLine]
  | cons piece pieces ih =>
    obtain ⟨⟨hbreaks, hending⟩, hothers⟩ := List.forall_mem_cons.mp hpieces
    have hrest := ih hothers
    obtain ⟨front, hnewline, hfront, htext⟩ : ∃ front, '\n' ∉ front ∧
        ((∀ c ∈ front, c ∈ whitespace) ∨ ∃ comment, front = '%' :: comment) ∧
        (if strip piece.1 = [] then piece.1 ++ piece.2 else ['%'] ++ piece.1 ++ piece.2) =
          front ++ piece.2 := by
      have hno : '\n' ∉ piece.1 := fun h ↦ hbreaks _ h (by decide)
      by_cases hblank : strip piece.1 = []
      · exact ⟨piece.1, hno, .inl (mem_whitespace_of_strip hblank), if_pos hblank⟩
      · exact ⟨'%' :: piece.1, by simp [hno], .inr ⟨piece.1, rfl⟩, if_neg hblank⟩
    -- A front with one more line break other than a newline is a front again.
    have hbreak {c : Char} (hc : c ∈ whitespace) (hne : c ≠ '\n') : '\n' ∉ front ++ [c] ∧
        ((∀ d ∈ front ++ [c], d ∈ whitespace) ∨ ∃ comment, front ++ [c] = '%' :: comment) := by
      refine ⟨by simp [hnewline, hne.symm], ?_⟩
      rcases hfront with hspaces | ⟨comment, rfl⟩
      · refine .inl (fun d hd ↦ ?_)
        rcases List.mem_append.mp hd with hd | hd
        · exact hspaces d hd
        · exact List.mem_singleton.mp hd ▸ hc
      · exact .inr ⟨comment ++ [c], rfl⟩
    have hended {front : List Char} (hnewline : '\n' ∉ front)
        (hfront : (∀ c ∈ front, c ∈ whitespace) ∨ ∃ comment, front = '%' :: comment)
        {rest : List Char} (hrest : ∀ line ∈ rest.splitOn '\n', QuietLine line) :
        ∀ line ∈ (front ++ '\n' :: rest).splitOn '\n', QuietLine line := by
      have hline := @quietLine_front front [] hnewline hfront (by simp [QuietLine])
      rw [List.append_nil] at hline
      rw [List.splitOn_append_cons_self]
      exact fun line hmem ↦ (List.mem_append.mp hmem).elim (hline line) (hrest line)
    rw [List.flatMap_cons]
    dsimp only
    rw [htext, List.append_assoc]
    rcases hending with hend | hend | ⟨c, hc, hend⟩
    · rw [hend, List.nil_append]
      exact quietLine_front hnewline hfront hrest
    · obtain ⟨hnewline', hfront'⟩ := hbreak (c := '\r') (by decide) (by decide)
      have hlines := hended hnewline' hfront' hrest
      rw [hend]
      simpa using hlines
    · by_cases hne : c = '\n'
      · rw [hend, hne]
        exact hended hnewline hfront hrest
      · obtain ⟨hnewline', hfront'⟩ := hbreak (List.mem_append_left _ hc) hne
        have hlines := quietLine_front hnewline' hfront' hrest
        rw [hend]
        simpa using hlines

/-- Paragraphs of quiet lines begin no operations. -/
theorem isOperation_of_quietLine {lines : List (List Char)}
    (hlines : ∀ line ∈ lines, QuietLine line)
    {current : List Char} (hcurrent : ∀ c ∈ current.head?, c = '%' ∨ c ∈ whitespace) :
    ∀ paragraph ∈ (scanParagraphs false current lines).1, isOperation paragraph = false := by
  have hquiet {paragraph : List Char}
      (hparagraph : ∀ c ∈ paragraph.head?, c = '%' ∨ c ∈ whitespace) :
      isOperation paragraph = false := by
    cases paragraph with
    | nil => rfl
    | cons c rest =>
      have hA : c ≠ 'A' := by
        rintro rfl
        rcases hparagraph 'A' rfl with h | h <;> revert h <;> decide
      have hD : c ≠ 'D' := by
        rintro rfl
        rcases hparagraph 'D' rfl with h | h <;> revert h <;> decide
      simp [isOperation, List.isPrefixOf, hA.symm, hD.symm]
  induction lines generalizing current with
  | nil => simp [scanParagraphs]
  | cons line lines ih =>
    obtain ⟨hline, hothers⟩ := List.forall_mem_cons.mp hlines
    have hstripped : ∀ c ∈ (stripChars ['\r', '\n'] line).head?, c = '%' ∨ c ∈ whitespace := by
      intro c hc
      obtain ⟨front, back, htext, hfront, -⟩ := exists_eq_append_stripChars ['\r', '\n'] line
      have hspaces : ∀ d ∈ ['\r', '\n'], d ∈ whitespace := by simp [whitespace, lineBreaks]
      rw [htext, List.append_assoc, quietLine_append (fun d hd ↦ hspaces d (hfront d hd))] at hline
      cases hrest : stripChars ['\r', '\n'] line with
      | nil => simp [hrest] at hc
      | cons d rest =>
        rw [hrest] at hc hline
        cases hc
        by_cases hspace : c ∈ whitespace
        · exact .inr hspace
        · refine .inl (hline c ?_)
          rw [List.cons_append, List.dropWhile_cons_of_neg (by simpa using hspace)]
          rfl
    -- The next paragraph begins like the open one, or with the line.
    have hnext : ∀ c ∈ (paragraphStep false current line).2.head?, c = '%' ∨ c ∈ whitespace := by
      unfold paragraphStep
      dsimp only
      split
      · exact hcurrent
      · split
        · simp
        · cases current with
          | nil =>
            intro c hc
            rw [List.nil_append, List.head?_append] at hc
            cases hhead : (stripChars ['\r', '\n'] line).head? with
            | none =>
              rw [hhead] at hc
              cases hc
              exact .inr (by decide)
            | some d =>
              rw [hhead] at hc
              cases hc
              exact hstripped c hhead
          | cons d current => exact hcurrent
    have hcompleted : ∀ paragraph ∈ (paragraphStep false current line).1, paragraph = current := by
      unfold paragraphStep
      dsimp only
      intro paragraph hmem
      split at hmem
      · cases hmem
      · split at hmem
        · split at hmem
          · cases hmem
          · exact (Option.some_inj.mp hmem).symm
        · cases hmem
    rw [scanParagraphs]
    dsimp only
    intro paragraph hparagraph
    rcases List.mem_append.mp hparagraph with hparagraph | hparagraph
    · rw [hcompleted paragraph (Option.mem_toList.mp hparagraph)]
      exact hquiet hcurrent
    · exact ih hothers hnext paragraph hparagraph

end Opening

section RoundTrip

variable {g : NRTMGeneratorSettings} {db : Database} {version source : String} {start : Nat}
  {last : Option Nat} {removeAuthHashes clientIsDummifyingExempt : Bool} {now : Nat}

/-- The characters of a START line. -/
def startChars (version source : List Char) (start last : Nat) : List Char :=
  "%START Version: ".toList ++ version ++ ' ' :: source ++ ' ' :: (toString start).toList ++
    '-' :: (toString last).toList

theorem toList_startText (version source : String) (start last : Nat) :
    (startText version source start last).toList =
      startChars version.toList source.toList start last ++ ['\n'] := by
  have hend : (toString "\n").toList = ['\n'] := rfl
  have hdash : (toString "-").toList = ['-'] := rfl
  have hspace : (toString " ").toList = [' '] := rfl
  have hversion : (toString "%START Version: ").toList = "%START Version: ".toList := rfl
  unfold startText startChars
  simp only [String.toList_append, hend, hdash, hspace, hversion]
  simp [toString]

/-- The START line ends the opening of a response with an empty line. -/
theorem exists_openingText (g : NRTMGeneratorSettings) (version source : String)
    (start last : Nat) : ∃ text, openingText g version source start last = text ++ ['\n'] := by
  unfold openingText
  by_cases hheader : responseHeader g = []
  · rw [hheader, List.nil_append, String.intercalate_singleton, toList_startText]
    exact ⟨_, rfl⟩
  · rw [String.intercalate_append_of_ne_nil hheader (by simp), String.intercalate_singleton,
      String.toList_append, toList_startText, ← List.append_assoc]
    exact ⟨_, rfl⟩

/-- The opening of a response leaves no paragraph open. -/
theorem scanParagraphs_openingText (g : NRTMGeneratorSettings) (version source : String)
    (start last : Nat) : scanParagraphs false []
        ((openingText g version source start last).splitOn '\n') =
      (openingParagraphs g version source start last, []) := by
  obtain ⟨text, htext⟩ := exists_openingText g version source start last
  refine Prod.ext rfl ?_
  rw [htext, List.splitOn_append_cons_self, List.splitOn_nil]
  exact scanParagraphs_concat_nil _

/-- The paragraphs of the opening of a response begin no operations. -/
theorem isOperation_openingParagraphs (hversion : '\n' ∉ version.toList)
    (hsource : ProperSource source.toList) (start last : Nat) :
    ∀ paragraph ∈ openingParagraphs g version source start last,
      isOperation paragraph = false := by
  refine isOperation_of_quietLine (fun line hline ↦ ?_) (by simp)
  rw [openingText, splitOn_intercalate (by simp), List.flatMap_append] at hline
  rcases List.mem_append.mp hline with hline | hline
  · obtain ⟨part, hpart, hline⟩ := List.mem_flatMap.mp hline
    obtain ⟨header, -, rfl⟩ := List.mem_map.mp hpart
    rw [String.toList_ofList] at hline
    exact quietLine_indent header.toList line hline
  · have hno : '\n' ∉ startChars version.toList source.toList start last := by
      have hdigits (n : Nat) : '\n' ∉ (toString n).toList :=
        fun h ↦ absurd (isDigit_of_mem_toString h) (by decide)
      unfold startChars
      simp only [List.mem_append, List.mem_cons, not_or]
      exact ⟨⟨⟨⟨by decide, hversion⟩, by decide, not_mem_of_properSource hsource (by decide)⟩,
        by decide, hdigits start⟩, by decide, hdigits last⟩
    rw [List.flatMap_singleton, toList_startText, List.splitOn_append_cons_self,
      List.splitOn_eq_singleton hno, List.splitOn_nil] at hline
    rcases List.mem_cons.mp hline with rfl | hline
    · exact quietLine_percent _
    · rw [List.mem_singleton.mp hline]
      simp [QuietLine]

/-- The paragraphs of a response. -/
theorem splitParagraphsRpsl_generate (hsource : ProperSource source.toList) {display : Nat}
    (hrange : NRTMGenerator.checkRange db source start last = .ok (.available display))
    {text : String} (hgenerate : NRTMGenerator.generate g db source version start last
      removeAuthHashes clientIsDummifyingExempt now = .ok text) :
    splitParagraphsRpsl text.toList false = openingParagraphs g version source start display ++
      operationParagraphs source.toList version
        (fun e ↦ (filteredText g removeAuthHashes clientIsDummifyingExempt e).toList)
        (NRTMGenerator.serialNrtmRange db source start last) := by
  have htext : text.toList = openingText g version source start display ++ '\n' ::
      ("\n".intercalate ((NRTMGenerator.serialNrtmRange db source start last).map
        (NRTMGenerator.operationText g version removeAuthHashes clientIsDummifyingExempt) ++
          [s!"%END {source}"])).toList := by
    have hkeep : g.keepJournal = true := by
      by_contra hkeep
      rw [NRTMGenerator.generate, if_neg hkeep] at hgenerate
      cases hgenerate
    rw [NRTMGenerator.generate, if_pos hkeep, hrange] at hgenerate
    dsimp only at hgenerate
    split at hgenerate
    · cases hgenerate
    · cases hgenerate
      rw [List.append_assoc, String.intercalate_append_of_ne_nil (by simp) (by simp),
        String.toList_append, String.toList_append, List.append_assoc]
      rfl
  have hend : (s!"%END {source}").toList = endLine source.toList := by
    have hpercent : (toString "%END ").toList = "%END ".toList := rfl
    simp only [String.toList_append, hpercent, endLine]
    simp [toString]
  have hlast : text.toList.getLast? ≠ some '\n' := by
    obtain ⟨front, hfront⟩ : ∃ front, text.toList = front ++ endLine source.toList := by
      rw [htext]
      by_cases hoperations : (NRTMGenerator.serialNrtmRange db source start last).map
          (NRTMGenerator.operationText g version removeAuthHashes clientIsDummifyingExempt) = []
      · rw [hoperations, List.nil_append, String.intercalate_singleton, hend]
        exact ⟨openingText g version source start display ++ ['\n'], by simp⟩
      · rw [String.intercalate_append_of_ne_nil hoperations (by simp),
          String.intercalate_singleton, String.toList_append, hend, ← List.cons_append,
          ← List.append_assoc]
        exact ⟨_, rfl⟩
    intro h
    rw [hfront, List.getLast?_append] at h
    cases hlast : (endLine source.toList).getLast? with
    | none => exact (keptLine_endLine hsource).nonempty (List.getLast?_eq_none_iff.mp hlast)
    | some c =>
      rw [hlast] at h
      cases h
      exact (keptLine_endLine hsource).newline (List.mem_of_getLast? hlast)
  rw [splitParagraphsRpsl_eq false hlast, htext, List.splitOn_append_cons_self,
    splitOn_intercalate (by simp), List.flatMap_append, List.flatMap_singleton, hend,
    List.splitOn_eq_singleton (keptLine_endLine hsource).newline, List.flatMap_map,
    paragraphsOfLines_append (by rw [scanParagraphs_openingText]), scanParagraphs_openingText]
  unfold operationParagraphs
  simp only [splitOn_operationText]

/-- The checks at the end of a stream leave the parser as it is. -/
theorem checkEnd_eq_ok_iff {source : List Char} {p p' : NRTMStreamParser} :
    p.checkEnd source = .ok p' ↔ p' = p ∧
      (p.nrtmSource.isSome → strip (upperText p.lastCommentSeen) = "%END ".toList ++ source) ∧
      (p.lastSerial < p.currentOpSerial → p.version = ['3']) := by
  unfold checkEnd
  split
  · next h => exact iff_of_false (by simp) (fun ⟨_, hend, _⟩ ↦ h.2 (hend h.1))
  · next h =>
    split
    · next h' =>
      refine iff_of_false (by simp) (fun ⟨_, _, hversion⟩ ↦ h'.2 (hversion h'.1))
    · next h' =>
      simp only [not_and, not_not] at h h'
      simp only [Except.ok.injEq, eq_comm (a := p), iff_self_and]
      exact fun _ ↦ ⟨h, h'⟩

/-- Without a START line, there are no operations. -/
theorem firstSerial_of_unstarted {source : List Char} {version : String}
    {text : RPSLDatabaseJournal → List Char} {entries : List RPSLDatabaseJournal}
    {p p' : NRTMStreamParser} (hsource : ProperSource source) (hunstarted : p.nrtmSource = none)
    (h : handleParagraphs source p (operationParagraphs source version text entries) = .ok p') :
    p'.firstSerial = p.firstSerial := by
  cases entries with
  | nil =>
    have hstart : matchStartLine (endLine source ++ ['\n']) = none := rfl
    unfold operationParagraphs at h
    rw [List.flatMap_nil, List.nil_append, paragraphsOfLines_endLine hsource,
      handleParagraphs.eq_2, hstart] at h
    cases h
    rfl
  | cons e entries =>
    obtain ⟨hstart, hcomment, hoperation⟩ := kind_operationHead version e
    rw [operationParagraphs_cons, handleParagraphs.eq_2, hstart] at h
    dsimp only at h
    rw [hcomment, hoperation, handleOperation, hunstarted] at h
    cases h

/-- The opening of a response is read as what it says: of its paragraphs just one is a START line,
for the source and the serials of the response. -/
def OpensResponse (g : NRTMGeneratorSettings) (version source : String) (start last : Nat)
    (entries : List RPSLDatabaseJournal) : Prop :=
  ∃ m, (openingParagraphs g version source start last).filterMap matchStartLine = [m] ∧
    FitsSource source.toList m ∧ m.firstSerial = start ∧ m.lastSerial = last ∧
    (m.version = ['3'] ∨ ∀ e ∈ entries, e.serialNrtm ≤ last)

/-- A response is read as it was written exactly where its opening and its texts are. -/
theorem splitStream_generate_iff (hsource : ProperSource source.toList)
    (hversion : version = "3" ∨ version = "1" ∧
      (NRTMGenerator.serialNrtmRange db source start last).map RPSLDatabaseJournal.serialNrtm =
        List.range' start (NRTMGenerator.serialNrtmRange db source start last).length)
    {display : Nat}
    (hrange : NRTMGenerator.checkRange db source start last = .ok (.available display))
    {text : String} (hgenerate : NRTMGenerator.generate g db source version start last
      removeAuthHashes clientIsDummifyingExempt now = .ok text) :
    (∃ p, splitStream source.toList text.toList = .ok p ∧ p.firstSerial = start ∧
      p.lastSerial = display ∧ p.operations =
        (NRTMGenerator.serialNrtmRange db source start last).map (expectedOperation (fun e ↦
          (filteredText g removeAuthHashes clientIsDummifyingExempt e).toList))) ↔
      OpensResponse g version source start display
          (NRTMGenerator.serialNrtmRange db source start last) ∧
        ∀ e ∈ NRTMGenerator.serialNrtmRange db source start last,
          IsParagraph (filteredText g removeAuthHashes clientIsDummifyingExempt e).toList := by
  have hnewline : '\n' ∉ version.toList := by
    rcases hversion with rfl | ⟨rfl, -⟩ <;> decide
  have hserials : SerialsFrom version start
      (NRTMGenerator.serialNrtmRange db source start last) := by
    rcases hversion with rfl | ⟨rfl, hcontiguous⟩
    · exact serialsFrom_serialNrtmRange
    · exact serialsFrom_of_contiguous hcontiguous
  unfold splitStream
  rw [splitParagraphsRpsl_generate hsource hrange hgenerate,
    handleParagraphs_append (isOperation_openingParagraphs hnewline hsource start display)]
  generalize NRTMGenerator.serialNrtmRange db source start last = entries at hserials
  generalize htexts : (fun e ↦ (filteredText g removeAuthHashes clientIsDummifyingExempt
    e).toList) = texts
  have hgoal : (∀ e ∈ entries, IsParagraph (filteredText g removeAuthHashes
      clientIsDummifyingExempt e).toList) ↔ ∀ e ∈ entries, IsParagraph (texts e) := by
    rw [← htexts]
  rw [hgoal]
  have hstarted (m : StartLine) (comment : List Char) (hm : m.firstSerial = start) :
      SerialsFrom version (started source.toList m comment).expectedSerial entries := by
    show SerialsFrom version (m.firstSerial : Int) entries
    rwa [hm]
  have hcurrent (m : StartLine) (comment : List Char) (n : Nat) (hm : m.firstSerial = start) :
      (afterOperations texts (started source.toList m comment) entries).currentOpSerial ≤ n ↔
        ∀ e ∈ entries, e.serialNrtm ≤ n := by
    have hunknown : (started source.toList m comment).currentOpSerial < (m.firstSerial : Int) := by
      show (-1 : Int) < m.firstSerial
      omega
    rw [currentOpSerial_afterOperations_le_iff hunknown (hstarted m comment hm)]
    simp only [started, Int.ofNat_le]
    exact ⟨fun h ↦ h.2, fun h ↦ ⟨by omega, h⟩⟩
  constructor
  · rintro ⟨p, hparsed, hfirst, hlast, hoperations⟩
    obtain ⟨p₀, hhandled, hend⟩ := bind_eq_ok_iff.mp hparsed
    obtain ⟨rfl, -, hhighest⟩ := checkEnd_eq_ok_iff.mp hend
    obtain ⟨p₁, hopening, hhandled⟩ := bind_eq_ok_iff.mp hhandled
    rcases foldlM_handleHeader_init hopening with ⟨hnone, hunknown⟩ | ⟨m, comment, hm, hfits, rfl⟩
    · have hsame := firstSerial_of_unstarted hsource hnone hhandled
      omega
    · obtain ⟨-, hversion', hfirst', hlast'⟩ := frame_of_started (by simp [started]) hhandled
      have hmfirst : m.firstSerial = start := by
        have h : (m.firstSerial : Int) = start := hfirst'.symm.trans hfirst
        omega
      have hmlast : m.lastSerial = display := by
        have h : (m.lastSerial : Int) = display := hlast'.symm.trans hlast
        omega
      have hparagraphs := isParagraph_of_operations hsource (by rfl) (hstarted m comment hmfirst)
        hhandled hoperations
      rw [handleParagraphs_operations hsource (by rfl) (hstarted m comment hmfirst)
        hparagraphs] at hhandled
      cases hhandled
      refine ⟨⟨m, hm, hfits, hmfirst, hmlast, ?_⟩, hparagraphs⟩
      by_cases hbelow : ∀ e ∈ entries, e.serialNrtm ≤ display
      · exact .inr hbelow
      · rw [← hcurrent m comment display hmfirst] at hbelow
        refine .inl (hversion'.symm.trans (hhighest ?_))
        rw [hlast]
        exact not_le.mp hbelow
  · rintro ⟨⟨m, hm, hfits, hmfirst, hmlast, hhighest⟩, hparagraphs⟩
    obtain ⟨comment, hopening⟩ := foldlM_handleHeader_of_start hm hfits
    have hhandled := handleParagraphs_operations hsource (by rfl) (hstarted m comment hmfirst)
      hparagraphs
    obtain ⟨hoperations, hversion', hsource', hfirst', hlast'⟩ := @afterOperations_spec
      (started source.toList m comment) texts entries
    refine ⟨_, bind_eq_ok_iff.mpr ⟨_, bind_eq_ok_iff.mpr ⟨_, hopening, hhandled⟩,
      checkEnd_eq_ok_iff.mpr ⟨rfl, fun _ ↦ strip_upperText_endLine hsource, fun habove ↦ ?_⟩⟩,
      ?_, ?_, ?_⟩
    · show (afterOperations texts _ entries).version = _
      rw [hversion']
      refine hhighest.resolve_right (fun hbelow ↦ ?_)
      have hle := (hcurrent m comment display hmfirst).mpr hbelow
      have hlt : (m.lastSerial : Int) < _ := lt_of_eq_of_lt hlast'.symm habove
      rw [hmlast] at hlt
      exact absurd hlt (not_lt.mpr hle)
    · exact hfirst'.trans (congrArg Int.ofNat hmfirst)
    · exact hlast'.trans (congrArg Int.ofNat hmlast)
    · exact hoperations

/-- Characters of a kind, up to one that is not. -/
theorem spanOne_append {p : Char → Bool} {x : List Char} {c : Char} (hx : x ≠ [])
    (hall : ∀ d ∈ x, p d = true) (hc : p c = false) (y : List Char) :
    spanOne p (x ++ c :: y) = some (x, c :: y) := by
  have htake : (x ++ c :: y).takeWhile p = x := by
    rw [List.takeWhile_append_of_pos hall, List.takeWhile_cons_of_neg (by simp [hc]),
      List.append_nil]
  have hdrop : (x ++ c :: y).dropWhile p = c :: y := by
    rw [List.dropWhile_append_of_pos hall, List.dropWhile_cons_of_neg (by simp [hc])]
  unfold spanOne
  rw [htake, hdrop, if_neg hx]

/-- One space before characters other than spaces. -/
theorem spanOne_space {x : List Char} (hx : x ≠ []) (hall : ∀ c ∈ x, c ≠ ' ') (y : List Char) :
    spanOne (· = ' ') (' ' :: (x ++ y)) = some ([' '], x ++ y) := by
  cases x with
  | nil => exact absurd rfl hx
  | cons c x =>
    exact spanOne_append (x := [' ']) (by simp) (by simp)
      (decide_eq_false (hall c List.mem_cons_self)) (x ++ y)

/-- A START line is read as what it says. -/
theorem matchStartLine_startChars {version source : List Char} (hversion : version ≠ [])
    (hdigits : ∀ c ∈ version, c.isDigit = true) (hsource : ProperSource source)
    (start last : Nat) : matchStartLine (startChars version source start last ++ ['\n']) =
      some ⟨version, source, start, last⟩ := by
  have hspaces {x : List Char} (hx : ∀ c ∈ x, c.isDigit = true) : ∀ c ∈ x, c ≠ ' ' := by
    rintro c hc rfl
    exact absurd (hx ' ' hc) (by decide)
  have hserial (n : Nat) : ∀ c ∈ (toString n).toList, c.isDigit = true :=
    fun c hc ↦ isDigit_of_mem_toString hc
  have hdecimals {x : List Char} (hx : ∀ c ∈ x, c.isDigit = true) : ∀ c ∈ x, isDecimal c = true :=
    fun c hc ↦ isDecimal_of_isDigit (hx c hc)
  have hnames : ∀ c ∈ source, isSourceChar c = true := by
    intro c hc
    have hplain := (hsource.2 c hc).1
    unfold isSourceChar
    rwa [isWordChar_of_ascii (toNat_lt_of_isPlainSourceChar hplain)]
  have hnamesSpaces : ∀ c ∈ source, c ≠ ' ' := by
    rintro c hc rfl
    exact not_mem_of_properSource hsource (by decide) hc
  have hsplit : startChars version source start last ++ ['\n'] =
      "%START Version: ".toList ++ (version ++ ' ' :: (source ++ ' ' :: ((toString start).toList ++
        '-' :: ((toString last).toList ++ '\n' :: [])))) := by
    unfold startChars
    simp only [List.append_assoc, List.cons_append]
  have hbefore (rest : List Char) : dropSpaces (' ' :: (version ++ rest)) = version ++ rest := by
    cases version with
    | nil => exact absurd rfl hversion
    | cons c version =>
      unfold dropSpaces
      rw [List.dropWhile_cons_of_pos (by decide), List.cons_append,
        List.dropWhile_cons_of_neg (by simpa using hspaces hdigits c List.mem_cons_self)]
  have hpercent (rest : List Char) : dropLiteral ['%'] ("%START Version: ".toList ++ rest) =
      some ("START Version: ".toList ++ rest) := rfl
  have hword (rest : List Char) : dropLiteral "START".toList
      (dropSpaces ("START Version: ".toList ++ rest)) = some (" Version: ".toList ++ rest) := rfl
  have hcolon (rest : List Char) : dropLiteral "Version:".toList
      (dropSpaces (" Version: ".toList ++ rest)) = some (' ' :: rest) := rfl
  have hdash (rest : List Char) : dropLiteral ['-'] ('-' :: rest) = some rest := rfl
  rw [hsplit]
  unfold matchStartLine
  simp only [Option.bind_eq_bind, hpercent, hword, hcolon, hdash, Option.bind_some, hbefore,
    spanOne_append hversion (hdecimals hdigits) (show isDecimal ' ' = false by decide),
    spanOne_space hsource.1 hnamesSpaces,
    spanOne_append hsource.1 hnames (show isSourceChar ' ' = false by decide),
    spanOne_space (toString_ne_nil start) (hspaces (hserial start)),
    spanOne_append (toString_ne_nil start) (hdecimals (hserial start))
      (show isDecimal '-' = false by decide),
    spanOne_append (toString_ne_nil last) (hdecimals (hserial last))
      (show isDecimal '\n' = false by decide)]
  unfold intOfDigits
  rw [digitsNumber_toString, digitsNumber_toString]
  rfl

/-- The START line itself is kept as a paragraph. -/
theorem keptLine_startChars {version source : List Char} (hdigits : ∀ c ∈ version, c.isDigit = true)
    (hsource : ProperSource source) (start last : Nat) :
    KeptLine (startChars version source start last) := by
  have hno (c : Char) (hdigit : c.isDigit = false) (hchar : isPlainSourceChar c = false)
      (hfixed : c ∉ "%START Version: -".toList) : c ∉ startChars version source start last := by
    have hnumber {digits : List Char} (h : ∀ d ∈ digits, d.isDigit = true) : c ∉ digits := by
      intro hmem
      rw [h c hmem] at hdigit
      cases hdigit
    have hserial (n : Nat) : c ∉ (toString n).toList :=
      hnumber (fun d hd ↦ isDigit_of_mem_toString hd)
    unfold startChars
    simp only [List.mem_append, List.mem_cons, not_or]
    refine ⟨⟨⟨⟨fun h ↦ hfixed (List.mem_append_left ['-'] h), hnumber hdigits⟩, ?_,
      not_mem_of_properSource hsource hchar⟩, ?_, hserial start⟩, ?_, hserial last⟩
    · rintro rfl
      exact hfixed (by decide)
    · rintro rfl
      exact hfixed (by decide)
    · rintro rfl
      exact hfixed (by decide)
  exact keptLine_of (c := '%') rfl (by decide) (hno _ (by decide) (by decide) (by decide))
    (hno _ (by decide) (by decide) (by decide))

/-- A response opens as it should without a header, and with one that ends in a newline and has no
START line of its own. -/
theorem opensResponse_of_header (hsource : ProperSource source.toList)
    (hversion : version = "3" ∨ version = "1") {display : Nat}
    {entries : List RPSLDatabaseJournal}
    (hentries : version = "3" ∨ ∀ e ∈ entries, e.serialNrtm ≤ display)
    (hheader : ∀ header ∈ responseHeader g, (∃ text, header.toList = text ++ ['\n']) ∧
      ∀ paragraph ∈ (scanParagraphs false [] (header.toList.splitOn '\n')).1,
        matchStartLine paragraph = none) :
    OpensResponse g version source start display entries := by
  have hdigits : version.toList ≠ [] ∧ (∀ c ∈ version.toList, c.isDigit = true) ∧
      version.toList ∈ [['1'], ['3']] := by
    rcases hversion with rfl | rfl <;> simp
  obtain ⟨hne, hdigits, hknown⟩ := hdigits
  have hkept := keptLine_startChars hdigits hsource start display
  have hlines : (startText version source start display).toList.splitOn '\n' =
      [startChars version.toList source.toList start display, []] := by
    rw [toList_startText, List.splitOn_append_cons_self, List.splitOn_eq_singleton hkept.newline,
      List.splitOn_nil]
    rfl
  have hparagraph : scanParagraphs false []
      [startChars version.toList source.toList start display, []] =
        ([startChars version.toList source.toList start display ++ ['\n']], []) :=
    scanParagraphs_keptLine hkept
  have hopening : (openingParagraphs g version source start display).filterMap matchStartLine =
      [⟨version.toList, source.toList, start, display⟩] := by
    have hstart := matchStartLine_startChars hne hdigits hsource start display
    unfold openingParagraphs openingText
    rw [splitOn_intercalate (by simp), List.flatMap_append, List.flatMap_singleton, hlines]
    cases hresponse : responseHeader g with
    | nil =>
      rw [List.flatMap_nil, List.nil_append, hparagraph, List.filterMap_cons_some hstart]
      rfl
    | cons header headers =>
      have hnil : headers = [] := by
        unfold responseHeader at hresponse
        cases hset : g.nrtmResponseHeader.filter (· ≠ "") with
        | none =>
          rw [hset] at hresponse
          cases hresponse
        | some text =>
          rw [hset] at hresponse
          exact (List.cons.inj hresponse).2.symm
      obtain ⟨⟨text, htext⟩, hothers⟩ := hheader header (hresponse ▸ List.mem_cons_self)
      have hclosed : (scanParagraphs false [] (header.toList.splitOn '\n')).2 = [] := by
        rw [htext, List.splitOn_append_cons_self, List.splitOn_nil]
        exact scanParagraphs_concat_nil _
      rw [hnil, List.flatMap_singleton, scanParagraphs_append, hclosed, hparagraph,
        List.filterMap_append, List.filterMap_eq_nil_iff.mpr hothers,
        List.filterMap_cons_some hstart]
      rfl
  exact ⟨_, hopening, ⟨(upperText_of_properSource hsource).symm, hknown⟩, rfl, rfl,
    hentries.imp (fun h ↦ by rw [h]; rfl) id⟩

/-- The text of an object with attributes is a paragraph. -/
theorem isParagraph_renderRpslText {obj : ParsedObject} (hobj : obj.ProperAttributes)
    (hdata : obj.objectData ≠ []) : IsParagraph obj.renderRpslText := by
  rw [renderRpslText_eq]
  refine isParagraph_iff.mpr ⟨_, ?_, rfl, fun line hline ↦ ?_⟩
  · cases hattributes : obj.objectData with
    | nil => exact absurd hattributes hdata
    | cons a data =>
      obtain ⟨first, rest, hlines, -⟩ :=
        attributeLines_spec (hobj a (hattributes ▸ List.mem_cons_self))
      simp [hlines]
  · obtain ⟨a, ha, hline⟩ := List.mem_flatMap.mp hline
    obtain ⟨hnewline, hreturn⟩ := mem_attributeLines (hobj a ha) hline
    obtain ⟨first, rest, hlines, hrest⟩ := attributeLines_spec (hobj a ha)
    -- A line begins with the name of an attribute, or continues one.
    obtain ⟨c, text, rfl, hkept⟩ : ∃ c text, line = c :: text ∧ c ∉ ['#', '\r', '\n'] := by
      rw [hlines] at hline
      rcases List.mem_cons.mp hline with rfl | hline
      · have hname := (hobj a ha).name
        cases hchars : a.name with
        | nil =>
          rw [hchars] at hname
          cases hname
        | cons c name =>
          refine ⟨c, _, rfl, fun hmem ↦ ?_⟩
          rw [hchars] at hname
          simp only [reAttrName, Bool.and_eq_true, List.all_cons] at hname
          have hchar := hname.2.1
          simp only [List.mem_cons, List.not_mem_nil, or_false] at hmem
          rcases hmem with rfl | rfl | rfl <;> revert hchar <;> decide
      · obtain ⟨c, text, rfl, hc⟩ := hrest line hline
        refine ⟨c, text, rfl, fun hmem ↦ ?_⟩
        simp only [List.mem_cons, List.not_mem_nil, or_false] at hmem
        rcases hmem with rfl | rfl | rfl <;> revert hc <;> decide
    obtain ⟨hhash, hends⟩ := not_or.mp (fun h ↦ hkept (List.mem_cons.mpr h))
    refine ⟨by simp, hnewline, stripChars_eq_self (fun d hd ↦ ?_) (fun d hd hmem ↦ ?_), ?_⟩
    · cases hd
      exact hends
    · simp only [List.mem_cons, List.not_mem_nil, or_false] at hmem
      rcases hmem with rfl | rfl
      · exact hreturn hd
      · exact hnewline (List.mem_of_getLast? hd)
    · simp [isIgnoredLine, hhash]

end RoundTrip

section Examples

/-- A journal of an addition, a deletion, and another addition of the same object. -/
def personJournal : Database :=
  { emptyDatabase with
    journal := ⟨[⟨1, "A-T", "TEST", .authChange, 1, .addOrUpdate, "person",
        "person:         A\nsource:         TEST\n", 0⟩,
      ⟨2, "A-T", "TEST", .authChange, 2, .delete, "person",
        "person:         A\nsource:         TEST\n", 0⟩,
      ⟨3, "A-T", "TEST", .authChange, 3, .addOrUpdate, "person",
        "person:         A\naddress:        Street\n                City\nsource:         TEST\n",
        0⟩], by decide⟩
    status := ⟨[{ newHandler.newStatusRow localSettings "TEST" with
      serialOldestJournal := some 1, serialNewestJournal := some 3 }], by simp⟩ }

/-- Settings with this header. -/
def headerSettings (header : Option String) : NRTMGeneratorSettings :=
  ⟨true, none, none, header, ⟨[], [], none⟩⟩

/-- After a header that does not end in a newline, no START line is found. -/
theorem splitStream_headerLine : ∃ text,
    NRTMGenerator.generate (headerSettings (some "Terms")) personJournal "TEST" "3" 1 none true
      false 0 = .ok text ∧
    splitStream "TEST".toList text.toList = .error (.recorded ("Encountered operation before " ++
      "valid NRTM START line, paragraph encountered: ADD 1\n")) :=
  ⟨_, rfl, by decide +kernel⟩

/-- A response without a header is read as it was written. -/
theorem splitStream_generate_person : ∃ text p,
    NRTMGenerator.generate (headerSettings none) personJournal "TEST" "3" 1 none true false 0 =
      .ok text ∧
    splitStream "TEST".toList text.toList = .ok p ∧ p.firstSerial = 1 ∧ p.lastSerial = 3 ∧
    p.operations = (NRTMGenerator.serialNrtmRange personJournal "TEST" 1 none).map
      (expectedOperation (fun e ↦ (filteredText (headerSettings none) true false e).toList)) := by
  have hgenerate : ∃ text, NRTMGenerator.generate (headerSettings none) personJournal "TEST" "3" 1
      none true false 0 = .ok text := ⟨_, rfl⟩
  have hrange : NRTMGenerator.checkRange personJournal "TEST" 1 none = .ok (.available 3) := rfl
  obtain ⟨text, htext⟩ := hgenerate
  have hopens : OpensResponse (headerSettings none) "3" "TEST" 1 3
      (NRTMGenerator.serialNrtmRange personJournal "TEST" 1 none) :=
    opensResponse_of_header (by decide +kernel) (.inl rfl) (.inl rfl) (fun _ h ↦ by cases h)
  have hparagraphs : ∀ e ∈ NRTMGenerator.serialNrtmRange personJournal "TEST" 1 none,
      IsParagraph (filteredText (headerSettings none) true false e).toList := by decide +kernel
  obtain ⟨p, hp⟩ := (splitStream_generate_iff (by decide +kernel) (.inl rfl) hrange htext).mpr
    ⟨hopens, hparagraphs⟩
  exact ⟨text, p, htext, hp⟩

end Examples

end Irrd.Mirroring
