import Irrd.Base.Fallible
import Irrd.Mirroring.NrtmRoundTrip

/-!
# Serials of NRTMv3 streams

What the parser accepts has increasing serials from the first one that is declared. The last serial
is only enforced for version 1, where the serials are not in the stream. Source:
`irrd/mirroring/parsers.py:337–458`, `irrd/mirroring/mirror_runners_import.py:330–360`.
-/

namespace Irrd.Mirroring

open Irrd.Base Irrd.Rpsl Irrd.Storage Irrd.Utils NRTMStreamParser

section Items

/-- A part of a stream. An operation has its line and the paragraph after it. -/
inductive StreamItem
  | startLine (m : StartLine) (line : List Char)
  | comment (text : List Char)
  | operation (line objectText : List Char)
  | other

/-- The items of a stream, and the line of an operation at the end that has no paragraph after
it. -/
def streamItems : List (List Char) → List StreamItem × Option (List Char)
  | [] => ([], none)
  | paragraph :: paragraphs =>
    match matchStartLine paragraph with
    | some m => (.startLine m paragraph :: (streamItems paragraphs).1, (streamItems paragraphs).2)
    | none =>
      if isComment paragraph then
        (.comment paragraph :: (streamItems paragraphs).1, (streamItems paragraphs).2)
      else if isOperation paragraph then
        match paragraphs with
        | [] => ([], some paragraph)
        | objectText :: paragraphs =>
          (.operation paragraph objectText :: (streamItems paragraphs).1,
            (streamItems paragraphs).2)
      else (.other :: (streamItems paragraphs).1, (streamItems paragraphs).2)

/-- The START line of an item. -/
def StreamItem.startLine? : StreamItem → Option StartLine
  | .startLine m _ => some m
  | _ => none

/-- The comment of an item. -/
def StreamItem.comment? : StreamItem → Option (List Char)
  | .comment text => some text
  | _ => none

/-- The line and the object of an operation. -/
def StreamItem.operation? : StreamItem → Option (List Char × List Char)
  | .operation line objectText => some (line, objectText)
  | _ => none

/-- One item. -/
def handleItem (source : List Char) (p : NRTMStreamParser) :
    StreamItem → Except StreamError NRTMStreamParser
  | .startLine m line => p.handleStartLine source m line
  | .comment text => .ok { p with lastCommentSeen := text }
  | .operation line objectText => do
    let (operation, serial) ← p.handleOperation source line
    return p.addOperation operation serial objectText
  | .other => .ok p

/-- The end of a stream, where an operation may be cut off. -/
def handleCutOff (source : List Char) (p : NRTMStreamParser) :
    Option (List Char) → Except StreamError NRTMStreamParser
  | none => .ok p
  | some line => do
    let _ ← p.handleOperation source line
    .error .stopIteration

/-- A stream is handled item by item. -/
theorem handleParagraphs_eq (source : List Char) (p : NRTMStreamParser)
    (paragraphs : List (List Char)) :
    handleParagraphs source p paragraphs =
      (streamItems paragraphs).1.foldlM (handleItem source) p >>= fun p ↦
        handleCutOff source p (streamItems paragraphs).2 := by
  fun_induction streamItems paragraphs generalizing p with
  | case1 => rfl
  | case2 paragraph paragraphs m hm ih =>
    rw [handleParagraphs.eq_2, hm, List.foldlM_cons, bind_assoc]
    exact bind_congr (fun p ↦ ih p)
  | case3 paragraph paragraphs hm hcomment ih =>
    rw [handleParagraphs.eq_2, hm]
    exact (if_pos hcomment).trans (ih _)
  | case4 paragraph hm hcomment hoperation =>
    rw [handleParagraphs.eq_2, hm]
    exact (if_neg hcomment).trans (if_pos hoperation)
  | case5 paragraph hm hcomment hoperation objectText paragraphs ih =>
    rw [handleParagraphs.eq_2, hm, List.foldlM_cons]
    refine (if_neg hcomment).trans ((if_pos hoperation).trans ?_)
    rw [handleItem, bind_assoc, bind_assoc]
    apply bind_congr
    rintro ⟨operation, serial⟩
    exact ih _
  | case6 paragraph paragraphs hm hcomment hoperation ih =>
    rw [handleParagraphs.eq_2, hm]
    exact (if_neg hcomment).trans ((if_neg hoperation).trans (ih _))

end Items

section Reading

/-- What the line of an operation says: the operation and, if there is one, its serial. -/
def LineReads (line : List Char) (operation : DatabaseOperation) (written : Option Int) : Prop :=
  if ' ' ∈ line then
    ∃ serialText serial, line.splitOn ' ' = [operationName operation, serialText] ∧
      parseInt serialText = some serial ∧ written = some serial
  else strip line = operationName operation ∧ written = none

/-- Operations as their lines say, from the serial that is expected: a line without a serial has the
one expected, and no line has a lower one. -/
inductive OperationsFrom : Int → List (List Char × List Char) → List StreamOperation → Prop
  | nil {expected : Int} : OperationsFrom expected [] []
  | cons {expected : Int} {line objectText : List Char} {operation : DatabaseOperation}
    {written : Option Int} {lines : List (List Char × List Char)}
    {operations : List StreamOperation} (hline : LineReads line operation written)
    (hserial : expected ≤ written.getD expected)
    (hrest : OperationsFrom (written.getD expected + 1) lines operations) :
    OperationsFrom expected ((line, objectText) :: lines)
      (⟨operation, written.getD expected, objectText⟩ :: operations)

theorem OperationsFrom.le {expected : Int} {lines : List (List Char × List Char)}
    {operations : List StreamOperation} (h : OperationsFrom expected lines operations) :
    ∀ op ∈ operations, expected ≤ op.serial := by
  induction h with
  | nil => exact fun op hop ↦ absurd hop List.not_mem_nil
  | cons _ hserial _ ih =>
    intro op hop
    rcases List.mem_cons.mp hop with rfl | hop
    · exact hserial
    · have hle := ih op hop
      omega

/-- The serials of operations increase. -/
theorem OperationsFrom.pairwise {expected : Int} {lines : List (List Char × List Char)}
    {operations : List StreamOperation} (h : OperationsFrom expected lines operations) :
    operations.Pairwise (fun op op' ↦ op.serial < op'.serial) := by
  induction h with
  | nil => exact .nil
  | cons _ _ hrest ih =>
    apply List.Pairwise.cons _ ih
    intro op hop
    exact Int.lt_of_lt_of_le (Int.lt_succ _) (hrest.le op hop)

variable {source : List Char} {p p' : NRTMStreamParser}

/-- The lines of operations are handled once a START line is seen. -/
theorem handleOperation_eq_ok {line : List Char} {operation : DatabaseOperation} {serial : Int}
    (h : p.handleOperation source line = .ok (operation, serial)) :
    p.nrtmSource ≠ none ∧ ∃ written, LineReads line operation written ∧
      serial = written.getD p.expectedSerial ∧ p.expectedSerial ≤ serial := by
  unfold handleOperation at h
  split at h
  · cases h
  · next hstarted =>
    refine ⟨fun hnone ↦ hstarted (by rw [hnone]; rfl), ?_⟩
    obtain ⟨⟨operationStr, lineSerial⟩, hline, h⟩ := bind_eq_ok_iff.mp h
    have hname : operationStr = operationName operation ∧ lineSerial = serial := by
      dsimp only at h
      split at h
      · next hadd =>
        cases h
        exact ⟨hadd, rfl⟩
      · split at h
        · next hdel =>
          cases h
          exact ⟨hdel, rfl⟩
        · cases h
    obtain ⟨rfl, rfl⟩ := hname
    unfold operationLine at hline
    split at hline
    · next hspace =>
      split at hline
      · next operationStr serialText hsplit =>
        split at hline
        · cases hline
        · next written hwritten =>
          split at hline
          · cases hline
          · next hless =>
            cases hline
            exact ⟨_, (if_pos hspace).mpr ⟨_, _, hsplit, hwritten, rfl⟩, rfl, Int.not_lt.mp hless⟩
      · cases hline
    · next hspace =>
      obtain ⟨hname, hserial⟩ := Prod.mk.inj (Except.ok.inj hline)
      exact ⟨none, (if_neg hspace).mpr ⟨hname, rfl⟩, hserial.symm, Int.le_of_eq hserial⟩

/-- The last comment of items is remembered. -/
theorem lastCommentSeen_of_foldlM {items : List StreamItem}
    (h : items.foldlM (handleItem source) p = .ok p') :
    p'.lastCommentSeen = (items.filterMap StreamItem.comment?).getLast?.getD p.lastCommentSeen := by
  induction items generalizing p with
  | nil =>
    cases h
    rfl
  | cons item items ih =>
    rw [List.foldlM_cons] at h
    obtain ⟨q, hitem, h⟩ := bind_eq_ok_iff.mp h
    rw [ih h]
    cases item with
    | startLine m line =>
      obtain ⟨-, -, -, rfl⟩ := handleStartLine_eq_ok_iff.mp hitem
      rfl
    | comment text =>
      cases hitem
      show _ = ((text :: items.filterMap StreamItem.comment?).getLast?).getD _
      rw [List.getLast?_cons]
      cases (items.filterMap StreamItem.comment?).getLast? <;> rfl
    | operation line objectText =>
      obtain ⟨⟨operation, serial⟩, -, hadd⟩ := bind_eq_ok_iff.mp hitem
      cases hadd
      rfl
    | other =>
      cases hitem
      rfl

/-- What a parser reads once it has seen a START line. -/
structure ReadsItems (p p' : NRTMStreamParser) (items : List StreamItem) : Prop where
  starts : items.filterMap StreamItem.startLine? = []
  operations : ∃ operations, p'.operations = p.operations ++ operations ∧
    OperationsFrom p.expectedSerial (items.filterMap StreamItem.operation?) operations ∧
    p'.currentOpSerial = (operations.getLast?.map StreamOperation.serial).getD p.currentOpSerial
  frame : p'.version = p.version ∧ p'.nrtmSource = p.nrtmSource ∧
    p'.firstSerial = p.firstSerial ∧ p'.lastSerial = p.lastSerial

/-- Items after a START line. -/
theorem readsItems_of_foldlM {items : List StreamItem} (hstarted : p.nrtmSource ≠ none)
    (hserial : 0 ≤ p.expectedSerial) (h : items.foldlM (handleItem source) p = .ok p') :
    ReadsItems p p' items := by
  induction items generalizing p with
  | nil =>
    cases h
    exact ⟨rfl, ⟨[], by simp, .nil, rfl⟩, rfl, rfl, rfl, rfl⟩
  | cons item items ih =>
    rw [List.foldlM_cons] at h
    obtain ⟨q, hitem, h⟩ := bind_eq_ok_iff.mp h
    cases item with
    | startLine m line => exact absurd (handleStartLine_eq_ok_iff.mp hitem).1 hstarted
    | comment text =>
      cases hitem
      obtain ⟨hstarts, hoperations, hframe⟩ :=
        ih (p := { p with lastCommentSeen := text }) hstarted hserial h
      exact ⟨hstarts, hoperations, hframe⟩
    | other =>
      cases hitem
      obtain ⟨hstarts, hoperations, hframe⟩ := ih hstarted hserial h
      exact ⟨hstarts, hoperations, hframe⟩
    | operation line objectText =>
      obtain ⟨⟨operation, serial⟩, hhandle, hadd⟩ := bind_eq_ok_iff.mp hitem
      cases hadd
      obtain ⟨-, written, hline, rfl, hle⟩ := handleOperation_eq_ok hhandle
      have hexpected : (p.addOperation operation (written.getD p.expectedSerial)
          objectText).expectedSerial = written.getD p.expectedSerial + 1 := by
        have hne : written.getD p.expectedSerial ≠ -1 := by omega
        exact if_neg hne
      obtain ⟨hstarts, ⟨operations, hnew, hfrom, hcurrent⟩, hframe⟩ :=
        ih (p := p.addOperation operation (written.getD p.expectedSerial) objectText) hstarted
          (by rw [hexpected]; omega) h
      rw [hexpected] at hfrom
      refine ⟨hstarts, ⟨⟨operation, written.getD p.expectedSerial, objectText⟩ :: operations, ?_,
        .cons hline hle hfrom, ?_⟩, hframe⟩
      · rw [hnew]
        exact List.append_assoc _ _ _
      · rw [hcurrent, List.getLast?_cons]
        cases operations.getLast? <;> rfl

/-- What is read before a START line: there are no operations, and then the line fits the source. -/
theorem reads_of_foldlM {items : List StreamItem} (hunstarted : p.nrtmSource = none)
    (h : items.foldlM (handleItem source) p = .ok p') :
    (items.filterMap StreamItem.startLine? = [] ∧ items.filterMap StreamItem.operation? = [] ∧
        ∃ comment, p' = { p with lastCommentSeen := comment }) ∨
      ∃ before m line after comment, items = before ++ .startLine m line :: after ∧
        before.filterMap StreamItem.startLine? = [] ∧
        before.filterMap StreamItem.operation? = [] ∧ FitsSource source m ∧
        after.foldlM (handleItem source) { p with
          version := m.version
          nrtmSource := some source
          firstSerial := m.firstSerial
          lastSerial := m.lastSerial
          lastCommentSeen := comment } = .ok p' := by
  induction items generalizing p with
  | nil =>
    cases h
    exact .inl ⟨rfl, rfl, _, rfl⟩
  | cons item items ih =>
    rw [List.foldlM_cons] at h
    obtain ⟨q, hitem, h⟩ := bind_eq_ok_iff.mp h
    cases item with
    | startLine m line =>
      obtain ⟨-, hsource, hversion, rfl⟩ := handleStartLine_eq_ok_iff.mp hitem
      exact .inr ⟨[], m, line, items, _, rfl, rfl, rfl, ⟨hsource, hversion⟩, h⟩
    | comment text =>
      cases hitem
      rcases ih (p := { p with lastCommentSeen := text }) hunstarted h with
        hnone | ⟨before, m, line, after, comment, rfl, hrest⟩
      · exact .inl hnone
      · exact .inr ⟨.comment text :: before, m, line, after, comment, rfl, hrest⟩
    | other =>
      cases hitem
      rcases ih hunstarted h with hnone | ⟨before, m, line, after, comment, rfl, hrest⟩
      · exact .inl hnone
      · exact .inr ⟨.other :: before, m, line, after, comment, rfl, hrest⟩
    | operation line objectText =>
      obtain ⟨⟨operation, serial⟩, hhandle, -⟩ := bind_eq_ok_iff.mp hitem
      exact absurd hunstarted (handleOperation_eq_ok hhandle).1

end Reading

section Streams

variable {source : List Char}

/-- What an accepted stream says: the operations follow a START line for the source, as their lines
say from its first serial, and the last comment is the END line of the source. Without a START line
there are no operations. -/
structure AcceptedStream (source : List Char) (items : List StreamItem) (p : NRTMStreamParser) :
    Prop where
  start : (items.filterMap StreamItem.startLine? = [] ∧
      items.filterMap StreamItem.operation? = []) ∨
    ∃ before m line after, items = before ++ .startLine m line :: after ∧
      before.filterMap StreamItem.startLine? = [] ∧ before.filterMap StreamItem.operation? = [] ∧
      after.filterMap StreamItem.startLine? = [] ∧ FitsSource source m ∧
      p.version = m.version ∧ p.firstSerial = m.firstSerial ∧ p.lastSerial = m.lastSerial ∧
      strip (upperText ((items.filterMap StreamItem.comment?).getLast?.getD [])) =
        "%END ".toList ++ source
  operations : OperationsFrom p.firstSerial (items.filterMap StreamItem.operation?) p.operations

/-- Whether an exception is a `ValueError`. -/
def StreamError.isValueError : StreamError → Bool
  | .recorded _ => true
  | .valueError _ => true
  | .stopIteration => false

/-- The items of a stream. -/
def itemsOf (data : List Char) : List StreamItem := (streamItems (splitParagraphsRpsl data false)).1

/-- Whether a stream ends in the line of an operation. -/
def IsCutOff (data : List Char) : Prop :=
  (streamItems (splitParagraphsRpsl data false)).2 ≠ none

theorem splitStream_eq_ok_iff {data : List Char} {p : NRTMStreamParser} :
    splitStream source data = .ok p ↔
      (itemsOf data).foldlM (handleItem source) NRTMStreamParser.init = .ok p ∧ ¬ IsCutOff data ∧
        p.checkEnd source = .ok p := by
  unfold splitStream itemsOf IsCutOff
  rw [handleParagraphs_eq, not_not]
  constructor
  · intro h
    obtain ⟨q, hread, hend⟩ := bind_eq_ok_iff.mp h
    obtain ⟨q', hitems, hcut⟩ := bind_eq_ok_iff.mp hread
    obtain ⟨rfl, -⟩ := checkEnd_eq_ok_iff.mp hend
    cases hlast : (streamItems (splitParagraphsRpsl data false)).2 with
    | none =>
      rw [hlast] at hcut
      cases hcut
      exact ⟨hitems, rfl, hend⟩
    | some line =>
      rw [hlast] at hcut
      obtain ⟨-, -, hcut⟩ := bind_eq_ok_iff.mp hcut
      cases hcut
  · rintro ⟨hitems, hlast, hend⟩
    rw [hlast, hitems]
    exact hend

/-- What is accepted is what the stream says. -/
theorem acceptedStream_of_ok {data : List Char} {p : NRTMStreamParser}
    (h : splitStream source data = .ok p) : AcceptedStream source (itemsOf data) p ∧
      (p.operations ≠ [] → p.currentOpSerial =
        (p.operations.getLast?.map StreamOperation.serial).getD (-1)) := by
  obtain ⟨hitems, -, hend⟩ := splitStream_eq_ok_iff.mp h
  have hcomment := lastCommentSeen_of_foldlM hitems
  obtain ⟨-, hlast, -⟩ := checkEnd_eq_ok_iff.mp hend
  rcases reads_of_foldlM rfl hitems with
    ⟨hstarts, hoperations, comment, rfl⟩ |
      ⟨before, m, line, after, comment, hsplit, hstarts, hoperations, hfits, hrest⟩
  · refine ⟨⟨.inl ⟨hstarts, hoperations⟩, ?_⟩, fun hne ↦ absurd rfl hne⟩
    rw [hoperations]
    exact .nil
  · have hexpected : (started source m comment).expectedSerial = m.firstSerial := if_pos rfl
    obtain ⟨hnone, ⟨operations, hnew, hfrom, hcurrent⟩, hversion, hsource, hfirst, hlastSerial⟩ :=
      readsItems_of_foldlM (p := started source m comment) (Option.some_ne_none _)
        (hexpected ▸ Int.natCast_nonneg m.firstSerial) hrest
    replace hnew : p.operations = operations := hnew
    refine ⟨⟨.inr ⟨before, m, line, after, hsplit, hstarts, hoperations, hnone, hfits, hversion,
      hfirst, hlastSerial, ?_⟩, ?_⟩, fun _ ↦ hnew ▸ hcurrent⟩
    · rw [hcomment] at hlast
      exact hlast (by rw [hsource]; rfl)
    · rw [hsplit, List.filterMap_append, hoperations, hnew, hfirst]
      rw [hexpected] at hfrom
      exact hfrom

/-- Computations whose exceptions are all `ValueError`. -/
def RaisesValueErrors {A : Type} (x : Except StreamError A) : Prop :=
  ∀ e, x = .error e → e.isValueError = true

theorem RaisesValueErrors.bind {A B : Type} {x : Except StreamError A}
    {f : A → Except StreamError B} (hx : RaisesValueErrors x) (hf : ∀ a, RaisesValueErrors (f a)) :
    RaisesValueErrors (x >>= f) := by
  intro e he
  cases x with
  | error raised =>
    cases he
    exact hx _ rfl
  | ok a => exact hf a e he

theorem RaisesValueErrors.ok {A : Type} (a : A) :
    RaisesValueErrors (.ok a : Except StreamError A) := by
  intro e he
  cases he

theorem raisesValueErrors_operationLine (p : NRTMStreamParser) (line : List Char) :
    RaisesValueErrors (p.operationLine source line) := by
  intro e he
  unfold operationLine at he
  repeat' split at he
  all_goals cases he <;> rfl

theorem raisesValueErrors_handleOperation (p : NRTMStreamParser) (line : List Char) :
    RaisesValueErrors (p.handleOperation source line) := by
  unfold handleOperation
  split
  · intro e he
    cases he
    rfl
  · apply (raisesValueErrors_operationLine p line).bind
    rintro ⟨operationStr, serial⟩ e he
    dsimp only at he
    split at he
    · cases he
    · split at he <;> cases he
      rfl

theorem raisesValueErrors_handleItem (p : NRTMStreamParser) (item : StreamItem) :
    RaisesValueErrors (handleItem source p item) := by
  cases item with
  | startLine m line =>
    intro e he
    simp only [handleItem, handleStartLine] at he
    repeat' split at he
    all_goals cases he <;> rfl
  | comment text => exact .ok _
  | other => exact .ok _
  | operation line objectText =>
    exact (raisesValueErrors_handleOperation p line).bind (fun _ ↦ .ok _)

theorem raisesValueErrors_items (p : NRTMStreamParser) (items : List StreamItem) :
    RaisesValueErrors (items.foldlM (handleItem source) p) := by
  induction items generalizing p with
  | nil => exact .ok p
  | cons item items ih =>
    rw [List.foldlM_cons]
    exact (raisesValueErrors_handleItem p item).bind (fun q ↦ ih q)

/-- Everything that ends parsing is a `ValueError`, but for the end of a stream that is cut off. -/
theorem isValueError_of_error {data : List Char} {e : StreamError}
    (h : splitStream source data = .error e) : e.isValueError = true ∨ IsCutOff data := by
  by_cases hcut : IsCutOff data
  · exact .inr hcut
  · left
    revert h
    revert e
    unfold splitStream
    rw [handleParagraphs_eq, not_not.mp hcut]
    apply RaisesValueErrors.bind
    · exact (raisesValueErrors_items _ _).bind (fun p ↦ .ok p)
    · intro p e he
      unfold checkEnd at he
      repeat' split at he
      all_goals cases he <;> rfl

/-- What `NRTMImportUpdateStreamRunner.run` does with a response: the operations that it saves, the
serial that is recorded for the source, and the exception. -/
structure StreamRun where
  saved : List StreamOperation
  serialNewestMirror : Option Nat
  raised : Option StreamError

/-- `NRTMImportUpdateStreamRunner.run`, `irrd/mirroring/mirror_runners_import.py:357–360`:
operations are saved once the stream is parsed. -/
def runStream (source response : List Char) : StreamRun :=
  match splitStream source response with
  | .ok p => ⟨p.operations, p.serialNewestMirror, none⟩
  | .error e => ⟨[], none, some e⟩

/-- The serial that the next query begins with, `irrd/mirroring/mirror_runners_import.py:331`. -/
def serialStart (serialNewestMirror : Nat) : Nat := serialNewestMirror + 1

theorem raised_runStream {data : List Char} {e : StreamError}
    (h : (runStream source data).raised = some e) :
    splitStream source data = .error e ∧ (runStream source data).saved = [] := by
  unfold runStream at h ⊢
  cases hsplit : splitStream source data with
  | ok p =>
    rw [hsplit] at h
    cases h
  | error raised =>
    rw [hsplit] at h
    cases h
    exact ⟨rfl, rfl⟩

/-- In an accepted stream, serials are in the declared range; for version 3, where the last one
is. -/
theorem le_lastSerial_of_ok {data : List Char} {p : NRTMStreamParser}
    (h : splitStream source data = .ok p)
    (hlast : p.version = ['3'] → ∀ last ∈ p.operations.getLast?, last.serial ≤ p.lastSerial) :
    ∀ op ∈ p.operations, op.serial ≤ p.lastSerial := by
  obtain ⟨haccepted, hcurrent⟩ := acceptedStream_of_ok h
  obtain ⟨-, -, hversion⟩ := checkEnd_eq_ok_iff.mp (splitStream_eq_ok_iff.mp h).2.2
  intro op hop
  have hne := List.ne_nil_of_mem hop
  have hle : op.serial ≤ (p.operations.getLast hne).serial := by
    by_cases heq : op = p.operations.getLast hne
    · rw [heq]
    · have hbefore : op ∈ p.operations.dropLast := by
        rw [← List.dropLast_append_getLast hne] at hop
        exact (List.mem_append.mp hop).resolve_right (fun h ↦ heq (List.mem_singleton.mp h))
      have hpairwise := haccepted.operations.pairwise
      rw [← List.dropLast_append_getLast hne] at hpairwise
      exact Int.le_of_lt ((List.pairwise_append.mp hpairwise).2.2 op hbefore _
        (List.mem_singleton_self _))
  have hlastOp := List.getLast?_eq_some_getLast hne
  by_cases hthree : p.version = ['3']
  · exact Int.le_trans hle (hlast hthree _ hlastOp)
  · have hcurrentOp := hcurrent hne
    rw [hlastOp] at hcurrentOp
    have hnot := mt hversion hthree
    rw [hcurrentOp] at hnot
    exact Int.le_trans hle (Int.not_lt.mp hnot)

/-- For every stream: where it is accepted, it is what the parser reads, its serials increase
strictly from the first one that is declared, and they are in the declared range and before the
next query, for version 3 where its last one is. Where it is not accepted no operation is saved, and
unless it is cut off in an operation the exception is a `ValueError`. -/
theorem runStream_serials (source data : List Char) :
    (∀ p, splitStream source data = .ok p →
      AcceptedStream source (itemsOf data) p ∧ ¬ IsCutOff data ∧
        p.operations.Pairwise (fun op op' ↦ op.serial < op'.serial) ∧
        (∀ op ∈ p.operations, p.firstSerial ≤ op.serial) ∧
        ((p.version = ['3'] → ∀ last ∈ p.operations.getLast?, last.serial ≤ p.lastSerial) →
          ∀ op ∈ p.operations, op.serial ≤ p.lastSerial ∧
            (0 < p.lastSerial → ∃ newest,
              (runStream source data).serialNewestMirror = some newest ∧
                op.serial < serialStart newest))) ∧
      ∀ e, (runStream source data).raised = some e → (runStream source data).saved = [] ∧
        (e.isValueError = true ∨ IsCutOff data) := by
  constructor
  · intro p h
    have haccepted := (acceptedStream_of_ok h).1
    refine ⟨haccepted, (splitStream_eq_ok_iff.mp h).2.1, haccepted.operations.pairwise,
      haccepted.operations.le, fun hlast op hop ↦ ?_⟩
    have hle := le_lastSerial_of_ok h hlast op hop
    refine ⟨hle, fun hpos ↦ ⟨p.lastSerial.toNat, ?_, ?_⟩⟩
    · unfold runStream
      rw [h]
      exact if_pos hpos
    · unfold serialStart
      omega
  · intro e he
    obtain ⟨hraised, hsaved⟩ := raised_runStream he
    exact ⟨hsaved, isValueError_of_error hraised⟩

/-- A stream of version 3 with an operation after its last serial. -/
def farStream : List Char :=
  "%START Version: 3 TEST 1-2\n\nADD 5\n\nperson: A\nsource: TEST\n\n%END TEST\n".toList

/-- What is read from it. -/
def farParser : NRTMStreamParser :=
  ⟨['3'], some "TEST".toList, 1, 2, 5,
    [⟨.addOrUpdate, 5, "person: A\nsource: TEST\n".toList⟩], "%END TEST\n".toList⟩

/-- The operation is saved, and the next query begins before it. -/
theorem farStream_accepted : splitStream "TEST".toList farStream = .ok farParser ∧
    (runStream "TEST".toList farStream).raised = none ∧
      (runStream "TEST".toList farStream).saved = farParser.operations ∧
        (runStream "TEST".toList farStream).serialNewestMirror = some 2 ∧
          ∃ op ∈ farParser.operations, farParser.lastSerial < op.serial ∧
            (serialStart 2 : Int) ≤ op.serial := by
  have hsplit : splitStream "TEST".toList farStream = .ok farParser := by decide +kernel
  unfold runStream
  rw [hsplit]
  exact ⟨rfl, rfl, rfl, rfl, _, List.mem_singleton_self _, by decide, by decide⟩

end Streams

end Irrd.Mirroring
