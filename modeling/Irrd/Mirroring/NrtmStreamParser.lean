import Irrd.Rpsl.Fields
import Irrd.Storage.Models
import Irrd.Utils.Paragraphs
import Irrd.Utils.Text
import Irrd.Utils.WordCharacters

/-!
# NRTMv3 streams

A stream is taken apart into its START line and its operations. Source:
`irrd/mirroring/parsers.py`.
-/

namespace Irrd.Mirroring

open Irrd.Base Irrd.Rpsl Irrd.Storage Irrd.Utils

section StartLine

/-- What a START line says. -/
structure StartLine where
  version : List Char
  source : List Char
  firstSerial : Nat
  lastSerial : Nat
  deriving DecidableEq

/-- What follows a literal. -/
def dropLiteral (literal text : List Char) : Option (List Char) :=
  if literal.isPrefixOf text then some (text.drop literal.length) else none

/-- At least one character of a kind, and what follows. -/
def spanOne (p : Char → Bool) (text : List Char) : Option (List Char × List Char) :=
  if text.takeWhile p = [] then none else some (text.takeWhile p, text.dropWhile p)

/-- What follows spaces. -/
def dropSpaces (text : List Char) : List Char := text.dropWhile (· = ' ')

/-- A character of a name, `[\w-]`. -/
def isSourceChar (c : Char) : Bool := isWordChar c || c = '-'

/-- `int` of digits, without its limit on their number. -/
def intOfDigits (digits : List Char) : Nat := digitsNumber decimalDigit 0 digits

/-- `nrtm_start_line_re`, `irrd/mirroring/parsers.py:18–24`, matched at the beginning of a text. -/
def matchStartLine (text : List Char) : Option StartLine := do
  let rest ← dropLiteral ['%'] text
  let rest ← dropLiteral "START".toList (dropSpaces rest)
  let rest ← dropLiteral "Version:".toList (dropSpaces rest)
  let (version, rest) ← spanOne isDecimal (dropSpaces rest)
  let (_, rest) ← spanOne (· = ' ') rest
  let (source, rest) ← spanOne isSourceChar rest
  let (_, rest) ← spanOne (· = ' ') rest
  let (first, rest) ← spanOne isDecimal rest
  let rest ← dropLiteral ['-'] rest
  let (last, rest) ← spanOne isDecimal rest
  let rest := (dropLiteral " FILTERED".toList rest).getD rest
  if rest = ['\n'] ∨ ['\n', '\n'].isPrefixOf rest then
    some ⟨version, source, intOfDigits first, intOfDigits last⟩
  else none

end StartLine

section Parser

/-- An operation in a stream, by what the parser reads from the stream. -/
structure StreamOperation where
  operation : DatabaseOperation
  serial : Int
  objectText : List Char
  deriving DecidableEq

/-- `NRTMStreamParser`, `irrd/mirroring/parsers.py:303–335`. Serials are −1 until they are known. -/
structure NRTMStreamParser where
  version : List Char
  nrtmSource : Option (List Char)
  firstSerial : Int
  lastSerial : Int
  currentOpSerial : Int
  operations : List StreamOperation
  lastCommentSeen : List Char
  deriving DecidableEq

/-- What ends parsing: an error that is recorded for the source before it is raised, another
`ValueError`, or the end of the stream where an object was expected. -/
inductive StreamError
  | recorded (message : String)
  | valueError (message : String)
  | stopIteration
  deriving DecidableEq

namespace NRTMStreamParser

/-- A parser that has seen nothing. -/
def init : NRTMStreamParser := ⟨[], none, -1, -1, -1, [], []⟩

variable (source : List Char) (p : NRTMStreamParser)

/-- `_handle_possible_start_line` for a START line, `irrd/mirroring/parsers.py:374–412`. -/
def handleStartLine (m : StartLine) (line : List Char) : Except StreamError NRTMStreamParser :=
  let started := { p with
    version := m.version
    nrtmSource := some (upperText m.source)
    firstSerial := m.firstSerial
    lastSerial := m.lastSerial }
  if p.nrtmSource.isSome then
    .error (.recorded (s!"Encountered second START line in NRTM stream, first was {display source} "
      ++ s!"{p.firstSerial}-{p.lastSerial}, new line is: {display line}"))
  else if source ≠ upperText m.source then
    .error (.recorded (s!"Invalid NRTM source in START line: expected {display source} but found "
      ++ s!"{display (upperText m.source)} in line: {display line}"))
  else if m.version ∉ [['1'], ['3']] then
    .error (.recorded
      s!"Invalid NRTM version {display m.version} in START line: {display line}")
  else .ok started

/-- The serial that an operation has at least, `irrd/mirroring/parsers.py:425–428`. -/
def expectedSerial : Int :=
  if p.currentOpSerial = -1 then p.firstSerial else p.currentOpSerial + 1

/-- The name and the serial of an operation, `irrd/mirroring/parsers.py:430–445`. -/
def operationLine (paragraph : List Char) : Except StreamError (List Char × Int) :=
  if ' ' ∈ paragraph then
    match paragraph.splitOn ' ' with
    | [operationStr, lineSerialStr] =>
      match parseInt lineSerialStr with
      | none => .error (.valueError "invalid literal for int() with base 10")
      | some lineSerial =>
        if lineSerial < p.expectedSerial then
          .error (.recorded (s!"Invalid NRTM serial for {display source}: ADD/DEL has serial " ++
            s!"{lineSerial}, expected at least {p.expectedSerial}"))
        else .ok (operationStr, lineSerial)
    | _ => .error (.valueError "too many values to unpack")
  else .ok (strip paragraph, p.expectedSerial)

/-- `_handle_operation` up to the text of the object, `irrd/mirroring/parsers.py:414–447`. -/
def handleOperation (paragraph : List Char) : Except StreamError (DatabaseOperation × Int) := do
  if p.nrtmSource.isNone then
    .error (.recorded ("Encountered operation before valid NRTM START line, paragraph encountered: "
      ++ display paragraph))
  else
    let (operationStr, serial) ← p.operationLine source paragraph
    if operationStr = "ADD".toList then return (.addOrUpdate, serial)
    else if operationStr = "DEL".toList then return (.delete, serial)
    else .error (.valueError "not a valid DatabaseOperation")

/-- The parser after an operation with the text of its object. -/
def addOperation (operation : DatabaseOperation) (serial : Int) (objectText : List Char) :
    NRTMStreamParser :=
  { p with
    currentOpSerial := serial
    operations := p.operations ++ [⟨operation, serial, objectText⟩] }

/-- A paragraph that is a comment. -/
def isComment (paragraph : List Char) : Bool :=
  paragraph.head? = some '%' || paragraph.head? = some '#'

/-- A paragraph that begins an operation. -/
def isOperation (paragraph : List Char) : Bool :=
  "ADD".toList.isPrefixOf paragraph || "DEL".toList.isPrefixOf paragraph

/-- The loop of `_split_stream`, `irrd/mirroring/parsers.py:341–350`. -/
def handleParagraphs : NRTMStreamParser → List (List Char) → Except StreamError NRTMStreamParser
  | p, [] => .ok p
  | p, paragraph :: paragraphs =>
    match matchStartLine paragraph with
    | some m => do
      let p ← p.handleStartLine source m paragraph
      handleParagraphs p paragraphs
    | none =>
      if isComment paragraph then
        handleParagraphs { p with lastCommentSeen := paragraph } paragraphs
      else if isOperation paragraph then do
        let (operation, serial) ← p.handleOperation source paragraph
        match paragraphs with
        | [] => .error .stopIteration
        | objectText :: paragraphs =>
          handleParagraphs (p.addOperation operation serial objectText) paragraphs
      else handleParagraphs p paragraphs

/-- The checks at the end of a stream, `irrd/mirroring/parsers.py:352–369`. -/
def checkEnd : Except StreamError NRTMStreamParser :=
  if p.nrtmSource.isSome ∧ strip (upperText p.lastCommentSeen) ≠ "%END ".toList ++ source then
    .error (.recorded (s!"NRTM stream error for {display source}: last comment paragraph expected "
      ++ s!"to be \"%END {display source}\", but is actually "
      ++ s!"\"{display (strip (upperText p.lastCommentSeen))}\" - could be caused by TCP "
      ++ "disconnection during NRTM query or mirror server returning an error or an otherwise "
      ++ "incomplete or invalid response"))
  else if p.lastSerial < p.currentOpSerial ∧ p.version ≠ ['3'] then
    .error (.recorded (s!"NRTM stream error for {display source}: expected operations up to and "
      ++ s!"including serial {p.lastSerial}, last operation was {p.currentOpSerial}"))
  else .ok p

/-- `_split_stream`, `irrd/mirroring/parsers.py:337–372`. -/
def splitStream (data : List Char) : Except StreamError NRTMStreamParser := do
  let p ← handleParagraphs source init (splitParagraphsRpsl data false)
  p.checkEnd source

/-- The serial that the mirror is at after a stream, `irrd/mirroring/parsers.py:371–372`. -/
def serialNewestMirror : Option Nat :=
  if 0 < p.lastSerial then some p.lastSerial.toNat else none

end NRTMStreamParser

end Parser

end Irrd.Mirroring
