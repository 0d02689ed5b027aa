import Mathlib.Data.List.Sort
import Irrd.Base.Reaches
import Irrd.Base.ResumePoint
import Irrd.Rpsl.ParserExceptions
import Irrd.Storage.Models
import Irrd.Utils.Text

/-!
# Event stream

A client that follows the journal over connections, each of which may end after any message. Source:
`irrd/server/http/event_stream.py`, `irrd/storage/queries.py`. Events of other kinds do not move the
position in the journal, and are left out. The collation of sources is a parameter.
-/

namespace Irrd.Server

open Irrd.Base Irrd.Rpsl Irrd.Storage

section Queries

variable (collation : String → String → Bool)

/-- The order of `RPSLDatabaseJournalQuery`, `irrd/storage/queries.py:476–478`. -/
def journalOrder (a b : RPSLDatabaseJournal) : Bool :=
  if a.source = b.source then a.serialNrtm ≤ b.serialNrtm else collation a.source b.source

/-- `serial_global_range` without an end, `irrd/storage/queries.py:492–496`. -/
def serialGlobalRange (journal : List RPSLDatabaseJournal) (start : Nat) :
    List RPSLDatabaseJournal :=
  (journal.filter (fun e ↦ start ≤ e.serialGlobal)).insertionSort
    (fun a b ↦ journalOrder collation a b = true)

end Queries

/-- The global serials of journal entries. -/
def globalSerials (entries : List RPSLDatabaseJournal) : List Nat :=
  entries.map RPSLDatabaseJournal.serialGlobal

/-- `max_serial_global` of `RPSLDatabaseJournalStatisticsQuery`. -/
def maxSerialGlobal (journal : List RPSLDatabaseJournal) : Option Nat :=
  (globalSerials journal).max?

/-- The data of a message `rpsl_journal`. -/
structure RPSLJournalMessage where
  pk : String
  source : String
  operation : DatabaseOperation
  objectClass : String
  serialGlobal : Nat
  serialNrtm : Nat
  origin : JournalEntryOrigin
  timestamp : Nat
  objectText : String
  parsedData : ParsedData

/-- The message for a journal entry, whose text is parsed again,
`irrd/server/http/event_stream.py:279–299`. -/
def rpslJournalMessage (env : Environment) (e : RPSLDatabaseJournal) :
    Except ParserException RPSLJournalMessage := do
  let objectText := Utils.removeAuthHashes e.objectText
  let rpslObj ← rpslObjectFromText env objectText.toList false none
  return {
    pk := e.rpslPk
    source := e.source
    operation := e.operation
    objectClass := e.objectClass
    serialGlobal := e.serialGlobal
    serialNrtm := e.serialNrtm
    origin := e.origin
    timestamp := e.timestamp
    objectText
    parsedData := rpslObj.parsedData }

/-- `AsyncEventStreamFollower`: its position, the rows of its query that are still to be sent, and
whether its task ended with an exception. -/
structure AsyncEventStreamFollower where
  afterGlobalSerial : Option Nat
  journalEntries : List RPSLDatabaseJournal
  failed : Bool

/-- Why no follower is created. -/
inductive SubscriptionError
  | invalidRequest (maxSerialGlobal : Nat)
  | typeError
  deriving DecidableEq

namespace AsyncEventStreamFollower

/-- `create`, `irrd/server/http/event_stream.py:211–236`. A number is not compared with the maximum
of an empty journal, which is `None`. -/
def create (journal : List RPSLDatabaseJournal) (afterGlobalSerial : Option Nat) :
    Except SubscriptionError AsyncEventStreamFollower :=
  match afterGlobalSerial, maxSerialGlobal journal with
  | some _, none => .error .typeError
  | some after, some m =>
    if m < after then .error (.invalidRequest m) else .ok ⟨some after, [], false⟩
  | none, m => .ok ⟨m, [], false⟩

/-- The query of `_send_new_journal_entries`. One cannot be added to `None`. -/
def query (collation : String → String → Bool) (journal : List RPSLDatabaseJournal)
    (f : AsyncEventStreamFollower) : AsyncEventStreamFollower :=
  match f.afterGlobalSerial with
  | some after => { f with journalEntries := serialGlobalRange collation journal (after + 1) }
  | none => { f with failed := true }

/-- The next entry is sent, `irrd/server/http/event_stream.py:278–300`. -/
def sendNext (env : Environment) (f : AsyncEventStreamFollower) :
    AsyncEventStreamFollower × List RPSLJournalMessage :=
  match f.journalEntries with
  | [] => (f, [])
  | e :: entries =>
    match rpslJournalMessage env e with
    | .error _ => ({ f with failed := true }, [])
    | .ok message =>
      ({ f with
          afterGlobalSerial := f.afterGlobalSerial.map (fun after ↦ max e.serialGlobal after)
          journalEntries := entries }, [message])

end AsyncEventStreamFollower

/-- The journal and one client of the stream: what it asks for first, the serial after which it is
to receive every entry, its connection, the messages on their way, and those it has processed. -/
structure EventStream where
  journal : List RPSLDatabaseJournal
  firstRequest : Option Nat
  startingPoint : Option Nat
  follower : Option AsyncEventStreamFollower
  inFlight : List RPSLJournalMessage
  processed : List RPSLJournalMessage

/-- What happens next: a transaction adds entries to the journal, the client subscribes, the stream
queries the journal or sends the next entry, or the client processes a message or disconnects. -/
inductive EventStreamStep
  | commit (entries : List RPSLDatabaseJournal)
  | subscribe
  | poll
  | send
  | process
  | disconnect

namespace EventStream

/-- The serials of the messages that the client has processed. -/
def received (s : EventStream) : List Nat := s.processed.map RPSLJournalMessage.serialGlobal

/-- The serial that the client subscribes with: that of the last message it processed. -/
def requestedSerial (s : EventStream) : Option Nat := s.received.getLast?.or s.firstRequest

/-- A client that has no serial to subscribe with starts when it subscribes. -/
def subscribe (s : EventStream) : EventStream :=
  match AsyncEventStreamFollower.create s.journal s.requestedSerial with
  | .error _ => s
  | .ok f =>
    { s with
      follower := some f
      startingPoint := s.startingPoint.or (some (f.afterGlobalSerial.getD 0)) }

/-- A connection ends, and with it the messages that are on their way. -/
def disconnect (s : EventStream) : EventStream :=
  { s with
    follower := none
    inFlight := []
    startingPoint := if s.requestedSerial = none then none else s.startingPoint }

/-- One step. Serials are global serials in the order of commits. -/
def step (collation : String → String → Bool) (env : Environment) (s : EventStream) :
    EventStreamStep → Option EventStream
  | .commit entries =>
    if (globalSerials (s.journal ++ entries)).Pairwise (· < ·) then
      some { s with journal := s.journal ++ entries }
    else none
  | .subscribe => if s.follower.isNone then some s.subscribe else none
  | .poll =>
    match s.follower with
    | some f =>
      if f.failed = false ∧ f.journalEntries = [] then
        some { s with follower := some (f.query collation s.journal) }
      else none
    | none => none
  | .send =>
    match s.follower with
    | some f =>
      if f.failed = false ∧ f.journalEntries ≠ [] then
        some { s with
          follower := some (f.sendNext env).1
          inFlight := s.inFlight ++ (f.sendNext env).2 }
      else none
    | none => none
  | .process =>
    match s.inFlight with
    | message :: inFlight => some { s with inFlight, processed := s.processed ++ [message] }
    | [] => none
  | .disconnect => if s.follower.isSome then some s.disconnect else none

/-- A client before its first subscription. -/
def start (firstRequest : Option Nat) : EventStream :=
  ⟨[], firstRequest, firstRequest, none, [], []⟩

/-- The serials that a follower sends when nothing else happens. -/
def upcoming (collation : String → String → Bool) (journal : List RPSLDatabaseJournal)
    (f : AsyncEventStreamFollower) : List Nat :=
  match f.failed, f.afterGlobalSerial with
  | false, some after =>
    let entries := globalSerials f.journalEntries
    entries ++
      globalSerials (serialGlobalRange collation journal (endPosition after entries + 1))
  | _, _ => []

/-- The serials that the client is still to receive when nothing else happens, other than that it
subscribes where it is not connected. -/
def remaining (collation : String → String → Bool) (s : EventStream) : List Nat :=
  match s.follower with
  | some f => s.inFlight.map RPSLJournalMessage.serialGlobal ++ upcoming collation s.journal f
  | none =>
    match AsyncEventStreamFollower.create s.journal s.requestedSerial with
    | .ok f => upcoming collation s.journal f
    | .error _ => []

/-- The serials of the messages on their way and of the entries of a query that are not sent. -/
def underway (s : EventStream) : List Nat :=
  s.inFlight.map RPSLJournalMessage.serialGlobal ++
    (s.follower.elim [] (fun f ↦ globalSerials f.journalEntries))

/-- What was processed are messages for journal entries, and with what remains every entry newer
than the starting point is received exactly once. -/
structure DeliversOnce (collation : String → String → Bool) (env : Environment) (s : EventStream) :
    Prop where
  messages : ∀ message ∈ s.processed, ∃ e ∈ s.journal, rpslJournalMessage env e = .ok message
  once : match s.startingPoint with
    | some start => (s.received ++ s.remaining collation).Perm
        (itemsAfter start (globalSerials s.journal))
    | none => s.received ++ s.remaining collation = []

/-- The steps at which the stream keeps its place: a subscription without a serial finds a journal
entry, the text of what is sent is parsed, and where a client disconnects, the serial of the last
message it processed separates what it has processed from what it has not. -/
def KeepsPlace (env : Environment) (s : EventStream) : EventStreamStep → Prop
  | .subscribe => s.requestedSerial = none → s.journal ≠ []
  | .send => ∀ f ∈ s.follower, ∀ e ∈ f.journalEntries.head?, (rpslJournalMessage env e).isOk = true
  | .disconnect => ∀ serial ∈ s.requestedSerial, Separates serial s.received s.underway
  | _ => True

instance (env : Environment) (s : EventStream) : DecidablePred (KeepsPlace env s)
  | .commit _ => .isTrue trivial
  | .subscribe => inferInstanceAs (Decidable (_ → s.journal ≠ []))
  | .poll => .isTrue trivial
  | .send => inferInstanceAs (Decidable (∀ f ∈ s.follower, ∀ e ∈ f.journalEntries.head?, _ = true))
  | .process => .isTrue trivial
  | .disconnect => inferInstanceAs (Decidable (∀ serial ∈ s.requestedSerial, Separates _ _ _))

end EventStream

end Irrd.Server
