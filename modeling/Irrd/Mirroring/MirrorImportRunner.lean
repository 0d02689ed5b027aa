import Irrd.Mirroring.Nrtm4Client
import Irrd.Mirroring.NrtmStreamParser
import Irrd.Mirroring.UpdateFileImport
import Irrd.Storage.Rollback

/-!
# Runs of mirror imports

One update of a mirror: by the NRTMv4 client, by an import of files, or by an NRTMv3 stream. Its
transaction is committed, and where the runner reports a full reload, followers of the event stream
are told. Source: `irrd/mirroring/mirror_runners_import.py`. Every exception is caught in `run`, and
ends it without another commit.
-/

namespace Irrd.Mirroring

open Irrd.Base Irrd.Conf Irrd.Rpki Irrd.Rpsl Irrd.Scopefilter Irrd.Storage Irrd.Updates Irrd.Utils

/-- The setting `import_source`, where a text counts as a list of one. -/
inductive ImportSource
  | unset
  | single (url : String)
  | several (urls : List String)
  deriving DecidableEq

/-- `import_sources`, `irrd/mirroring/mirror_runners_import.py:130–132`. -/
def ImportSource.toList : ImportSource → List String
  | .unset => []
  | .single url => [url]
  | .several urls => urls

/-- The settings of a mirror, next to those that the database handler reads. -/
structure MirrorSettings where
  imports : Parsers.ImportSettings
  nrtm4ClientNotificationFileUrl : Option String
  nrtm4ClientInitialPublicKey : Option String
  importSource : ImportSource
  importSerialSource : Option String

/-- What is sent to Redis at the end of a run. -/
inductive RedisMessage
  | notification (n : Notification)
  | fullReload (source : String)

/-- What a run gets from outside: what the NRTMv4 client does, the lines of the files to import, the
answers to whois queries, and whether Redis accepts a message. -/
structure MirrorRemote where
  nrtm4 : Remote
  retrieveLines : String → Except PyException (List (List Char))
  whoisQuery : String → String → Except PyException (List Char)
  accepts : RedisMessage → Bool

/-- A handler, and whether its transaction has deleted all objects and the journal of the source. -/
structure MirrorTransaction where
  handler : DatabaseHandler
  replaced : Bool

/-- What a run leaves: the tables as they are committed, whether all objects and the journal of the
source were replaced in them, and the sources with a full reload event. -/
structure MirrorRunResult where
  committed : Database
  replaced : Bool
  fullReloadEvents : List String

/-- A statement that fails raises an exception. -/
def orDatabaseError {A : Type} : Option A → Except PyException A
  | some a => .ok a
  | none => .error (.other "SQLAlchemyError")

section Runner

variable (env : Environment) (r : RenderSettings) (s : Settings) (v : ScopeFilterValidator)
  (trie : PrefixItems) (m : MirrorSettings) (o : MirrorRemote)

/-- The source of a mirror. -/
def MirrorSettings.source (m : MirrorSettings) : String := display m.imports.source

/-- The validators of an import, `irrd/mirroring/mirror_runners_import.py:164–166`. -/
def importValidators (h : DatabaseHandler) : ImportValidators where
  scopefilterValidator := v
  roaValidator := if isSet s.roaSource then some (.new s h.working.roas.rows) else none
  trie := trie

/-- One object of a file or snapshot, `irrd/mirroring/parsers.py:73–137,186–193`. -/
def importObject (validators : ImportValidators) (h : DatabaseHandler) (text : List Char) :
    Except PyException DatabaseHandler := do
  let outcome ← orParserError (Parsers.parseObject env m.imports text)
  match outcome with
  | .accepted obj =>
    orDatabaseError (h.upsertRpslObject s (fileObject r s validators obj) .mirror false none none)
  | outcome => return recordOutcome m.imports h (text, outcome)

/-- `MirrorFileImportParser.run_import`, `irrd/mirroring/parsers.py:174–195`. -/
def runImport (validators : ImportValidators) (h : DatabaseHandler) (lines : List (List Char)) :
    Except PyException DatabaseHandler :=
  (paragraphsOfLines true lines).foldlM (importObject env r s m validators) h

/-- The object of an operation in messages. -/
def operationPk (op : Parsers.NRTMOperation) (text : List Char) : List Char :=
  let defaultSource := if op.operation = .delete then some op.source else none
  ((Parsers.parseMirrored env op.strictValidationKeyCert (strip text) defaultSource).toOption.map
    ParsedObject.pk).getD []

/-- What an operation says in messages, `irrd/mirroring/nrtm_operation.py:140–141`. -/
def operationValue : DatabaseOperation → String
  | .addOrUpdate => "ADD"
  | .delete => "DEL"

/-- The query for the ROAs of a route flushes the buffer, `irrd/rpki/validators.py:199–207`. -/
def flushForOrigin (h : DatabaseHandler) (o : RPSLObject) : Option DatabaseHandler :=
  match o.ipPrefix, o.asnFirst with
  | some _, some asn =>
    if isSet s.roaSource ∧ o.isRoute ∧ asn ≠ 0 ∧ (s.source o.source).rpkiExcluded = false then
      h.flushRpslObjectWritingBuffer s
    else some h
  | _, _ => some h

/-- The error for an object of another source, `irrd/mirroring/nrtm_operation.py:96–103`. -/
def wrongSourceMessage (op : Parsers.NRTMOperation) (originIdentifier : String)
    (text found : List Char) : String :=
  s!"Incorrect source in NRTM object: stream has source {m.source}, found object with source " ++
    s!"{display found} in operation {originIdentifier}/{operationValue op.operation}/" ++
    s!"{display (operationPk env op text)}. This operation is ignored, causing potential data " ++
    "inconsistencies."

/-- `NRTMOperation.save`, `irrd/mirroring/nrtm_operation.py:56–138`. -/
def saveOperation (op : Parsers.NRTMOperation) (originIdentifier : String) (serial : Option Nat)
    (h : DatabaseHandler) : Except PyException DatabaseHandler := do
  let text := match op.content with
    | .text text => text
    | .key .. => []
  let outcome ← orParserError (op.save env)
  match outcome with
  | .upsert obj => do
    let written := writtenObject r obj
    let h ← orDatabaseError (flushForOrigin s h written)
    orDatabaseError (h.upsertRpslObject s (withSingleStatuses s v h.working.roas.rows written)
      .mirror false serial none)
  | .delete rpslPk objectClass =>
    orDatabaseError (h.deleteRpslObject s .mirror
      ⟨none, some m.source, some (display rpslPk), some objectClass⟩ serial false)
  | .invalid errors =>
    let message := s!"Parsing errors: {errors}, original object text follows:\n{display text}"
    return h.recordMirrorError m.source message
  | .wrongSource found =>
    return h.recordMirrorError m.source (wrongSourceMessage env m op originIdentifier text found)
  | .unknownClass _ | .filtered | .nothing => return h

/-- `_status`, `irrd/mirroring/mirror_runners_import.py:101–108`. A new handler has nothing to
flush. -/
def mirrorStatus (h : DatabaseHandler) : Option Nat × Bool :=
  match h.working.status.find m.source with
  | some row => (row.serialNewestMirror, row.forceReload)
  | none => (none, false)

/-- The serial of the files to import, `irrd/mirroring/mirror_runners_import.py:144–146`. -/
def retrieveImportSerial : Except PyException (Option Int) :=
  match nonEmpty m.importSerialSource with
  | none => .ok none
  | some url => do
    let contents ← o.nrtm4.retrieveContents url
    match int contents.toList with
    | some serial => return some serial
    | none => .error (.valueError "invalid literal for int() with base 10")

/-- Whether an import is cancelled, `irrd/mirroring/mirror_runners_import.py:148–157`. -/
def isCancelled (serialNewestMirror : Option Nat) (forceReload : Bool) (importSerial : Option Int) :
    Bool :=
  match importSerial, serialNewestMirror with
  | some importSerial, some newest => !forceReload && importSerial ≤ newest
  | _, _ => false

/-- Record the serial of an import, unless it is zero. Serials are not negative. -/
def recordImportSerial (h : DatabaseHandler) (importSerial : Option Int) : DatabaseHandler :=
  match importSerial with
  | some serial => if serial ≠ 0 then h.recordSerialNewestMirror m.source serial.toNat else h
  | none => h

/-- `RPSLMirrorFullImportRunner.run`, `irrd/mirroring/mirror_runners_import.py:124–187`. All files
are retrieved after the old objects are deleted, and before the first one is imported. -/
def runFullImport (serialNewestMirror : Option Nat) (forceReload : Bool) (t : MirrorTransaction) :
    Except PyException MirrorTransaction := do
  if m.importSource.toList = [] then return t
  else
    let importSerial ← retrieveImportSerial m o
    if isCancelled serialNewestMirror forceReload importSerial then return t
    else
      let h ← orDatabaseError (t.handler.deleteAllRpslObjectsWithJournal s m.source false)
      let importData ← m.importSource.toList.mapM o.retrieveLines
      let validators := importValidators s v trie h
      let h ← importData.foldlM (runImport env r s m validators) h.disableJournaling
      return ⟨recordImportSerial m h importSerial, true⟩

/-- The operations of a stream, `irrd/mirroring/parsers.py:447–457`. -/
def streamOperation (op : StreamOperation) : Parsers.NRTMOperation where
  source := m.imports.source
  operation := op.operation
  content := .text op.objectText
  strictValidationKeyCert := m.imports.strictValidationKeyCert
  objectClassFilter := m.imports.objectClassFilter

/-- `NRTMImportUpdateStreamRunner.run`, `irrd/mirroring/mirror_runners_import.py:330–364`. -/
def runUpdateStream (serialNewestMirror : Nat) (t : MirrorTransaction) :
    Except PyException MirrorTransaction :=
  match nonEmpty (s.source m.source).nrtmHost with
  | none => .ok t
  | some host => do
    let response ← o.whoisQuery host s!"-g {m.source}:3:{serialNewestMirror + 1}-LAST"
    match NRTMStreamParser.splitStream m.imports.source response with
    | .error _ => .error (.valueError "invalid NRTM stream")
    | .ok parser =>
      let h := match parser.serialNewestMirror with
        | some serial => t.handler.recordSerialNewestMirror m.source serial
        | none => t.handler
      let h ← parser.operations.foldlM (fun h op ↦ saveOperation env r s v m (streamOperation m op)
        (toString op.serial) (some op.serial.toNat) h) h
      return { t with handler := h }

/-- `run_full_or_nrtm3_import`, `irrd/mirroring/mirror_runners_import.py:79–99`: the transaction,
and whether a full reload is reported. -/
def runFullOrNrtm3Import (t : MirrorTransaction) :
    Except PyException (MirrorTransaction × Bool) := do
  let (serialNewestMirror, forceReload) := mirrorStatus m t.handler
  match forceReload, serialNewestMirror.filter (· ≠ 0), nonEmpty (s.source m.source).nrtmHost with
  | false, some serial, some _ =>
    let t ← runUpdateStream env r s v m o serial t
    return (t, false)
  | _, _, _ =>
    let t ← runFullImport env r s v trie m o serialNewestMirror forceReload t
    return (t, true)

/-- A call that the NRTMv4 client makes on the handler, or on the importer. -/
def performCall (validators : ImportValidators) (t : MirrorTransaction) :
    HandlerCall → Except PyException MirrorTransaction
  | .deleteAllRpslObjectsWithJournal => do
    let h ← orDatabaseError (t.handler.deleteAllRpslObjectsWithJournal s m.source false)
    return ⟨h, true⟩
  | .disableJournaling => .ok { t with handler := t.handler.disableJournaling }
  | .importObject text _ => do
    let h ← importObject env r s m validators t.handler text.toList
    return { t with handler := h }
  | .enableJournaling => .ok { t with handler := t.handler.enableJournaling }
  | .saveOperation op => do
    let h ← saveOperation env r s v m (deltaOperation op) op.originIdentifier none t.handler
    return { t with handler := h }

/-- `NRTM4Client.__init__`. -/
def nrtm4Client (h : DatabaseHandler) : NRTM4Client :=
  let status := NRTM4Client.currentDbStatus (h.working.status.find m.source)
  { source := m.source
    rpkiAware := isSet s.roaSource
    notificationFileUrl := m.nrtm4ClientNotificationFileUrl
    initialPublicKey := m.nrtm4ClientInitialPublicKey
    objectClassFilter := m.imports.objectClassFilter.getD []
    strictImportKeycertObjects := m.imports.strictValidationKeyCert
    forceReload := status.1
    lastStatus := status.2 }

/-- A run of the NRTMv4 client on the handler: the transaction, and whether a full reload is
reported. -/
def runNrtm4Client (t : MirrorTransaction) : Except PyException (MirrorTransaction × Bool) := do
  let run ← (nrtm4Client s m t.handler).runClient { o.nrtm4 with env } false
  let validators := importValidators s v trie t.handler
  let t ← (run.loads.flatMap FileLoad.calls).foldlM (performCall env r s v m validators) t
  return ({ t with handler := t.handler.recordNrtm4ClientStatus m.source run.newStatus },
    run.hasLoadedSnapshot)

/-- What is done before the commit, `irrd/mirroring/mirror_runners_import.py:47–52`. -/
def mirrorImport (t : MirrorTransaction) : Except PyException (MirrorTransaction × Bool) :=
  if (nonEmpty m.nrtm4ClientNotificationFileUrl).isSome then runNrtm4Client env r s v trie m o t
  else runFullOrNrtm3Import env r s v trie m o t

/-- The commit and the event after it, `irrd/mirroring/mirror_runners_import.py:54–58` and
`irrd/storage/database_handler.py:163–189`. Without journaling the transaction is committed before
the route preferences are evaluated. An event needs all messages before it to be accepted. -/
def commitAndPublish (t : MirrorTransaction) (fullReload : Bool) : MirrorRunResult :=
  let finalised := do
    let h ← t.handler.flushRpslObjectWritingBuffer s
    let h ← h.flushRoaWritingBuffer
    return h.finaliseTransaction s
  match finalised with
  | none => ⟨t.handler.committed, false, []⟩
  | some h =>
    let h := if h.journalingEnabled then h else { h with committed := h.working }
    match h.preCommit s with
    | none => ⟨h.committed, !h.journalingEnabled && t.replaced, []⟩
    | some h' =>
      let sent := h'.notifications.all (fun n ↦ o.accepts (.notification n))
      ⟨h'.working, t.replaced,
        if sent && fullReload && o.accepts (.fullReload m.source) then [m.source] else []⟩

/-- `RPSLMirrorImportUpdateRunner.run`, `irrd/mirroring/mirror_runners_import.py:43–77`, on a new
handler. -/
def mirrorRun (h : DatabaseHandler) : MirrorRunResult :=
  match mirrorImport env r s v trie m o ⟨connect h, false⟩ with
  | .error _ => ⟨h.committed, false, []⟩
  | .ok (t, fullReload) => commitAndPublish s m o t fullReload

end Runner

end Irrd.Mirroring
