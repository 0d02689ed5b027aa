import Irrd.Mirroring.ImportParsers
import Irrd.Mirroring.Nrtm4Types

/-!
# NRTMv4 client

One run of the client: retrieve and verify the Update Notification File, choose between a
snapshot and deltas, load the files, and record the new status. Source:
`irrd/mirroring/nrtm4/nrtm4_client.py`. The calls made on the database handler are
collected in order; retrieval, signatures and JSON are supplied by the caller. Objects are parsed
when they are imported, so an exception of the parser ends the run.
-/

namespace Irrd.Mirroring

open Irrd.Base Irrd.Rpsl Irrd.Storage Irrd.Utils

/-- A JSON value, as far as the client tells values apart. -/
inductive JsonValue
  | str (s : String)
  | scalar
  | container
  deriving DecidableEq

/-- One item of a JSON text sequence: an object, which may also be read as the fields of a
header, another JSON value, or text that is not JSON. -/
inductive JsonItem
  | object (fields : List (String × JsonValue)) (header : HeaderFields)
  | other
  | invalid

/-- A retrieved file: the SHA-256 digest of its bytes and its decoded items. -/
structure RetrievedFile where
  digest : List UInt8
  items : List JsonItem

/-- What the client gets from outside: what its parser uses, the clock, retrieval of the
notification file and of the files it refers to, key import, JWS verification and JSON parsing. -/
structure Remote where
  env : Environment
  now : Nat
  retrieveContents : String → Except PyException String
  retrieve : NRTM4FileReference → Except PyException RetrievedFile
  keyValid : String → Bool
  jwsDeserialize : String → String → Except String String
  parseNotification : String → Except PyException NotificationFields

/-- An operation from a delta, `irrd/mirroring/nrtm_operation.py:26–54`. -/
structure NRTMOperation where
  source : String
  operation : DatabaseOperation
  originIdentifier : String
  objectText : String
  rpslPk : String
  objectClass : String
  rpkiAware : Bool
  objectClassFilter : List String
  deriving DecidableEq

/-- An operation of a delta as it is saved, `irrd/mirroring/nrtm4/nrtm4_client.py:388–410`. -/
def deltaOperation (op : NRTMOperation) : Parsers.NRTMOperation where
  source := op.source.toList
  operation := op.operation
  content := if op.objectText = "" then .key op.rpslPk.toList op.objectClass
    else .text op.objectText.toList
  strictValidationKeyCert := false
  objectClassFilter := if op.objectClassFilter = [] then none else some op.objectClassFilter

/-- An exception of the parser, by its class. -/
def parserException : ParserException → PyException
  | .unknownRPSLObjectClass _ => .other "UnknownRPSLObjectClassException"
  | .invalidUrl value => .valueError s!"invalid URL {display value}"
  | .alreadySet value attr => .valueError s!"Parsing of {display value} reads a value for {attr}"
  | .typeError _ => .typeError
  | .attributeError _ => .other "AttributeError"
  | .noSource => .keyError

/-- The result of the parser, or its exception. -/
def orParserError {A : Type} : Except ParserException A → Except PyException A
  | .ok a => .ok a
  | .error e => .error (parserException e)

/-- A call on the database handler or on the importer that writes to it. -/
inductive HandlerCall
  | deleteAllRpslObjectsWithJournal
  | disableJournaling
  | importObject (text : String) (rpkiAware : Bool)
  | enableJournaling
  | saveOperation (operation : NRTMOperation)
  deriving DecidableEq

/-- A file that was loaded, with the handler calls that loading it made. -/
structure FileLoad where
  kind : RepositoryFileKind
  version : Nat
  calls : List HandlerCall
  deriving DecidableEq

/-- `NRTM4Client.__init__`, `irrd/mirroring/nrtm4/nrtm4_client.py:53–58`. -/
structure NRTM4Client where
  source : String
  rpkiAware : Bool
  notificationFileUrl : Option String
  initialPublicKey : Option String
  objectClassFilter : List String
  strictImportKeycertObjects : Bool
  forceReload : Bool
  lastStatus : NRTM4ClientDatabaseStatus

/-- The effect of a successful run: the files loaded, the status recorded, and whether a
full reload has happened. -/
structure ClientRun where
  loads : List FileLoad
  newStatus : NRTM4ClientDatabaseStatus
  hasLoadedSnapshot : Bool
  deriving DecidableEq

/-- `bool(value)` of an optional string. -/
def nonEmpty (s : Option String) : Option String := s.filter (· ≠ "")

section Files

/-- The value of a hexadecimal digit. -/
def hexDigit (c : Char) : Option Nat :=
  if '0' ≤ c ∧ c ≤ '9' then some (c.toNat - '0'.toNat)
  else if 'a' ≤ c ∧ c ≤ 'f' then some (c.toNat - 'a'.toNat + 10)
  else if 'A' ≤ c ∧ c ≤ 'F' then some (c.toNat - 'A'.toNat + 10)
  else none

/-- `bytes.fromhex`: pairs of digits, with ASCII whitespace between pairs skipped. -/
def bytesFromhex : List Char → Option (List UInt8)
  | [] => some []
  | [c] => if c.isWhitespace then some [] else none
  | c :: d :: cs =>
    if c.isWhitespace then bytesFromhex (d :: cs)
    else
      match hexDigit c, hexDigit d, bytesFromhex cs with
      | some hi, some lo, some rest => some (UInt8.ofNat (16 * hi + lo) :: rest)
      | _, _, _ => none

/-- `check_file_hash_sha256`, `irrd/mirroring/retrieval.py:136–149`. -/
def checkFileHashSha256 (digest : List UInt8) (expectedHash : String) :
    Except PyException Unit :=
  if expectedHash = "" then .ok ()
  else
    match bytesFromhex expectedHash.toList with
    | none => .error (.valueError "non-hexadecimal number found in fromhex() arg")
    | some expected =>
      if digest = expected then .ok ()
      else .error (.valueError s!"Invalid hash: expected {expectedHash}")

/-- `retrieve_file` with an expected hash, `irrd/mirroring/retrieval.py:23–80`, followed by
`jsonseq_decode` of the result. -/
def retrieveFile (r : Remote) (ref : NRTM4FileReference) : Except PyException (List JsonItem) := do
  let file ← r.retrieve ref
  checkFileHashSha256 file.digest ref.hash
  return file.items

/-- `item[name]`. -/
def JsonItem.getItem (item : JsonItem) (name : String) : Except PyException JsonValue :=
  match item with
  | .object fields _ =>
    match fields.lookup name with
    | some v => .ok v
    | none => .error .keyError
  | .other => .error .typeError
  | .invalid => .error (.valueError "invalid JSON")

/-- Use a JSON value as a string, which only strings support. -/
def JsonValue.asString : JsonValue → Except PyException String
  | .str s => .ok s
  | .scalar => .error (.other "AttributeError")
  | .container => .error (.other "AttributeError")

/-- Read the first item as a header of the given type and version. -/
def JsonItem.validateHeader (item : JsonItem) (type source : String) (sessionId : UUID)
    (version : Nat) : Except PyException NRTM4Header :=
  match item with
  | .object _ header => header.validate type source sessionId version
  | .other => .error (.validationError "Input should be a valid dictionary")
  | .invalid => .error (.valueError "invalid JSON")

end Files

namespace NRTM4Client

variable (c : NRTM4Client) (r : Remote)

/-- `_current_db_status`, `irrd/mirroring/nrtm4/nrtm4_client.py:199–218`. -/
def currentDbStatus : Option RPSLDatabaseStatus → Bool × NRTM4ClientDatabaseStatus
  | some status => (status.forceReload, status.nrtm4Client)
  | none => (false, ⟨none, none, none, none, none⟩)

/-- The keys that may sign the notification file, in the order they are tried. -/
def signingKeys : List String :=
  if (nonEmpty c.lastStatus.currentKey).isSome then
    [c.lastStatus.currentKey, c.lastStatus.nextKey].filterMap nonEmpty
  else [c.initialPublicKey].filterMap nonEmpty

/-- Try the keys in order; the first that verifies the signature gives the payload. -/
def tryKeys (content : String) : List String → Except PyException (Option (String × String))
  | [] => .ok none
  | key :: keys =>
    if r.keyValid key then
      match r.jwsDeserialize content key with
      | .ok payload => .ok (some (payload, key))
      | .error _ => tryKeys content keys
    else .error (.valueError "invalid key")

/-- `_deserialize_unf`, `irrd/mirroring/nrtm4/nrtm4_client.py:141–197`. -/
def deserializeUnf (content : String) : Except PyException (String × String) := do
  match ← tryKeys r content c.signingKeys with
  | some verified => .ok verified
  | none =>
    if (nonEmpty c.lastStatus.currentKey).isSome ∧ c.initialPublicKey.any (fun k ↦
        r.keyValid k && (r.jwsDeserialize content k).toOption.isSome) then
      .error (.nrtm4ClientError (s!"{c.source}: No valid signature found for the Update " ++
        "Notification File. The signature is valid for the public key set in the " ++
        "nrtm4_client_initial_public_key setting, but that is only used for initial validation."))
    else .error (.nrtm4ClientError s!"{c.source}: No valid signature found for any known keys")

/-- `_retrieve_unf`, `irrd/mirroring/nrtm4/nrtm4_client.py:119–139`. -/
def retrieveUnf : Except PyException (NRTM4UpdateNotificationFile × String) := do
  match nonEmpty c.notificationFileUrl with
  | none => .error (.runtimeError
      "NRTM4 client called for a source without a Update Notification File URL")
  | some url =>
    let content ← r.retrieveContents url
    let (payload, usedKey) ← c.deserializeUnf r content
    let fields ← r.parseNotification payload
    let unf ← NRTM4UpdateNotificationFile.modelValidate r.now r.keyValid (some c.source) fields
    return (unf, usedKey)

/-- The part of `_find_next_version` that compares a version with the file,
`irrd/mirroring/nrtm4/nrtm4_client.py:245–260`. -/
def nextVersionAfter (unf : NRTM4UpdateNotificationFile) (lastVersion : Nat) :
    Except PyException (Option Nat) :=
  if lastVersion > unf.version then
    .error (.nrtm4ClientError (s!"Update Notification File {c.source}/{unf.sessionId} has " ++
      s!"matching session ID, but version {unf.version} is older than local version {lastVersion}"))
  else
    match unf.minDeltaVersion with
    | some minDeltaVersion =>
      if minDeltaVersion ≠ 0 ∧ minDeltaVersion > lastVersion + 1 then .ok none
      else .ok (some (lastVersion + 1))
    | none => .ok (some (lastVersion + 1))

/-- `_find_next_version`, `irrd/mirroring/nrtm4/nrtm4_client.py:220–260`. -/
def findNextVersion (unf : NRTM4UpdateNotificationFile) (lastVersion : Option Nat) :
    Except PyException (Option Nat) :=
  match lastVersion.filter (· ≠ 0) with
  | some v => c.nextVersionAfter unf v
  | none =>
    if c.forceReload then .ok none
    else
      match c.lastStatus.sessionId, c.lastStatus.version.filter (· ≠ 0) with
      | some sessionId, some v =>
        if unf.sessionId ≠ sessionId then .ok none else c.nextVersionAfter unf v
      | _, _ => .ok none

/-- The key of a snapshot in the remembered file hashes. -/
def snapshotReference (version : Nat) : String := "snapshot-" ++ toString version

/-- The key of a delta in the remembered file hashes. -/
def deltaReference (version : Nat) : String := "delta-" ++ toString version

/-- The files of a notification file, as remembered for the history check,
`irrd/mirroring/nrtm4/nrtm4_client.py:269–271`. -/
def currentFiles (unf : NRTM4UpdateNotificationFile) : List (String × List String) :=
  (snapshotReference unf.snapshot.version, [unf.snapshot.url, unf.snapshot.hash]) ::
    unf.deltas.map (fun d ↦ (deltaReference d.version, [d.url, d.hash]))

/-- `_validate_aggregate_previous_file_hashes_from_unf`,
`irrd/mirroring/nrtm4/nrtm4_client.py:262–286`. -/
def validateAggregatePreviousFileHashesFromUnf (unf : NRTM4UpdateNotificationFile) :
    Except PyException (List (String × List String)) :=
  let files := currentFiles unf
  let previous := c.lastStatus.previousFileHashes.getD []
  match files.find? (fun f ↦ (previous.lookup f.1).any (· ≠ f.2)) with
  | some f => .error (.nrtm4ClientError
    (s!"{c.source}: Reference {f.1} has a different filename " ++
      "or hash in a previous Update Notification File. Server is rewriting history."))
  | none => .ok files

/-- The settings of the importer of a snapshot. -/
def importSettings : Parsers.ImportSettings where
  source := c.source.toList
  directErrorReturn := false
  strictValidationKeyCert := c.strictImportKeycertObjects
  objectClassFilter := if c.objectClassFilter = [] then none else some c.objectClassFilter

/-- The import of one snapshot item, `irrd/mirroring/nrtm4/nrtm4_client.py:323–326`. -/
def importItem (item : JsonItem) : Except PyException HandlerCall := do
  let value ← item.getItem "object"
  let text ← value.asString
  let _ ← orParserError (Parsers.parseObject r.env c.importSettings text.toList)
  return .importObject text c.rpkiAware

/-- `_load_snapshot`, `irrd/mirroring/nrtm4/nrtm4_client.py:288–336`. -/
def loadSnapshot (unf : NRTM4UpdateNotificationFile) : Except PyException FileLoad := do
  match ← retrieveFile r unf.snapshot with
  | [] => .error .stopIteration
  | header :: items =>
    let _ ← header.validateHeader "snapshot" c.source unf.sessionId unf.snapshot.version
    let imports ← items.mapM (c.importItem r)
    return {
      kind := .snapshot
      version := unf.snapshot.version
      calls := [.deleteAllRpslObjectsWithJournal, .disableJournaling] ++ imports ++
        [.enableJournaling] }

/-- `NRTM4_OPERATION_MAPPING`, `irrd/mirroring/nrtm4/nrtm4_client.py:35–38`. -/
def operationMapping : JsonValue → Except PyException DatabaseOperation
  | .str s =>
    if s = "add_modify" then .ok .addOrUpdate
    else if s = "delete" then .ok .delete
    else .error .keyError
  | .scalar => .error .keyError
  | .container => .error .typeError

/-- The operation that a delta item describes, with the check of its constructor,
`irrd/mirroring/nrtm4/nrtm4_client.py:382–412` and `irrd/mirroring/nrtm_operation.py:51–54`. -/
def deltaItemOperation (header : NRTM4Header) (item : JsonItem) :
    Except PyException NRTMOperation := do
  let action ← item.getItem "action"
  let operation ← operationMapping action
  let base : NRTMOperation := {
    source := c.source
    operation
    originIdentifier := s!"{header.sessionId}/D{header.version}"
    objectText := ""
    rpslPk := ""
    objectClass := ""
    rpkiAware := c.rpkiAware
    objectClassFilter := c.objectClassFilter }
  match operation with
  | .addOrUpdate =>
    let value ← item.getItem "object"
    let objectText ← value.asString
    if objectText = "" then
      .error (.runtimeError "Operation must have object text or pk/class")
    else return { base with objectText }
  | .delete =>
    let pkValue ← item.getItem "primary_key"
    let rpslPk ← pkValue.asString
    let classValue ← item.getItem "object_class"
    let objectClass ← classValue.asString
    if rpslPk = "" ∨ objectClass = "" then
      .error (.runtimeError "Operation must have object text or pk/class")
    else return { base with rpslPk := upper rpslPk, objectClass := objectClass.toLower }

/-- The operation of a delta item, after its `save` has parsed the object. -/
def saveDeltaItem (header : NRTM4Header) (item : JsonItem) : Except PyException HandlerCall := do
  let operation ← c.deltaItemOperation header item
  let _ ← orParserError ((deltaOperation operation).save r.env)
  return .saveOperation operation

/-- `_process_delta_item`, `irrd/mirroring/nrtm4/nrtm4_client.py:382–412`. -/
def processDeltaItem (header : NRTM4Header) (item : JsonItem) :
    Except PyException HandlerCall :=
  match c.saveDeltaItem r header item with
  | .ok call => .ok call
  | .error .keyError => .error (.nrtm4ClientError
      s!"Delta file {c.source}/{header.sessionId}/{header.version} contained invalid entry")
  | .error e => .error e

/-- Load one delta file, `irrd/mirroring/nrtm4/nrtm4_client.py:346–380`. -/
def loadDelta (unf : NRTM4UpdateNotificationFile) (delta : NRTM4FileReference) :
    Except PyException FileLoad := do
  match ← retrieveFile r delta with
  | [] => .error .stopIteration
  | headerItem :: items =>
    let header ← headerItem.validateHeader "delta" c.source unf.sessionId delta.version
    let calls ← items.mapM (c.processDeltaItem r header)
    if calls = [] then
      .error (.nrtm4ClientError
        (s!"Delta file {c.source}/{unf.sessionId}/{delta.version} did not " ++
        "contain any entries."))
    else return { kind := .delta, version := delta.version, calls }

/-- `_load_deltas`, `irrd/mirroring/nrtm4/nrtm4_client.py:338–380`. -/
def loadDeltas (unf : NRTM4UpdateNotificationFile) (nextVersion : Nat) :
    Except PyException (List FileLoad) :=
  (unf.deltas.filter (fun d ↦ nextVersion ≤ d.version)).mapM (c.loadDelta r unf)

/-- The branch of `_run_client` that loads deltas, or decides that there is nothing to load,
`irrd/mirroring/nrtm4/nrtm4_client.py:85–95`. Comparing the absent version of a second
snapshot decision with a number is a `TypeError`. -/
def updateFromDeltas (unf : NRTM4UpdateNotificationFile) (nextDeltaVersion : Option Nat) :
    Except PyException (List FileLoad) :=
  match unf.maxDeltaVersion.filter (· ≠ 0), nextDeltaVersion with
  | some _, none => .error .typeError
  | some maxDeltaVersion, some next =>
    if next ≤ maxDeltaVersion then c.loadDeltas r unf next else .ok []
  | none, _ => .ok []

/-- The end of `_run_client`, `irrd/mirroring/nrtm4/nrtm4_client.py:97–114`. -/
def recordRun (unf : NRTM4UpdateNotificationFile) (usedKey : String) (hasLoadedSnapshot
    deltasDeferred : Bool) (loads : List FileLoad) : Except PyException ClientRun := do
  let previousFileHashes ← c.validateAggregatePreviousFileHashesFromUnf unf
  return {
    loads
    hasLoadedSnapshot
    newStatus := {
      sessionId := some unf.sessionId
      version := some (if deltasDeferred then unf.snapshot.version else unf.version)
      currentKey := some usedKey
      nextKey := unf.nextSigningKey
      previousFileHashes := some previousFileHashes } }

/-- `_run_client` after the notification file is retrieved,
`irrd/mirroring/nrtm4/nrtm4_client.py:79–114`. -/
def processUnf (forceLoadDelta : Bool) (unf : NRTM4UpdateNotificationFile) (usedKey : String) :
    Except PyException ClientRun := do
  match ← c.findNextVersion unf none with
  | some next =>
    let deltas ← c.updateFromDeltas r unf (some next)
    c.recordRun unf usedKey false false deltas
  | none =>
    let snapshot ← c.loadSnapshot r unf
    let next ← c.findNextVersion unf (some unf.snapshot.version)
    if forceLoadDelta then
      let deltas ← c.updateFromDeltas r unf next
      c.recordRun unf usedKey true false (snapshot :: deltas)
    else c.recordRun unf usedKey true true [snapshot]

/-- `_run_client`, `irrd/mirroring/nrtm4/nrtm4_client.py:75–114`. -/
def runClientInner (forceLoadDelta : Bool) : Except PyException ClientRun := do
  let (unf, usedKey) ← c.retrieveUnf r
  c.processUnf r forceLoadDelta unf usedKey

/-- `run_client`, `irrd/mirroring/nrtm4/nrtm4_client.py:59–73`. -/
def runClient (forceLoadDelta : Bool) : Except PyException ClientRun :=
  match c.runClientInner r forceLoadDelta with
  | .ok run => .ok run
  | .error (.validationError msg) => .error (.nrtm4ClientError msg)
  | .error (.valueError msg) => .error (.nrtm4ClientError msg)
  | .error e => .error e

end NRTM4Client

end Irrd.Mirroring
