import Mathlib.Data.List.Sort
import Irrd.Base.Fallible
import Irrd.Mirroring.Nrtm4Types

/-!
# NRTMv4 server

The steps of one server run: read the status, write a delta from the journal, expire old
deltas, publish the Update Notification File, and refresh the snapshot. Source:
`irrd/mirroring/nrtm4/nrtm4_server.py`. Random values and file hashes are inputs.
-/

namespace Irrd.Mirroring

open Irrd.Base Irrd.Storage

/-- The content of a repository file: the objects of a snapshot, or the journal entries of a
delta, in file order. -/
inductive FileContent
  | snapshot (objects : List (String × String × String))
  | delta (entries : List RPSLDatabaseJournal)

/-- A file in the repository directory. -/
structure RepositoryFile where
  name : RepositoryFileName
  modified : Nat
  content : FileContent

/-- The columns of the source's `database_status` row that the server reads and writes. -/
structure ServerStatusRow where
  forceReload : Bool
  nrtm4Server : NRTM4ServerDatabaseStatus
  deriving DecidableEq

/-- What runs of the server share: the status row, the committed journal in order of
`serial_global`, the committed objects, the repository directory, and every Update
Notification File written so far, newest first. -/
structure Repository where
  status : Option ServerStatusRow
  journal : List RPSLDatabaseJournal
  objects : List RPSLDatabaseObject
  files : List RepositoryFile
  published : List NRTM4UpdateNotificationFile

/-- Settings of one source, with the rendering of object texts for export
(`remove_auth_hashes` and `dummify_object_text`). -/
structure NRTM4ServerSettings where
  source : String
  snapshotFrequency : Nat
  nextSigningKey : Option String
  exportText : String → String → String → String

/-- The snapshot frequencies that the configuration check permits,
`irrd/conf/__init__.py:494–504`. -/
def NRTM4ServerSettings.FrequencyPermitted (s : NRTM4ServerSettings) : Prop :=
  60 * 60 * 1000000 ≤ s.snapshotFrequency ∧ s.snapshotFrequency ≤ hours24

/-- Random values of a run and the hashes of the files it writes. -/
structure RunInput where
  sessionId : UUID
  deltaToken : String
  deltaHash : String
  snapshotToken : String
  snapshotHash : String

/-- What `__init__` reads, `irrd/mirroring/nrtm4/nrtm4_server.py:75–90`. -/
structure NRTM4ServerWriter where
  timestamp : Nat
  maxSerialGlobal : Nat

/-- The visible objects of the source, as a snapshot holds them,
`irrd/mirroring/nrtm4/nrtm4_server.py:315–344`. -/
def NRTM4ServerSettings.snapshotObjects (s : NRTM4ServerSettings) (w : Repository) :
    List (String × String × String) :=
  (w.objects.filter (fun o ↦ o.source = s.source ∧ o.isVisible)).map (fun o ↦
    (o.objectClass, o.rpslPk, s.exportText o.objectClass o.rpslPk o.objectText))

/-- Remove a file, which must exist. -/
def unlink (files : List RepositoryFile) (name : RepositoryFileName) :
    Except PyException (List RepositoryFile) :=
  if files.any (fun f ↦ f.name = name) then .ok (files.filter (fun f ↦ f.name ≠ name))
  else .error (.other "FileNotFoundError")

/-- Remove files in order, up to the first that does not exist. -/
def unlinkExisting : List RepositoryFile → List RepositoryFileName → List RepositoryFile
  | files, [] => files
  | files, name :: names =>
    match unlink files name with
    | .ok files => unlinkExisting files names
    | .error _ => files

/-- Write a file, replacing one of the same name. -/
def writeFile (files : List RepositoryFile) (file : RepositoryFile) : List RepositoryFile :=
  file :: files.filter (fun f ↦ f.name ≠ file.name)

namespace NRTM4ServerWriter

variable (s : NRTM4ServerSettings)

/-- `__init__`: the highest global serial of the whole journal, or 0. -/
def new (w : Repository) (timestamp : Nat) : NRTM4ServerWriter :=
  ⟨timestamp, (w.journal.map RPSLDatabaseJournal.serialGlobal).max?.getD 0⟩

/-- `_verify_integrity`, `irrd/mirroring/nrtm4/nrtm4_server.py:396–411`. -/
def verifyIntegrity (files : List RepositoryFile) (st : NRTM4ServerDatabaseStatus) : Bool :=
  (st.previousDeltas.map PreviousDelta.filename ++ st.lastSnapshotFilename.toList).all
    (fun name ↦ files.any (fun f ↦ f.name = name))

/-- The start of `run` after taking the status lock: read the status, and start a new session
where there is none or files are lost, `irrd/mirroring/nrtm4/nrtm4_server.py:116–150`. The
result is the status and whether it is an initialisation, or nothing where the run ends. -/
def startRun (w : Repository) (input : RunInput) : Option (NRTM4ServerDatabaseStatus × Bool) :=
  match w.status with
  | none => none
  | some row =>
    if row.forceReload then none
    else
      let st := row.nrtm4Server
      if st.sessionId.isSome ∧ verifyIntegrity w.files st then some (st, false)
      else some ({ st with
        sessionId := some input.sessionId
        version := some 1
        lastSnapshotVersion := none
        lastSnapshotGlobalSerial := none
        previousDeltas := [] }, true)

/-- The journal query of `_write_delta`: entries of the source from a global serial on, in
order of `serial_nrtm`, `irrd/mirroring/nrtm4/nrtm4_server.py:356–359`. -/
def deltaEntries (journal : List RPSLDatabaseJournal) (serialGlobalStart : Nat) :
    List RPSLDatabaseJournal :=
  (journal.filter (fun e ↦ e.source = s.source ∧ serialGlobalStart ≤ e.serialGlobal)).insertionSort
    (fun a b ↦ a.serialNrtm ≤ b.serialNrtm)

/-- The first global serial of the next delta, `irrd/mirroring/nrtm4/nrtm4_server.py:146–150`. -/
def serialGlobalStart (st : NRTM4ServerDatabaseStatus) : Except PyException Nat :=
  match st.previousDeltas.getLast?, st.lastSnapshotGlobalSerial with
  | some delta, _ => .ok (delta.serialGlobalEnd + 1)
  | none, some serial => .ok (serial + 1)
  | none, none => .error .typeError

/-- The status with a new delta, `irrd/mirroring/nrtm4/nrtm4_server.py:155–166`. -/
def withDelta (st : NRTM4ServerDatabaseStatus) (delta : PreviousDelta) :
    NRTM4ServerDatabaseStatus :=
  { st with version := some delta.version, previousDeltas := st.previousDeltas ++ [delta] }

/-- The metadata of a new delta, `irrd/mirroring/nrtm4/nrtm4_server.py:158–165`. -/
def newDelta (writer : NRTM4ServerWriter) (sessionId : UUID) (version start : Nat)
    (input : RunInput) : PreviousDelta where
  filename := ⟨.delta, sessionId, version, input.deltaToken⟩
  hash := input.deltaHash
  timestamp := writer.timestamp
  version := version
  serialGlobalStart := start
  serialGlobalEnd := writer.maxSerialGlobal

/-- Query the journal, and where it has new entries write a delta and add it to the status,
`irrd/mirroring/nrtm4/nrtm4_server.py:145–173`. -/
def addDelta (writer : NRTM4ServerWriter) (w : Repository) (st : NRTM4ServerDatabaseStatus)
    (input : RunInput) : Except PyException (Repository × NRTM4ServerDatabaseStatus) :=
  match serialGlobalStart st, st.version, st.sessionId with
  | .error e, _, _ => .error e
  | .ok start, some version, some sessionId =>
    let entries := deltaEntries s w.journal start
    let delta := newDelta writer sessionId (version + 1) start input
    if entries = [] then .ok (w, st)
    else .ok ({ w with
        files := writeFile w.files ⟨delta.filename, writer.timestamp, .delta entries⟩ },
      withDelta st delta)
  | .ok _, _, _ => .error .typeError

/-- Whether a delta is older than `NRTM4_SERVER_DELTA_EXPIRY_TIME`. -/
def deltaExpired (timestamp : Nat) (d : PreviousDelta) : Bool :=
  hours24 < timestamp - d.timestamp

/-- `_expire_deltas`, `irrd/mirroring/nrtm4/nrtm4_server.py:268–290`. -/
def expireDeltas (writer : NRTM4ServerWriter) (files : List RepositoryFile)
    (st : NRTM4ServerDatabaseStatus) :
    Except PyException (List RepositoryFile × NRTM4ServerDatabaseStatus) := do
  let expired := st.previousDeltas.filter (deltaExpired writer.timestamp)
  let kept := st.previousDeltas.filter (fun d ↦ !deltaExpired writer.timestamp d)
  let files ← (expired.map PreviousDelta.filename).foldlM unlink files
  return (files.filter (fun f ↦
      f.name.kind ≠ .delta ∨ f.name ∈ kept.map PreviousDelta.filename),
    { st with previousDeltas := kept })

/-- The fields of the Update Notification File for a status,
`irrd/mirroring/nrtm4/nrtm4_server.py:242–259`. -/
def notificationFields (writer : NRTM4ServerWriter) (st : NRTM4ServerDatabaseStatus) :
    NotificationFields where
  nrtmVersion := some 4
  source := some s.source
  sessionId := st.sessionId
  version := st.version
  type := some "notification"
  timestamp := some writer.timestamp
  snapshot := ⟨st.lastSnapshotVersion, st.lastSnapshotFilename.map RepositoryFileName.render,
    st.lastSnapshotHash⟩
  deltas := st.previousDeltas.map (fun d ↦
    ⟨some d.version, some d.filename.render, some d.hash⟩)
  nextSigningKey := s.nextSigningKey

/-- `_write_unf`, `irrd/mirroring/nrtm4/nrtm4_server.py:230–266`. -/
def writeUnf (writer : NRTM4ServerWriter) (st : NRTM4ServerDatabaseStatus) :
    Except PyException NRTM4UpdateNotificationFile :=
  NRTM4UpdateNotificationFile.modelValidate writer.timestamp (fun _ ↦ true) none
    (notificationFields s writer st)

/-- `_expire_snapshots`, `irrd/mirroring/nrtm4/nrtm4_server.py:292–306`. -/
def expireSnapshots (writer : NRTM4ServerWriter) (st : NRTM4ServerDatabaseStatus)
    (files : List RepositoryFile) : List RepositoryFile :=
  files.filter (fun f ↦ ¬ (f.name.kind = .snapshot ∧
    hours24 < writer.timestamp - f.modified ∧ some f.name ≠ st.lastSnapshotFilename))

/-- `_commit_status`, `irrd/mirroring/nrtm4/nrtm4_server.py:221–228`. -/
def commitStatus (writer : NRTM4ServerWriter) (w : Repository)
    (st : NRTM4ServerDatabaseStatus) :
    Except PyException (Repository × NRTM4ServerDatabaseStatus) := do
  let (files, st) ← expireDeltas writer w.files st
  let unf ← writeUnf s writer st
  let st := { st with lastUpdateNotificationFileUpdate := some unf.timestamp }
  return ({ w with
    status := some ⟨false, st⟩
    files := expireSnapshots writer st files
    published := unf :: w.published }, st)

/-- The files that are left where `_commit_status` raises an exception: those that
`_expire_deltas` removed before are gone. -/
def filesAfterFailure (writer : NRTM4ServerWriter) (files : List RepositoryFile)
    (st : NRTM4ServerDatabaseStatus) : List RepositoryFile :=
  match expireDeltas writer files st with
  | .ok (files, _) => files
  | .error _ => unlinkExisting files
      ((st.previousDeltas.filter (deltaExpired writer.timestamp)).map PreviousDelta.filename)

/-- Whether a new snapshot is due, `irrd/mirroring/nrtm4/nrtm4_server.py:175–184`. -/
def shouldCreateSnapshot (writer : NRTM4ServerWriter) (st : NRTM4ServerDatabaseStatus) :
    Except PyException Bool :=
  match st.lastSnapshotVersion.filter (· ≠ 0) with
  | none => .ok true
  | some version =>
    if st.version = some version then .ok false
    else
      match st.lastSnapshotTimestamp with
      | some timestamp => .ok (s.snapshotFrequency < writer.timestamp - timestamp)
      | none => .error .typeError

/-- `_write_snapshot`, `irrd/mirroring/nrtm4/nrtm4_server.py:308–346`: query the visible objects
of the source and write them. -/
def writeSnapshot (writer : NRTM4ServerWriter) (w : Repository)
    (st : NRTM4ServerDatabaseStatus) (input : RunInput) :
    Except PyException (Repository × RepositoryFileName) :=
  match st.sessionId, st.version with
  | some sessionId, some version =>
    let filename : RepositoryFileName := ⟨.snapshot, sessionId, version, input.snapshotToken⟩
    .ok ({ w with
      files := writeFile w.files
        ⟨filename, writer.timestamp, .snapshot (s.snapshotObjects w)⟩ }, filename)
  | _, _ => .error .typeError

/-- The status with a new snapshot, `irrd/mirroring/nrtm4/nrtm4_server.py:206–213`. -/
def withSnapshot (writer : NRTM4ServerWriter) (st : NRTM4ServerDatabaseStatus)
    (filename : RepositoryFileName) (input : RunInput) : NRTM4ServerDatabaseStatus :=
  { st with
    lastSnapshotFilename := some filename
    lastSnapshotVersion := some filename.version
    lastSnapshotGlobalSerial := some writer.maxSerialGlobal
    lastSnapshotTimestamp := some writer.timestamp
    lastSnapshotHash := some input.snapshotHash }

/-- The status that a new snapshot is added to: that of an initialisation, else the row as it
is after the status lock was taken again, `irrd/mirroring/nrtm4/nrtm4_server.py:200–204`. -/
def statusForSnapshot (w : Repository) (st : NRTM4ServerDatabaseStatus)
    (isInitialisation : Bool) : Except PyException NRTM4ServerDatabaseStatus :=
  if isInitialisation then .ok st
  else
    match w.status with
    | some row => .ok row.nrtm4Server
    | none => .error (.other "AttributeError")

/-- The snapshot part of `run`, `irrd/mirroring/nrtm4/nrtm4_server.py:175–219`. -/
def refreshSnapshot (writer : NRTM4ServerWriter) (w : Repository)
    (st : NRTM4ServerDatabaseStatus) (isInitialisation : Bool) (input : RunInput) :
    Except PyException Repository := do
  if ← shouldCreateSnapshot s writer st then
    let (w, filename) ← writeSnapshot s writer w st input
    let st ← statusForSnapshot w st isInitialisation
    let (w, _) ← commitStatus s writer w (withSnapshot writer st filename input)
    return w
  else return w

/-- `run`, `irrd/mirroring/nrtm4/nrtm4_server.py:108–219`, without other runs at the same time. -/
def run (w : Repository) (timestamp : Nat) (input : RunInput) :
    Except PyException Repository :=
  let writer := new w timestamp
  match startRun w input with
  | none => .ok w
  | some (st, true) => refreshSnapshot s writer w st true input
  | some (st, false) => do
    let (w, st) ← addDelta s writer w st input
    let (w, st) ← commitStatus s writer w st
    refreshSnapshot s writer w st false input

end NRTM4ServerWriter

end Irrd.Mirroring
