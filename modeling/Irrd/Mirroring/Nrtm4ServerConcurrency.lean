import Mathlib.Logic.Function.Basic
import Irrd.Base.LogWindows
import Irrd.Base.Reaches
import Irrd.Mirroring.Nrtm4Server

/-!
# Overlapping runs of the NRTMv4 server

Any number of server runs of one source, each advancing step by step, between transactions
that add journal entries. Each database query sees the commits before it. The status lock
covers a run from reading the status to recording it, and again for recording a snapshot;
the snapshot lock covers the writing of a snapshot. What was delivered in the session is
kept beside the state, for reasoning only: no step reads it.
-/

namespace Irrd.Mirroring

open Irrd.Base Irrd.Storage

/-- A recorded delta, with the source's journal entries it holds. -/
structure DeltaRecord where
  delta : PreviousDelta
  batch : Batch RPSLDatabaseJournal

/-- A recorded snapshot, with the number of the source's journal entries that were committed
when its objects were read. -/
structure SnapshotRecord where
  version : Nat
  objects : List (String × String × String)
  taken : Nat

/-- Everything recorded since the session started. -/
structure SessionHistory where
  initialSerial : Nat
  deltas : List DeltaRecord
  snapshots : List SnapshotRecord

/-- How far a run has come. -/
inductive RunPhase
  | constructed
  | locked
  | statusRead (st : NRTM4ServerDatabaseStatus) (isInitialisation : Bool)
  | deltaAdded (st : NRTM4ServerDatabaseStatus) (added : List DeltaRecord)
  | recorded (st : NRTM4ServerDatabaseStatus)
  | snapshotLocked (st : NRTM4ServerDatabaseStatus) (isInitialisation : Bool)
  | snapshotWritten (st : NRTM4ServerDatabaseStatus) (isInitialisation : Bool)
      (filename : RepositoryFileName) (snapshot : SnapshotRecord)
  | relocked (st : NRTM4ServerDatabaseStatus) (isInitialisation : Bool)
      (filename : RepositoryFileName) (snapshot : SnapshotRecord)

/-- A run that has not ended. -/
structure ActiveRun where
  writer : NRTM4ServerWriter
  input : RunInput
  phase : RunPhase

/-- The shared state, the holders of the two lock files, and the runs. -/
structure ServerSystem where
  repository : Repository
  statusLock : Option Nat
  snapshotLock : Option Nat
  runs : Nat → Option ActiveRun
  session : Option SessionHistory

/-- What can happen next: a transaction commits, files appear or disappear, a run starts, or
a run takes its next step. -/
inductive SystemAction
  | commit (entries : List RPSLDatabaseJournal) (objects : List RPSLDatabaseObject)
  | files (files : List RepositoryFile)
  | construct (run timestamp : Nat) (input : RunInput)
  | advance (run : Nat)

/-- The source's entries of a journal. -/
def NRTM4ServerSettings.sourceEntries (s : NRTM4ServerSettings)
    (journal : List RPSLDatabaseJournal) : List RPSLDatabaseJournal :=
  journal.filter (fun e ↦ e.source = s.source)

/-- The deltas that a status has beyond an earlier one, with their entries. -/
def deltaRecords (s : NRTM4ServerSettings) (journal : List RPSLDatabaseJournal)
    (st st' : NRTM4ServerDatabaseStatus) : List DeltaRecord :=
  (st'.previousDeltas.drop st.previousDeltas.length).map (fun d ↦
    ⟨d, ⟨NRTM4ServerWriter.deltaEntries s journal d.serialGlobalStart,
      (s.sourceEntries journal).length⟩⟩)

/-- The history after deltas are recorded. -/
def SessionHistory.addDeltas (h : SessionHistory) (added : List DeltaRecord) : SessionHistory :=
  { h with deltas := h.deltas ++ added }

/-- The history after a snapshot is recorded; an initialisation starts a new one. -/
def recordSnapshot (session : Option SessionHistory) (isInitialisation : Bool)
    (writer : NRTM4ServerWriter) (snapshot : SnapshotRecord) : Option SessionHistory :=
  if isInitialisation then some ⟨writer.maxSerialGlobal, [], [snapshot]⟩
  else session.map (fun h ↦ { h with snapshots := h.snapshots ++ [snapshot] })

namespace ServerSystem

variable (s : NRTM4ServerSettings) (sys : ServerSystem) (r : Nat) (run : ActiveRun)

/-- The run goes on in another phase. -/
def setPhase (phase : RunPhase) : ServerSystem :=
  { sys with runs := Function.update sys.runs r (some { run with phase }) }

theorem setPhase_runs (phase : RunPhase) (r' : Nat) :
    (sys.setPhase r run phase).runs r' =
      if r' = r then some { run with phase } else sys.runs r' :=
  Function.update_apply ..

/-- The run ends, which closes the lock files it has open. -/
def endRun : ServerSystem :=
  { sys with
    runs := Function.update sys.runs r none
    statusLock := if sys.statusLock = some r then none else sys.statusLock
    snapshotLock := if sys.snapshotLock = some r then none else sys.snapshotLock }

theorem endRun_runs (r' : Nat) :
    (sys.endRun r).runs r' = if r' = r then none else sys.runs r' :=
  Function.update_apply ..

/-- The run ends with an exception while it commits a status. -/
def failCommit (st : NRTM4ServerDatabaseStatus) : ServerSystem :=
  { sys with repository := { sys.repository with
      files := NRTM4ServerWriter.filesAfterFailure run.writer sys.repository.files st } }.endRun r

/-- Decide on a snapshot and take the snapshot lock, or end,
`irrd/mirroring/nrtm4/nrtm4_server.py:175–198`. -/
def beginSnapshot (st : NRTM4ServerDatabaseStatus) (isInitialisation : Bool) : ServerSystem :=
  match NRTM4ServerWriter.shouldCreateSnapshot s run.writer st with
  | .error _ => sys.endRun r
  | .ok false => sys.endRun r
  | .ok true =>
    match sys.snapshotLock with
    | none => { sys with snapshotLock := some r }.setPhase r run
        (.snapshotLocked st isInitialisation)
    | some _ =>
      if isInitialisation then
        match NRTM4ServerWriter.commitStatus s run.writer sys.repository st with
        | .ok (repository, _) => { sys with repository }.endRun r
        | .error _ => sys.failCommit r run st
      else sys.endRun r

/-- The next step of a run; waiting for the status lock is no step. An exception ends the
run. -/
def advance : Option ServerSystem :=
  match run.phase with
  | .constructed =>
    match sys.statusLock with
    | some _ => some (sys.endRun r)
    | none => some ({ sys with statusLock := some r }.setPhase r run .locked)
  | .locked =>
    match NRTM4ServerWriter.startRun sys.repository run.input with
    | none => some (sys.endRun r)
    | some (st, isInitialisation) =>
      some (sys.setPhase r run (.statusRead st isInitialisation))
  | .statusRead st true => some (sys.beginSnapshot s r run st true)
  | .statusRead st false =>
    match NRTM4ServerWriter.addDelta s run.writer sys.repository st run.input with
    | .error _ => some (sys.endRun r)
    | .ok (repository, st') => some ({ sys with repository }.setPhase r run
        (.deltaAdded st' (deltaRecords s sys.repository.journal st st')))
  | .deltaAdded st added =>
    match NRTM4ServerWriter.commitStatus s run.writer sys.repository st with
    | .error _ => some (sys.failCommit r run st)
    | .ok (repository, st') => some ({ sys with
        repository
        statusLock := none
        session := sys.session.map (SessionHistory.addDeltas · added) }.setPhase r run
          (.recorded st'))
  | .recorded st => some (sys.beginSnapshot s r run st false)
  | .snapshotLocked st isInitialisation =>
    match NRTM4ServerWriter.writeSnapshot s run.writer sys.repository st run.input with
    | .error _ => some (sys.endRun r)
    | .ok (repository, filename) =>
      some ({ sys with repository }.setPhase r run (.snapshotWritten st isInitialisation filename {
        version := filename.version
        objects := s.snapshotObjects sys.repository
        taken := (s.sourceEntries sys.repository.journal).length }))
  | .snapshotWritten st true filename snapshot =>
    some (sys.setPhase r run (.relocked st true filename snapshot))
  | .snapshotWritten st false filename snapshot =>
    match sys.statusLock, NRTM4ServerWriter.statusForSnapshot sys.repository st false with
    | some _, _ => none
    | none, .error _ => some (sys.endRun r)
    | none, .ok st' => some ({ sys with statusLock := some r }.setPhase r run
        (.relocked st' false filename snapshot))
  | .relocked st isInitialisation filename snapshot =>
    let st := NRTM4ServerWriter.withSnapshot run.writer st filename run.input
    match NRTM4ServerWriter.commitStatus s run.writer sys.repository st with
    | .error _ => some (sys.failCommit r run st)
    | .ok (repository, _) => some ({ sys with
        repository
        session := recordSnapshot sys.session isInitialisation run.writer snapshot }.endRun r)

/-- One action of the system. -/
def step : SystemAction → Option ServerSystem
  | .commit entries objects =>
    let journal := sys.repository.journal ++ entries
    some { sys with repository := { sys.repository with journal, objects } }
  | .files files => some { sys with repository := { sys.repository with files } }
  | .construct r timestamp input =>
    match sys.runs r with
    | some _ => none
    | none =>
      let run : ActiveRun := ⟨.new sys.repository timestamp, input, .constructed⟩
      some { sys with runs := Function.update sys.runs r (some run) }
  | .advance r =>
    match sys.runs r with
    | some run => sys.advance s r run
    | none => none

end ServerSystem

end Irrd.Mirroring
