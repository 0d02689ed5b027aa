import Irrd.Base.KeyedTable
import Irrd.Storage.Status
import Irrd.Utils.IP

/-!
# Database tables

The rows of the tables the database handler reads and writes, and the tables as lists of
rows with their unique constraints. Points in time are in microseconds. Source:
`irrd/storage/models.py`.
-/

namespace Irrd.Storage

open Irrd.Base Irrd.Utils

/-- A session identifier. -/
abbrev UUID := Nat

/-- `irrd/storage/models.py:19–21`. -/
inductive DatabaseOperation
  | addOrUpdate
  | delete
  deriving DecidableEq

/-- `irrd/storage/models.py:24–42`. -/
inductive JournalEntryOrigin
  | unknown
  | mirror
  | syntheticNrtm
  | pseudoIrr
  | authChange
  | rpkiStatus
  | scopeFilter
  | suspension
  | routePreference
  deriving DecidableEq

/-- `irrd/storage/models.py:52–58`. -/
structure NRTM4ClientDatabaseStatus where
  sessionId : Option UUID
  version : Option Nat
  currentKey : Option String
  nextKey : Option String
  previousFileHashes : Option (List (String × List String))
  deriving DecidableEq

/-- The two kinds of files in an NRTMv4 repository next to the notification file. -/
inductive RepositoryFileKind
  | snapshot
  | delta
  deriving DecidableEq

/-- The name of a snapshot or delta file, by the parts it is composed of,
`irrd/mirroring/nrtm4/nrtm4_server.py:314,355`. -/
structure RepositoryFileName where
  kind : RepositoryFileKind
  sessionId : UUID
  version : Nat
  token : String
  deriving DecidableEq

/-- The name in the repository directory. -/
def RepositoryFileName.render (name : RepositoryFileName) : String :=
  match name.kind with
  | .snapshot => s!"nrtm-snapshot.{name.sessionId}.{name.version}.{name.token}.json.gz"
  | .delta => s!"nrtm-delta.{name.sessionId}.{name.version}.{name.token}.json.gz"

/-- One element of `previous_deltas`, `irrd/mirroring/nrtm4/nrtm4_server.py:158–165`. -/
structure PreviousDelta where
  filename : RepositoryFileName
  hash : String
  timestamp : Nat
  version : Nat
  serialGlobalStart : Nat
  serialGlobalEnd : Nat
  deriving DecidableEq

/-- `irrd/storage/models.py:61–85`. -/
structure NRTM4ServerDatabaseStatus where
  sessionId : Option UUID
  version : Option Nat
  lastUpdateNotificationFileUpdate : Option Nat
  lastSnapshotVersion : Option Nat
  lastSnapshotGlobalSerial : Option Nat
  lastSnapshotFilename : Option RepositoryFileName
  lastSnapshotTimestamp : Option Nat
  lastSnapshotHash : Option String
  previousDeltas : List PreviousDelta
  deriving DecidableEq

/-- Columns of `rpsl_objects` that a write sets, `irrd/storage/models.py:108–153`. -/
structure ObjectColumns where
  rpslPk : String
  source : String
  objectClass : String
  parsedData : List (String × List String)
  objectText : String
  ipVersion : Option Nat
  ipFirst : Option IP
  ipLast : Option IP
  ipSize : Option Nat
  prefixLength : Option Nat
  ipPrefix : Option IP
  asnFirst : Option Nat
  asnLast : Option Nat
  rpkiStatus : RPKIStatus
  scopefilterStatus : ScopeFilterStatus
  routePreferenceStatus : RoutePreferenceStatus
  updated : Nat
  deriving DecidableEq

/-- The composite unique key of an object, `irrd/storage/models.py:160–162`. -/
structure ObjectKey where
  rpslPk : String
  source : String
  objectClass : String
  deriving DecidableEq

/-- The composite key of these columns. -/
def ObjectColumns.key (o : ObjectColumns) : ObjectKey := ⟨o.rpslPk, o.source, o.objectClass⟩

/-- Whether queries and mirrors may see an object with these statuses. -/
def ObjectColumns.isVisible (o : ObjectColumns) : Bool :=
  objectIsVisible o.rpkiStatus o.scopefilterStatus o.routePreferenceStatus

/-- A row of `rpsl_objects`, `irrd/storage/models.py:108–176`. -/
structure RPSLDatabaseObject extends ObjectColumns where
  pk : Nat
  created : Nat
  deriving DecidableEq

/-- The composite key of a row. -/
def RPSLDatabaseObject.key (o : RPSLDatabaseObject) : ObjectKey := o.toObjectColumns.key

/-- Whether queries and mirrors may see the row. -/
def RPSLDatabaseObject.isVisible (o : RPSLDatabaseObject) : Bool := o.toObjectColumns.isVisible

/-- A row of `rpsl_database_journal`, `irrd/storage/models.py:182–232`. -/
structure RPSLDatabaseJournal where
  serialGlobal : Nat
  rpslPk : String
  source : String
  origin : JournalEntryOrigin
  serialNrtm : Nat
  operation : DatabaseOperation
  objectClass : String
  objectText : String
  timestamp : Nat
  deriving DecidableEq

/-- The unique key of a journal entry, `irrd/storage/models.py:229–231`. -/
def RPSLDatabaseJournal.key (e : RPSLDatabaseJournal) : String × Nat := (e.source, e.serialNrtm)

/-- A row of `rpsl_objects_suspended`, `irrd/storage/models.py:238–255`. -/
structure RPSLDatabaseObjectSuspended where
  pk : Nat
  rpslPk : String
  source : String
  objectClass : String
  objectText : String
  mntners : List String
  timestamp : Nat
  originalCreated : Nat
  originalUpdated : Nat
  deriving DecidableEq

/-- A row of `database_status`, `irrd/storage/models.py:261–311`. -/
structure RPSLDatabaseStatus where
  source : String
  serialOldestSeen : Option Nat
  serialNewestSeen : Option Nat
  serialOldestJournal : Option Nat
  serialNewestJournal : Option Nat
  serialLastExport : Option Nat
  serialNewestMirror : Option Nat
  nrtm4Client : NRTM4ClientDatabaseStatus
  nrtm4Server : NRTM4ServerDatabaseStatus
  forceReload : Bool
  synchronisedSerials : Bool
  lastError : Option String
  lastErrorTimestamp : Option Nat
  rpslDataUpdated : Nat
  deriving DecidableEq

/-- A row of `roa_object`, `irrd/storage/models.py:317–342`. -/
structure ROADatabaseObject where
  ipPrefix : IP
  asn : Nat
  maxLength : Nat
  trustAnchor : Option String
  ipVersion : Nat
  deriving DecidableEq

/-- The unique key of a ROA row, `irrd/storage/models.py:337–339`. Null values are not compared. -/
def ROADatabaseObject.key (r : ROADatabaseObject) : Option (IP × Nat × Nat × String) :=
  r.trustAnchor.map (fun trustAnchor ↦ (r.ipPrefix, r.asn, r.maxLength, trustAnchor))

/-- A row of `protected_rpsl_name`, `irrd/storage/models.py:348–366`. -/
structure ProtectedRPSLName where
  rpslPk : String
  source : String
  objectClass : String
  protectedName : String
  deriving DecidableEq

/-- `rpsl_objects` with its composite unique constraint. -/
abbrev ObjectTable := KeyedTable RPSLDatabaseObject.key

/-- `rpsl_database_journal` with its unique constraint. -/
abbrev JournalTable := KeyedTable RPSLDatabaseJournal.key

/-- `database_status` with its unique source. -/
abbrev StatusTable := KeyedTable RPSLDatabaseStatus.source

/-- `roa_object` with its unique constraint. -/
structure ROATable where
  rows : List ROADatabaseObject
  nodup : (rows.filterMap ROADatabaseObject.key).Nodup

namespace ROATable

/-- The table without rows. -/
def empty : ROATable := ⟨[], List.nodup_nil⟩

/-- Add a row at the end, unless its key is taken. -/
def append (t : ROATable) (r : ROADatabaseObject) : Option ROATable :=
  if hnodup : ((t.rows ++ [r]).filterMap ROADatabaseObject.key).Nodup then
    some ⟨_, hnodup⟩
  else none

theorem append_eq_some {t t' : ROATable} {r : ROADatabaseObject} (h : t.append r = some t') :
    t'.rows = t.rows ++ [r] := by
  unfold append at h
  split at h <;> cases h
  rfl

theorem foldlM_append_rows {rows : List ROADatabaseObject} {t t' : ROATable}
    (h : rows.foldlM append t = some t') : t'.rows = t.rows ++ rows := by
  induction rows generalizing t with
  | nil =>
    cases h
    exact (List.append_nil _).symm
  | cons r rows ih =>
    rw [List.foldlM_cons] at h
    obtain ⟨t₁, hfirst, hrest⟩ := Option.bind_eq_some_iff.mp h
    rw [ih hrest, append_eq_some hfirst, List.append_assoc, List.singleton_append]

/-- Rows are added if and only if no key is there twice. -/
theorem foldlM_append_iff (rows : List ROADatabaseObject) (t : ROATable) :
    (∃ t', rows.foldlM append t = some t') ↔
      ((t.rows ++ rows).filterMap ROADatabaseObject.key).Nodup := by
  refine ⟨fun ⟨t', h⟩ ↦ foldlM_append_rows h ▸ t'.nodup, fun hnodup ↦ ?_⟩
  induction rows generalizing t with
  | nil => exact ⟨t, rfl⟩
  | cons r rows ih =>
    rw [List.append_cons] at hnodup
    let t₁ : ROATable := ⟨t.rows ++ [r],
      ((List.sublist_append_left _ _).filterMap _).nodup hnodup⟩
    have hfirst : t.append r = some t₁ := dif_pos _
    obtain ⟨t', hrest⟩ := ih t₁ hnodup
    exact ⟨t', by rw [List.foldlM_cons, hfirst]; exact hrest⟩

end ROATable

/-- Journal entries of one source, in the order of their insertion. -/
def JournalTable.ofSource (t : JournalTable) (source : String) : List RPSLDatabaseJournal :=
  t.rows.filter (fun e ↦ e.source = source)

/-- Serials of one source's journal entries, in the order of their insertion. -/
def JournalTable.serials (t : JournalTable) (source : String) : List Nat :=
  (t.ofSource source).map RPSLDatabaseJournal.serialNrtm

/-- The unique constraint of the journal. -/
theorem nodup_serials (t : JournalTable) (source : String) : (t.serials source).Nodup := by
  rw [JournalTable.serials, List.Nodup, List.pairwise_map]
  have hrows : t.rows.Pairwise (fun e e' ↦ e.key ≠ e'.key) := List.pairwise_map.mp t.nodup
  refine (hrows.filter (fun e ↦ e.source = source)).imp_of_mem (fun he he' hkey hserial ↦ hkey ?_)
  have hsource := of_decide_eq_true (List.mem_filter.mp he).2
  have hsource' := of_decide_eq_true (List.mem_filter.mp he').2
  exact Prod.ext (hsource.trans hsource'.symm) hserial

end Irrd.Storage
