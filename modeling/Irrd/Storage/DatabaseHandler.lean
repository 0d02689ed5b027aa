import Mathlib.Logic.Function.Basic
import Irrd.Base.CopiedRows
import Irrd.Conf.Settings
import Irrd.Routepref.RoutePreference
import Irrd.Rpsl.RPSLObject

/-!
# Database handler

All writes go through a handler, which buffers upserts, writes the journal and keeps the
status columns. Source: `irrd/storage/database_handler.py`. A statement that violates a
constraint has no result. Python sets and dictionaries are lists and functions, iterated in
the order of insertion.
-/

namespace Irrd.Storage

open Irrd.Base Irrd.Conf Irrd.Routepref Irrd.Rpsl Irrd.Utils

/-- The tables that a handler writes. -/
structure Database where
  objects : ObjectTable
  journal : JournalTable
  status : StatusTable
  suspended : List RPSLDatabaseObjectSuspended
  roas : ROATable
  protectedNames : List ProtectedRPSLName

/-- `DatabaseStatusTracker`, `irrd/storage/database_handler.py:936–1265`. -/
structure DatabaseStatusTracker where
  newSerialsPerSource : String → List Nat
  sourcesSeen : List String
  sourcesRpslDataUpdated : List String
  newestMirrorSerials : String → Option Nat
  mirroringError : String → Option String
  exportedSerials : String → Option Nat
  nrtm4ClientStatus : String → Option NRTM4ClientDatabaseStatus
  nrtm4ServerStatus : String → Option NRTM4ServerDatabaseStatus
  synchronisedCache : String → Option Bool

/-- `reset`, `irrd/storage/database_handler.py:1255–1265`. -/
def DatabaseStatusTracker.reset : DatabaseStatusTracker where
  newSerialsPerSource _ := []
  sourcesSeen := []
  sourcesRpslDataUpdated := []
  newestMirrorSerials _ := none
  mirroringError _ := none
  exportedSerials _ := none
  nrtm4ClientStatus _ := none
  nrtm4ServerStatus _ := none
  synchronisedCache _ := none

/-- A changed prefix: that of an object, or the text of a column. They never compare equal. -/
inductive ChangedPrefix
  | ofObject (network : IP)
  | ofColumn (network : IP)
  deriving DecidableEq

/-- The network of a changed prefix. -/
def ChangedPrefix.network : ChangedPrefix → IP
  | .ofObject network => network
  | .ofColumn network => network

/-- `SessionChangedObjectsTracker`, `irrd/storage/database_handler.py:1268–1335`. -/
structure SessionChangedObjectsTracker where
  objectClasses : List String
  prefixesForRoutepref : List ChangedPrefix

/-- The list of prefixes that the route preference is evaluated for. -/
def SessionChangedObjectsTracker.filterPrefixes (t : SessionChangedObjectsTracker) : List IP :=
  t.prefixesForRoutepref.map ChangedPrefix.network

/-- An entry of the upsert buffer: the columns to write, with a forced creation time, the
origin of the change and the serial at its NRTM source. -/
structure BufferedUpsert where
  columns : ObjectColumns
  created : Option Nat
  origin : JournalEntryOrigin
  sourceSerial : Option Nat
  deriving DecidableEq

/-- The arguments of `insert_roa_object`, in the order of the columns. -/
structure ROAInsert where
  ipVersion : Nat
  prefixStr : String
  asn : Nat
  maxLength : Nat
  trustAnchor : String

/-- The columns of a ROA as text. -/
def ROAInsert.columns (r : ROAInsert) : List (List Char) :=
  [toString r.ipVersion, r.prefixStr, toString r.asn, toString r.maxLength, r.trustAnchor].map
    String.toList

/-- How PostgreSQL reads the columns `ip_version`, `prefix`, `asn` and `max_length` from text. -/
abbrev ROAColumnInput := Option (List Char) → Option (List Char) → Option (List Char) →
  Option (List Char) → Option (Nat × IP × Nat × Nat)

/-- The row that these values give. -/
def ROAColumnInput.row (input : ROAColumnInput) :
    List (Option (List Char)) → Option ROADatabaseObject
  | [ipVersion, prefixStr, asn, maxLength, trustAnchor] =>
    (input ipVersion prefixStr asn maxLength).map (fun (ipVersion, ipPrefix, asn, maxLength) ↦
      ⟨ipPrefix, asn, maxLength, trustAnchor.map String.ofList, ipVersion⟩)
  | _ => none

/-- `DatabaseHandler`, `irrd/storage/database_handler.py:78–128`, with the tables as they were
last committed and as its transaction sees them, how its database reads the columns of ROAs, the
clock, the generators of row keys and global serials, and every journal entry that was ever
written. No operation reads the latter. -/
structure DatabaseHandler where
  committed : Database
  working : Database
  journalingEnabled : Bool
  rpslPkSourceSeen : List String
  rpslUpsertBuffer : List BufferedUpsert
  roaInsertBuffer : List ROAInsert
  roaColumnInput : ROAColumnInput
  rpslGuaranteedNoExisting : Bool
  statusTracker : DatabaseStatusTracker
  changedObjectsTracker : SessionChangedObjectsTracker
  now : Nat
  nextPk : Nat
  nextSerialGlobal : Nat
  written : List RPSLDatabaseJournal

/-- The arguments of `record_operation`. -/
structure Operation where
  operation : DatabaseOperation
  rpslPk : String
  source : String
  objectClass : String
  objectText : String
  origin : JournalEntryOrigin
  sourceSerial : Option Nat
  deriving DecidableEq

/-- The keys that status updates read from an object dict. -/
structure RPSLObjectDict where
  pk : Nat
  rpslPk : String
  source : String
  objectClass : String
  objectText : String
  ipPrefix : Option IP
  rpkiStatus : RPKIStatus
  scopefilterStatus : ScopeFilterStatus
  routePreferenceStatus : RoutePreferenceStatus
  deriving DecidableEq

/-- An object dict that also has its status before the change. -/
structure ChangedObjectDict (Status : Type) extends RPSLObjectDict where
  oldStatus : Status
  deriving DecidableEq

/-- A row as a dict. -/
def RPSLDatabaseObject.toDict (row : RPSLDatabaseObject) : RPSLObjectDict where
  pk := row.pk
  rpslPk := row.rpslPk
  source := row.source
  objectClass := row.objectClass
  objectText := row.objectText
  ipPrefix := row.ipPrefix
  rpkiStatus := row.rpkiStatus
  scopefilterStatus := row.scopefilterStatus
  routePreferenceStatus := row.routePreferenceStatus

/-- `is_serial_synchronised`, `irrd/storage/database_handler.py:1338–1364`. -/
def Database.isSerialSynchronised (db : Database) (s : Settings) (source : String)
    (settingsOnly : Bool) : Bool :=
  let dbStatus := settingsOnly || (db.status.find source).all RPSLDatabaseStatus.synchronisedSerials
  dbStatus && s.permitsSynchronisedSerials source

/-- `COALESCE(MAX(serial_nrtm), MAX(serial_newest_seen), 0) + 1` over the status row of a source
joined with its journal, `irrd/storage/database_handler.py:1065–1073`. -/
def Database.nextSerial (db : Database) (source : String) : Nat :=
  match db.status.find source with
  | none => 1
  | some row => ((db.journal.serials source).max?.or row.serialNewestSeen).getD 0 + 1

/-- `LEAST`, which ignores `NULL`. -/
def least (values : List (Option Nat)) : Option Nat := (values.filterMap id).min?

/-- `GREATEST`, which ignores `NULL`. -/
def greatest (values : List (Option Nat)) : Option Nat := (values.filterMap id).max?

namespace DatabaseHandler

variable (s : Settings) (h : DatabaseHandler)

/-- `_start_transaction`, `irrd/storage/database_handler.py:144–153`. -/
def startTransaction : DatabaseHandler :=
  { h with
    rpslPkSourceSeen := []
    rpslUpsertBuffer := []
    roaInsertBuffer := []
    rpslGuaranteedNoExisting := true
    statusTracker := .reset }

/-- `disable_journaling`. -/
def disableJournaling : DatabaseHandler := { h with journalingEnabled := false }

/-- `enable_journaling`. -/
def enableJournaling : DatabaseHandler := { h with journalingEnabled := true }

section Recording

/-- `_is_serial_synchronised`, with the result cached for the transaction. -/
def isSerialSynchronised (source : String) : Bool :=
  (h.statusTracker.synchronisedCache source).getD (h.working.isSerialSynchronised s source false)

/-- The cache after `_is_serial_synchronised`. -/
def cacheSynchronised (source : String) : DatabaseHandler :=
  { h with statusTracker := { h.statusTracker with
      synchronisedCache := Function.update h.statusTracker.synchronisedCache source
        (some (h.isSerialSynchronised s source)) } }

/-- The source has been seen, and its data has changed. -/
def seeSource (source : String) : DatabaseHandler :=
  { h with statusTracker := { h.statusTracker with
      sourcesSeen := h.statusTracker.sourcesSeen.insert source
      sourcesRpslDataUpdated := h.statusTracker.sourcesRpslDataUpdated.insert source } }

/-- The serial of the next journal entry, `irrd/storage/database_handler.py:1059–1073`: from the
NRTM source, or following this transaction's serials, or following the database. -/
def serialFor (source : String) (sourceSerial : Option Nat) : Option Nat :=
  if h.isSerialSynchronised s source then sourceSerial
  else
    match (h.statusTracker.newSerialsPerSource source).max? with
    | some serial => some (serial + 1)
    | none => some (h.working.nextSerial source)

/-- Insert a journal entry, `irrd/storage/database_handler.py:1075–1093`. -/
def insertJournal (op : Operation) (serialNrtm : Nat) : Option DatabaseHandler :=
  let entry : RPSLDatabaseJournal := {
    serialGlobal := h.nextSerialGlobal
    rpslPk := op.rpslPk
    source := op.source
    origin := op.origin
    serialNrtm := serialNrtm
    operation := op.operation
    objectClass := op.objectClass
    objectText := op.objectText
    timestamp := h.now }
  (h.working.journal.append entry).map (fun journal ↦ { h with
    working := { h.working with journal }
    nextSerialGlobal := h.nextSerialGlobal + 1
    written := h.written ++ [entry]
    statusTracker := { h.statusTracker with
      newSerialsPerSource := Function.update h.statusTracker.newSerialsPerSource op.source
        (serialNrtm :: h.statusTracker.newSerialsPerSource op.source) } })

/-- `record_operation`, `irrd/storage/database_handler.py:1026–1093`. -/
def recordOperation (op : Operation) : Option DatabaseHandler :=
  let h := h.seeSource op.source
  if h.journalingEnabled && s.keepJournal op.source then
    match h.serialFor s op.source op.sourceSerial with
    | none => none
    | some serial => (h.cacheSynchronised s op.source).insertJournal op serial
  else some h

/-- `object_modified`, `irrd/storage/database_handler.py:1290–1306`. -/
def objectModified (objectClass source : String) (changed : Option ChangedPrefix)
    (origin : Option JournalEntryOrigin) : DatabaseHandler :=
  let t := h.changedObjectsTracker
  let prefixes :=
    match changed with
    | some changed =>
      if objectClass ∈ rpkiRelevantObjectClasses ∧ origin ≠ some .routePreference ∧
          source ≠ rpkiIrrPseudoSource then t.prefixesForRoutepref.insert changed
      else t.prefixesForRoutepref
    | none => t.prefixesForRoutepref
  { h with changedObjectsTracker := ⟨t.objectClasses.insert objectClass, prefixes⟩ }

/-- Record an operation for each dict that qualifies, and that its object was modified. -/
def recordDicts {A : Type} (operation : DatabaseOperation) (origin : JournalEntryOrigin)
    (dict : A → RPSLObjectDict) (qualifies : A → Bool) (items : List A) :
    Option DatabaseHandler :=
  items.foldlM (fun h item ↦
    if qualifies item then
      let d := dict item
      (h.recordOperation s ⟨operation, d.rpslPk, d.source, d.objectClass, d.objectText, origin,
        none⟩).map (fun h ↦ h.objectModified d.objectClass d.source
          (d.ipPrefix.map .ofColumn) (some origin))
    else some h) h

end Recording

section Upserts

/-- The row that an upsert proposes. -/
def proposedRow (b : BufferedUpsert) (pk : Nat) : RPSLDatabaseObject :=
  { b.columns with pk, created := b.created.getD h.now }

/-- `INSERT .. ON CONFLICT DO UPDATE`: every column but the key and the row key is replaced. -/
def upsertRow (t : ObjectTable) (row : RPSLDatabaseObject) : ObjectTable :=
  t.upsert row (fun old ↦ { row with pk := old.pk }) (fun _ hkey ↦ hkey.symm)

/-- The statement that writes the buffer, `irrd/storage/database_handler.py:722–740`. One statement
cannot write a row twice, and its first row decides whether rows have a creation time. -/
def writeObjects : Option DatabaseHandler :=
  let buffer := h.rpslUpsertBuffer
  let forced := (buffer.head?.bind BufferedUpsert.created).isSome
  if forced ∧ buffer.any (fun b ↦ b.created.isNone) then none
  else
    let rows := buffer.mapIdx (fun i b ↦
      h.proposedRow (if forced then b else { b with created := none }) (h.nextPk + i))
    let h := { h with nextPk := h.nextPk + buffer.length }
    if h.rpslGuaranteedNoExisting then
      (rows.foldlM KeyedTable.append h.working.objects).map (fun objects ↦
        { h with working := { h.working with objects } })
    else if (buffer.map (fun b ↦ b.columns.key)).Nodup then
      some { h with working := { h.working with
        objects := rows.foldl upsertRow h.working.objects } }
    else none

/-- Record a buffered upsert, unless the object is suppressed,
`irrd/storage/database_handler.py:742–760`. -/
def recordUpsert (b : BufferedUpsert) : Option DatabaseHandler :=
  let c := b.columns
  if c.isVisible then
    h.recordOperation s ⟨.addOrUpdate, c.rpslPk, c.source, c.objectClass, c.objectText, b.origin,
      b.sourceSerial⟩
  else some h

/-- `_flush_rpsl_object_writing_buffer`, `irrd/storage/database_handler.py:709–763`. -/
def flushRpslObjectWritingBuffer : Option DatabaseHandler :=
  if h.rpslUpsertBuffer = [] then some h
  else do
    let written ← h.writeObjects
    let recorded ← h.rpslUpsertBuffer.foldlM (recordUpsert s) written
    return { recorded with rpslPkSourceSeen := [], rpslUpsertBuffer := [] }

/-- `MAX_RECORDS_BUFFER_BEFORE_INSERT`. -/
def maxRecordsBufferBeforeInsert : Nat := 15000

/-- The columns to write for an object, `irrd/storage/database_handler.py:276–310`. -/
def objectColumns (o : RPSLObject) : ObjectColumns where
  rpslPk := o.pk
  source := o.source
  objectClass := o.rpslObjectClass
  parsedData := o.parsedData
  objectText := o.renderRpslText h.now
  ipVersion := o.ipVersion
  ipFirst := o.ipFirst
  ipLast := o.ipLast
  ipSize :=
    match o.ipFirst, o.ipLast with
    | some first, some last => some (last.int - first.int + 1)
    | _, _ => none
  prefixLength := o.prefixLength
  ipPrefix := o.ipPrefix
  asnFirst := o.asnFirst
  asnLast := o.asnLast
  rpkiStatus := o.rpkiStatus
  scopefilterStatus := o.scopefilterStatus
  routePreferenceStatus := o.routePreferenceStatus
  updated := h.now

/-- What identifies a pending upsert, `irrd/storage/database_handler.py:287`. -/
def rpslPkSource (o : RPSLObject) : String := o.pk ++ "-" ++ o.source

/-- Append an upsert to the buffer, `irrd/storage/database_handler.py:287–319`. -/
def bufferUpsert (o : RPSLObject) (origin : JournalEntryOrigin)
    (sourceSerial forcedCreatedValue : Option Nat) : DatabaseHandler :=
  let entry : BufferedUpsert := ⟨h.objectColumns o, forcedCreatedValue, origin, sourceSerial⟩
  { h with
    rpslUpsertBuffer := h.rpslUpsertBuffer ++ [entry]
    rpslPkSourceSeen := h.rpslPkSourceSeen.insert (rpslPkSource o) }.objectModified
      o.rpslObjectClass o.source (o.ipPrefix.map .ofObject) none

/-- Flush where the object is pending already. -/
def flushIfSeen (o : RPSLObject) : Option DatabaseHandler :=
  if rpslPkSource o ∈ h.rpslPkSourceSeen then h.flushRpslObjectWritingBuffer s else some h

/-- Flush where the buffer is full. -/
def flushIfFull : Option DatabaseHandler :=
  if maxRecordsBufferBeforeInsert < h.rpslUpsertBuffer.length then
    h.flushRpslObjectWritingBuffer s
  else some h

/-- `upsert_rpsl_object`, `irrd/storage/database_handler.py:244–322`. -/
def upsertRpslObject (o : RPSLObject) (origin : JournalEntryOrigin)
    (rpslGuaranteedNoExisting : Bool) (sourceSerial forcedCreatedValue : Option Nat) :
    Option DatabaseHandler := do
  let h := { h with
    rpslGuaranteedNoExisting := h.rpslGuaranteedNoExisting && rpslGuaranteedNoExisting }
  let h ← h.flushIfSeen s o
  (h.bufferUpsert o origin sourceSerial forcedCreatedValue).flushIfFull s

end Upserts

section Statuses

/-- `UPDATE .. WHERE` on the object rows that match. -/
def updateObjects (matching : RPSLDatabaseObject → Bool)
    (set : RPSLDatabaseObject → RPSLDatabaseObject)
    (hset : ∀ row, (set row).key = row.key) : DatabaseHandler :=
  { h with working := { h.working with
      objects := h.working.objects.map (fun row ↦ if matching row then set row else row) (by
        intro row
        split
        · exact hset row
        · rfl) } }

/-- Set the RPKI status of rows by row key. -/
def setRpkiStatus (status : RPKIStatus) (pks : List Nat) : DatabaseHandler :=
  h.updateObjects (fun row ↦ row.pk ∈ pks) (fun row ↦ { row with rpkiStatus := status })
    (fun _ ↦ rfl)

/-- Set the scope filter status of rows by RPSL primary key. -/
def setScopefilterStatus (status : ScopeFilterStatus) (rpslPks : List String) :
    DatabaseHandler :=
  h.updateObjects (fun row ↦ row.rpslPk ∈ rpslPks)
    (fun row ↦ { row with scopefilterStatus := status }) (fun _ ↦ rfl)

/-- Set the route preference status of rows by row key. -/
def setRoutePreferenceStatus (status : RoutePreferenceStatus) (pks : List Nat) :
    DatabaseHandler :=
  h.updateObjects (fun row ↦ row.pk ∈ pks)
    (fun row ↦ { row with routePreferenceStatus := status }) (fun _ ↦ rfl)

/-- Whether an RPKI change makes an object visible, or no longer visible. -/
def rpkiVisibility (d : ChangedObjectDict RPKIStatus) : Bool × Bool :=
  (objectIsVisible d.oldStatus d.scopefilterStatus d.routePreferenceStatus,
    objectIsVisible d.rpkiStatus d.scopefilterStatus d.routePreferenceStatus)

/-- Whether an object was visible before a scope filter change, and is now. -/
def scopefilterVisibility (d : ChangedObjectDict ScopeFilterStatus) : Bool × Bool :=
  (objectIsVisible d.rpkiStatus d.oldStatus d.routePreferenceStatus,
    objectIsVisible d.rpkiStatus d.scopefilterStatus d.routePreferenceStatus)

/-- Visible now and not before. -/
def becameVisible (visibility : Bool × Bool) : Bool := visibility.2 && !visibility.1

/-- Visible before and not now. -/
def becameInvisible (visibility : Bool × Bool) : Bool := !visibility.2 && visibility.1

/-- `update_rpki_status`, `irrd/storage/database_handler.py:345–413`. -/
def updateRpkiStatus (nowValid nowInvalid nowNotFound : List (ChangedObjectDict RPKIStatus)) :
    Option DatabaseHandler := do
  let h := h.setRpkiStatus .valid (nowValid.map (fun d ↦ d.pk))
  let h := h.setRpkiStatus .invalid (nowInvalid.map (fun d ↦ d.pk))
  let h := h.setRpkiStatus .notFound (nowNotFound.map (fun d ↦ d.pk))
  let h ← h.recordDicts s .addOrUpdate .rpkiStatus ChangedObjectDict.toRPSLObjectDict
    (fun d ↦ becameVisible (rpkiVisibility d)) (nowValid ++ nowNotFound)
  h.recordDicts s .delete .rpkiStatus ChangedObjectDict.toRPSLObjectDict
    (fun d ↦ becameInvisible (rpkiVisibility d)) nowInvalid

/-- `update_scopefilter_status`, `irrd/storage/database_handler.py:415–495`. Unlike the other
updates, rows are found by their RPSL primary key alone. -/
def updateScopefilterStatus
    (nowInScope nowOutScopeAs nowOutScopePrefix : List (ChangedObjectDict ScopeFilterStatus)) :
    Option DatabaseHandler := do
  let h := h.setScopefilterStatus .inScope (nowInScope.map (fun d ↦ d.rpslPk))
  let h := h.setScopefilterStatus .outScopeAs (nowOutScopeAs.map (fun d ↦ d.rpslPk))
  let h := h.setScopefilterStatus .outScopePrefix (nowOutScopePrefix.map (fun d ↦ d.rpslPk))
  let h ← h.recordDicts s .addOrUpdate .scopeFilter ChangedObjectDict.toRPSLObjectDict
    (fun d ↦ becameVisible (scopefilterVisibility d)) nowInScope
  h.recordDicts s .delete .scopeFilter ChangedObjectDict.toRPSLObjectDict
    (fun d ↦ becameInvisible (scopefilterVisibility d)) (nowOutScopeAs ++ nowOutScopePrefix)

/-- Whether nothing but the route preference can suppress an object. -/
def otherwiseVisible (d : RPSLObjectDict) : Bool :=
  objectIsVisible d.rpkiStatus d.scopefilterStatus .visible

/-- `update_route_preference_status`, `irrd/storage/database_handler.py:497–561`. -/
def updateRoutePreferenceStatus (nowVisible nowSuppressed : List RPSLObjectDict) :
    Option DatabaseHandler := do
  let h ← h.recordDicts s .addOrUpdate .routePreference id otherwiseVisible nowVisible
  let h ← h.recordDicts s .delete .routePreference id otherwiseVisible nowSuppressed
  let h := h.setRoutePreferenceStatus .visible (nowVisible.map RPSLObjectDict.pk)
  return h.setRoutePreferenceStatus .suppressed (nowSuppressed.map RPSLObjectDict.pk)

/-- `irrd.routepref.routepref.update_route_preference_status`,
`irrd/routepref/routepref.py:133–171`; its queries flush the buffer first. -/
def evaluateRoutePreference (filterPrefixes : List IP) : Option DatabaseHandler :=
  if (changedRoutes s [] filterPrefixes).isNone then some h
  else do
    let h ← h.flushRpslObjectWritingBuffer s
    match changedRoutes s h.working.objects.rows filterPrefixes with
    | none => return h
    | some (nowVisible, nowSuppressed) =>
      h.updateRoutePreferenceStatus s (nowVisible.map RPSLDatabaseObject.toDict)
        (nowSuppressed.map RPSLDatabaseObject.toDict)

end Statuses

section Deletions

/-- Remove object rows. -/
def removeObjects (removed : RPSLDatabaseObject → Bool) : DatabaseHandler :=
  { h with working := { h.working with
      objects := h.working.objects.filter (fun row ↦ !removed row) } }

/-- A missing or empty argument falls back on the object. -/
def argument (given own : Option String) : Option String :=
  if isSet given then given else own.or given

/-- The arguments that name an object to delete: the object, or its parts. -/
structure DeleteArguments where
  rpslObject : Option RPSLObject
  source : Option String
  rpslPk : Option String
  objectClass : Option String

/-- The key of the object to delete, `irrd/storage/database_handler.py:582–587`. -/
def DeleteArguments.key (a : DeleteArguments) : Option ObjectKey :=
  match argument a.rpslPk (a.rpslObject.map RPSLObject.pk),
      argument a.source (a.rpslObject.map RPSLObject.source),
      argument a.objectClass (a.rpslObject.map RPSLObject.rpslObjectClass) with
  | some rpslPk, some source, some objectClass => some ⟨rpslPk, source, objectClass⟩
  | _, _, _ => none

/-- `delete_rpsl_object`, `irrd/storage/database_handler.py:563–634`. -/
def deleteRpslObject (origin : JournalEntryOrigin) (a : DeleteArguments)
    (sourceSerial : Option Nat) (protectRpslName : Bool) : Option DatabaseHandler := do
  let h ← h.flushRpslObjectWritingBuffer s
  match a.key.bind h.working.objects.find with
  | none => return h
  | some row =>
    let h := h.removeObjects (fun r ↦ r.key = row.key)
    let h ← h.recordOperation s ⟨.delete, row.rpslPk, row.source, row.objectClass, row.objectText,
      origin, sourceSerial⟩
    let h := h.objectModified row.objectClass row.source (row.ipPrefix.map .ofColumn) (some origin)
    if protectRpslName ∧ (a.rpslObject.map RPSLObject.rpslObjectClass).any
        (· ∈ protectedNameObjectClasses) then
      return { h with working := { h.working with protectedNames := h.working.protectedNames ++
        [⟨row.rpslPk, row.source, row.objectClass, row.rpslPk⟩] } }
    else return h

/-- `suspend_rpsl_object`, `irrd/storage/database_handler.py:636–692`. Where no row has the row
key, the exception is raised after the flush. -/
def suspendRpslObject (pk : Nat) : Option DatabaseHandler := do
  let h ← h.flushRpslObjectWritingBuffer s
  match h.working.objects.rows.filter (fun row ↦ row.pk = pk) with
  | [] => return h
  | [row] =>
    let h := h.removeObjects (fun r ↦ r.pk = pk)
    let mntners ← row.parsedData.lookup "mnt-by"
    let suspended : RPSLDatabaseObjectSuspended :=
      ⟨h.nextPk, row.rpslPk, row.source, row.objectClass, row.objectText, mntners, h.now,
        row.created, row.updated⟩
    let h := { h with
      nextPk := h.nextPk + 1
      working := { h.working with suspended := h.working.suspended ++ [suspended] } }
    let h ← h.recordOperation s ⟨.delete, row.rpslPk, row.source, row.objectClass, row.objectText,
      .suspension, none⟩
    return h.objectModified row.objectClass row.source (row.ipPrefix.map .ofColumn)
      (some .suspension)
  | _ => none

/-- `delete_suspended_rpsl_objects`, `irrd/storage/database_handler.py:694–707`. -/
def deleteSuspendedRpslObjects (pks : List Nat) : Option DatabaseHandler := do
  let h ← h.flushRpslObjectWritingBuffer s
  return { h with working := { h.working with
    suspended := h.working.suspended.filter (fun row ↦ row.pk ∉ pks) } }

/-- `delete_journal_entries_before_date`, `irrd/storage/database_handler.py:788–796`. -/
def deleteJournalEntriesBeforeDate (timestamp : Nat) (source : String) :
    Option DatabaseHandler := do
  let h ← h.flushRpslObjectWritingBuffer s
  return { h with working := { h.working with
    journal := h.working.journal.filter (fun e ↦
      !(e.source = source ∧ e.timestamp < timestamp)) } }

/-- `delete_all_rpsl_objects_with_journal`, `irrd/storage/database_handler.py:798–818`. -/
def deleteAllRpslObjectsWithJournal (source : String) (journalGuaranteedEmpty : Bool) :
    Option DatabaseHandler := do
  let h ← h.flushRpslObjectWritingBuffer s
  let h := h.removeObjects (fun row ↦ row.source = source)
  let journal := if journalGuaranteedEmpty then h.working.journal
    else h.working.journal.filter (fun e ↦ !(e.source = source))
  return { h with
    working := { h.working with
      journal
      status := h.working.status.filter (fun row ↦ !(row.source = source)) }
    changedObjectsTracker := { h.changedObjectsTracker with
      objectClasses := h.changedObjectsTracker.objectClasses.union objectClassMapping } }

end Deletions

section ROAs

/-- `insert_roa_object`, `irrd/storage/database_handler.py:324–343`. -/
def insertRoaObject (roa : ROAInsert) : DatabaseHandler :=
  { h with roaInsertBuffer := h.roaInsertBuffer ++ [roa] }

/-- `_flush_roa_writing_buffer`, `irrd/storage/database_handler.py:765–786`. -/
def flushRoaWritingBuffer : Option DatabaseHandler :=
  if h.roaInsertBuffer = [] then some h
  else do
    let roaRows ← readRows (writeRows (h.roaInsertBuffer.map ROAInsert.columns))
    let rows ← roaRows.mapM h.roaColumnInput.row
    let roas ← rows.foldlM ROATable.append h.working.roas
    return { h with working := { h.working with roas }, roaInsertBuffer := [] }

theorem flushRoaWritingBuffer_eq_some {h h' : DatabaseHandler}
    (hflush : h.flushRoaWritingBuffer = some h') :
    ∃ roas, h' = { h with working := { h.working with roas }, roaInsertBuffer := [] } := by
  unfold flushRoaWritingBuffer at hflush
  split at hflush
  · next hempty =>
    cases hflush
    refine ⟨h.working.roas, ?_⟩
    rw [← hempty]
  · obtain ⟨roaRows, -, hflush⟩ := Option.bind_eq_some_iff.mp hflush
    obtain ⟨rows, -, hflush⟩ := Option.bind_eq_some_iff.mp hflush
    obtain ⟨roas, -, hflush⟩ := Option.bind_eq_some_iff.mp hflush
    cases hflush
    exact ⟨roas, rfl⟩

/-- `delete_all_roa_objects`, `irrd/storage/database_handler.py:820–828`. -/
def deleteAllRoaObjects : DatabaseHandler :=
  { h with working := { h.working with roas := .empty }, roaInsertBuffer := [] }

end ROAs

section Status

/-- `UPDATE database_status`. -/
def updateStatus (set : RPSLDatabaseStatus → RPSLDatabaseStatus)
    (hset : ∀ row, (set row).source = row.source) : DatabaseHandler :=
  { h with working := { h.working with status := h.working.status.map set hset } }

/-- `set_force_reload`, `irrd/storage/database_handler.py:830–853`. -/
def setForceReload (source : String) : DatabaseHandler :=
  h.updateStatus (fun row ↦
    if row.source = source then { row with
      forceReload := true
      synchronisedSerials := h.working.isSerialSynchronised s source true
      serialOldestSeen := none
      serialNewestSeen := none }
    else row) (by
      intro row
      split <;> rfl)

/-- Add a source to those seen in this transaction. -/
def seen (source : String) (t : DatabaseStatusTracker) : DatabaseHandler :=
  { h with statusTracker := { t with sourcesSeen := t.sourcesSeen.insert source } }

/-- `record_serial_newest_mirror`. -/
def recordSerialNewestMirror (source : String) (serial : Nat) : DatabaseHandler :=
  let t := h.statusTracker
  h.seen source { t with
    newestMirrorSerials := Function.update t.newestMirrorSerials source (some serial) }

/-- `record_serial_seen`. -/
def recordSerialSeen (source : String) (serial : Nat) : DatabaseHandler :=
  let t := h.statusTracker
  h.seen source { t with
    newSerialsPerSource := Function.update t.newSerialsPerSource source
      (serial :: t.newSerialsPerSource source) }

/-- `record_mirror_error`. -/
def recordMirrorError (source error : String) : DatabaseHandler :=
  let t := h.statusTracker
  h.seen source { t with mirroringError := Function.update t.mirroringError source (some error) }

/-- `record_serial_exported`. -/
def recordSerialExported (source : String) (serial : Nat) : DatabaseHandler :=
  let t := h.statusTracker
  h.seen source { t with
    exportedSerials := Function.update t.exportedSerials source (some serial) }

/-- `record_nrtm4_client_status`. -/
def recordNrtm4ClientStatus (source : String) (status : NRTM4ClientDatabaseStatus) :
    DatabaseHandler :=
  let t := h.statusTracker
  h.seen source { t with
    nrtm4ClientStatus := Function.update t.nrtm4ClientStatus source (some status) }

/-- `record_nrtm4_server_status`. -/
def recordNrtm4ServerStatus (source : String) (status : NRTM4ServerDatabaseStatus) :
    DatabaseHandler :=
  let t := h.statusTracker
  h.seen source { t with
    nrtm4ServerStatus := Function.update t.nrtm4ServerStatus source (some status) }

/-- A new row of `database_status`. -/
def newStatusRow (source : String) : RPSLDatabaseStatus where
  source := source
  serialOldestSeen := none
  serialNewestSeen := none
  serialOldestJournal := none
  serialNewestJournal := none
  serialLastExport := none
  serialNewestMirror := none
  nrtm4Client := ⟨none, none, none, none, none⟩
  nrtm4Server := ⟨none, none, none, none, none, none, none, none, []⟩
  forceReload := false
  synchronisedSerials := h.isSerialSynchronised s source
  lastError := none
  lastErrorTimestamp := none
  rpslDataUpdated := h.now

/-- The row of a source seen, `irrd/storage/database_handler.py:1103–1118`. -/
def seeStatusRow (source : String) : DatabaseHandler :=
  let cached := h.cacheSynchronised s source
  { cached with working := { h.working with
      status := h.working.status.upsert (h.newStatusRow s source) (fun row ↦ { row with
        forceReload := false
        synchronisedSerials := h.isSerialSynchronised s source }) (fun _ _ ↦ rfl) } }

/-- The serial columns of a source with new serials,
`irrd/storage/database_handler.py:1129–1172`. -/
def finaliseSerials (row : RPSLDatabaseStatus) : RPSLDatabaseStatus :=
  let serials := h.statusTracker.newSerialsPerSource row.source
  let oldestJournal := (h.working.journal.serials row.source).min?
  let newestJournal := (h.working.journal.serials row.source).max?
  if serials = [] then row
  else { row with
    serialOldestSeen := least [row.serialOldestSeen, oldestJournal, serials.min?]
    serialNewestSeen := greatest [row.serialNewestSeen, newestJournal, serials.max?]
    serialOldestJournal := oldestJournal
    serialNewestJournal := newestJournal
    rpslDataUpdated := h.now }

/-- The other columns of a status row, `irrd/storage/database_handler.py:1120–1128,1174–1237`. -/
def finaliseColumns (row : RPSLDatabaseStatus) : RPSLDatabaseStatus :=
  let t := h.statusTracker
  let error := t.mirroringError row.source
  let mirror := t.newestMirrorSerials row.source
  let updated := row.source ∈ t.sourcesRpslDataUpdated ∨ mirror.isSome
  { row with
    rpslDataUpdated := if updated then h.now else row.rpslDataUpdated
    lastError := error.or row.lastError
    lastErrorTimestamp := if error.isSome then some h.now else row.lastErrorTimestamp
    serialNewestMirror := mirror.or row.serialNewestMirror
    serialLastExport := (t.exportedSerials row.source).or row.serialLastExport
    nrtm4Client := (t.nrtm4ClientStatus row.source).getD row.nrtm4Client
    nrtm4Server := (t.nrtm4ServerStatus row.source).getD row.nrtm4Server }

/-- `finalise_transaction`, `irrd/storage/database_handler.py:1095–1237`. Every update touches the
rows of its own sources only. -/
def finaliseTransaction : DatabaseHandler :=
  let h := h.statusTracker.sourcesSeen.foldl (seeStatusRow s) h
  h.updateStatus (fun row ↦ h.finaliseColumns (h.finaliseSerials row)) (by
    intro row
    unfold finaliseColumns finaliseSerials
    dsimp only
    split <;> rfl)

end Status

section Transactions

/-- `pre_commit`, `irrd/storage/database_handler.py:1313–1327`. -/
def preCommit : Option DatabaseHandler :=
  let prefixes := h.changedObjectsTracker.filterPrefixes
  if prefixes = [] then some h else h.evaluateRoutePreference s prefixes

/-- `commit`, `irrd/storage/database_handler.py:163–189`. -/
def commit : Option DatabaseHandler := do
  let h ← h.flushRpslObjectWritingBuffer s
  let h ← h.flushRoaWritingBuffer
  let h := h.finaliseTransaction s
  let h := if h.journalingEnabled then h else { h with committed := h.working }
  let h ← h.preCommit s
  return { h with
    committed := h.working
    changedObjectsTracker := ⟨[], []⟩ }.startTransaction

/-- `rollback`, `irrd/storage/database_handler.py:191–199`. -/
def rollback : DatabaseHandler :=
  { h with working := h.committed, changedObjectsTracker := ⟨[], []⟩ }.startTransaction

end Transactions

end DatabaseHandler

end Irrd.Storage
