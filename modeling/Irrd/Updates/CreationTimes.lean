import Irrd.Storage.Rollback
import Irrd.Updates.Reactivation

/-!
# Creation times

The creation time of an object through a run of a handler, with upserts of users and mirrors,
suspensions and reactivations. An upsert replaces every column of the row, the creation time too,
and proposes the default of the column, which is what `now()` reads, where it was not given one.
Sources:
`irrd/storage/database_handler.py:291–314,709–740`, `irrd/updates/suspension.py:172–174`.
-/

namespace Irrd.Updates

open Irrd.Base Irrd.Conf Irrd.Storage

/-- The creation times that are stored for an object: that of its row and those of suspended
rows. -/
def creationTimes (key : ObjectKey) (db : Database) : List Nat :=
  ((db.objects.find key).map RPSLDatabaseObject.created).toList ++
    (db.suspended.filter (fun row ↦ suspendedKey row = key)).map
      RPSLDatabaseObjectSuspended.originalCreated

/-- The creation time that the statement for some upserts gives an object: the one it was given, or
the default if the first row of the statement has none. -/
def givenCreated (now : Nat) (buffer : List BufferedUpsert) (key : ObjectKey) : Option Nat :=
  (buffer.find? (fun b ↦ b.columns.key = key)).map (fun b ↦
    if (buffer.head?.bind BufferedUpsert.created).isSome then b.created.getD now else now)

/-- The upserts that an operation writes. -/
def writtenUpserts (s : Settings) (h : DatabaseHandler) : HandlerOperation → List BufferedUpsert
  | .upsertRpslObject o origin _ sourceSerial created =>
    if DatabaseHandler.rpslPkSource o ∈ h.rpslPkSourceSeen then h.rpslUpsertBuffer
    else if DatabaseHandler.maxRecordsBufferBeforeInsert < h.rpslUpsertBuffer.length + 1 then
      h.rpslUpsertBuffer ++ [⟨h.objectColumns o, created, origin, sourceSerial⟩]
    else []
  | .evaluateRoutePreference filterPrefixes =>
    if (Routepref.changedRoutes s [] filterPrefixes).isNone then [] else h.rpslUpsertBuffer
  | .deleteRpslObject .. | .suspendRpslObject _ | .deleteSuspendedRpslObjects _
  | .deleteJournalEntriesBeforeDate .. | .deleteAllRpslObjectsWithJournal .. | .executeQuery
  | .commit => h.rpslUpsertBuffer
  | _ => []

/-- A handler, with the creation time that the object had when it was first inserted, as the
transaction sees it and as it was last committed. -/
structure CreationRun where
  handler : DatabaseHandler
  first : Option Nat
  committedFirst : Option Nat

/-- The first creation time after a step: it stays as long as the object is stored or suspended. -/
def firstAfter (key : ObjectKey) (first : Option Nat) (db : Database) : Option Nat :=
  if creationTimes key db = [] then none else first.or (creationTimes key db).head?

/-- One action of the handler. -/
def creationStep (s : Settings) (key : ObjectKey) (t : CreationRun) (a : HandlerAction) :
    Option CreationRun :=
  (t.handler.step s a).map (fun h ↦
    match a.operation with
    | .rollback => ⟨h, t.committedFirst, t.committedFirst⟩
    | .commit => ⟨h, firstAfter key t.first h.working, firstAfter key t.first h.working⟩
    | _ => ⟨h, firstAfter key t.first h.working, t.committedFirst⟩)

/-- The object is stored and suspended with its first creation time only. -/
structure CreationStable (key : ObjectKey) (first : Option Nat) (db : Database) : Prop where
  row : ∀ row, db.objects.find key = some row → first = some row.created
  suspended : ∀ row ∈ db.suspended, suspendedKey row = key → first = some row.originalCreated

/-- What an action writes for an object that is stored or suspended has its first creation time. -/
def BringsCreated (s : Settings) (key : ObjectKey) (t : CreationRun) (a : HandlerAction) : Prop :=
  ∀ first ∈ t.first, ∀ created ∈ givenCreated a.now
    (writtenUpserts s { t.handler with now := a.now } a.operation) key, created = first

instance (s : Settings) (key : ObjectKey) (t : CreationRun) (a : HandlerAction) :
    Decidable (BringsCreated s key t a) :=
  inferInstanceAs (Decidable (∀ first ∈ t.first, ∀ created ∈ givenCreated a.now
    (writtenUpserts s { t.handler with now := a.now } a.operation) key, created = first))

section Times

variable {key : ObjectKey} {db : Database} {first : Option Nat}

theorem mem_creationTimes {created : Nat} : created ∈ creationTimes key db ↔
    (∃ row ∈ db.objects.rows, row.key = key ∧ row.created = created) ∨
      ∃ row ∈ db.suspended, suspendedKey row = key ∧ row.originalCreated = created := by
  have hrow : created ∈ ((db.objects.find key).map RPSLDatabaseObject.created).toList ↔
      ∃ row ∈ db.objects.rows, row.key = key ∧ row.created = created := by
    simp only [Option.mem_toList, Option.map_eq_some_iff, KeyedTable.find_eq_some_iff, and_assoc]
  unfold creationTimes
  rw [List.mem_append, hrow]
  simp only [List.mem_map, List.mem_filter, decide_eq_true_eq, and_assoc]

theorem creationStable_iff :
    CreationStable key first db ↔ ∀ created ∈ creationTimes key db, first = some created := by
  constructor
  · intro hstable created hcreated
    rcases mem_creationTimes.mp hcreated with ⟨row, hrow, hkey, rfl⟩ | ⟨row, hrow, hkey, rfl⟩
    · exact hstable.row row ((KeyedTable.find_eq_some_iff _ _ _).mpr ⟨hrow, hkey⟩)
    · exact hstable.suspended row hrow hkey
  · intro hall
    constructor
    · intro row hrow
      apply hall
      exact mem_creationTimes.mpr
        (Or.inl ⟨row, KeyedTable.find_mem hrow, KeyedTable.find_key hrow, rfl⟩)
    · intro row hrow hkey
      apply hall
      exact mem_creationTimes.mpr (Or.inr ⟨row, hrow, hkey, rfl⟩)

/-- Where an object has one creation time at most, it is the first one after a step. -/
theorem creationStable_firstAfter
    (hall : ∀ created ∈ creationTimes key db, ∀ created' ∈ creationTimes key db,
      created = created')
    (hfirst : ∀ f, first = some f → ∀ created ∈ creationTimes key db, created = f) :
    CreationStable key (firstAfter key first db) db := by
  rw [creationStable_iff]
  intro created hcreated
  unfold firstAfter
  rw [if_neg (List.ne_nil_of_mem hcreated)]
  cases hf : first with
  | some f => rw [Option.some_or, hfirst f hf created hcreated]
  | none =>
    cases htimes : creationTimes key db with
    | nil => exact absurd htimes (List.ne_nil_of_mem hcreated)
    | cons other others =>
      have hother : other ∈ creationTimes key db := htimes ▸ List.mem_cons_self
      rw [hall created hcreated other hother]
      rfl

end Times

section Steps

variable {s : Settings} {key : ObjectKey} {given : Option Nat} {h h₁ h' : DatabaseHandler}

/-- The creation times afterwards are those before and a given one. -/
def TimesFrom (key : ObjectKey) (given : Option Nat) (h h' : DatabaseHandler) : Prop :=
  ∀ created ∈ creationTimes key h'.working,
    created ∈ creationTimes key h.working ∨ given = some created

theorem TimesFrom.trans (hfirst : TimesFrom key given h h₁) (hsecond : TimesFrom key none h₁ h') :
    TimesFrom key given h h' := by
  intro created hcreated
  rcases hsecond created hcreated with hbefore | hnone
  · exact hfirst created hbefore
  · cases hnone

theorem TimesFrom.of_none (hnone : TimesFrom key none h h') : TimesFrom key given h h' := by
  intro created hcreated
  rcases hnone created hcreated with hbefore | hgiven
  · exact Or.inl hbefore
  · cases hgiven

/-- Rows with the creation times of rows before, of the same objects. -/
theorem timesFrom_of_rows
    (hobjects : ∀ row ∈ h'.working.objects.rows, ∃ row' ∈ h.working.objects.rows,
      row'.key = row.key ∧ row'.created = row.created)
    (hsuspended : ∀ row ∈ h'.working.suspended, row ∈ h.working.suspended ∨
      ∃ row' ∈ h.working.objects.rows, row'.key = suspendedKey row ∧
        row'.created = row.originalCreated) : TimesFrom key given h h' := by
  intro created hcreated
  apply Or.inl
  rw [mem_creationTimes] at hcreated ⊢
  rcases hcreated with ⟨row, hrow, rfl, rfl⟩ | ⟨row, hrow, rfl, rfl⟩
  · exact Or.inl (hobjects row hrow)
  · rcases hsuspended row hrow with hkept | hmoved
    · exact Or.inr ⟨row, hkept, rfl, rfl⟩
    · exact Or.inl hmoved

theorem timesFrom_of_eq (hobjects : h'.working.objects = h.working.objects)
    (hsuspended : h'.working.suspended = h.working.suspended) : TimesFrom key given h h' := by
  apply timesFrom_of_rows
  · intro row hrow
    exact ⟨row, hobjects ▸ hrow, rfl, rfl⟩
  · intro row hrow
    exact Or.inl (hsuspended ▸ hrow)

/-- A change of columns other than the key and the creation time. -/
theorem timesFrom_updateObjects (matching : RPSLDatabaseObject → Bool)
    (set : RPSLDatabaseObject → RPSLDatabaseObject) (hset : ∀ row, (set row).key = row.key)
    (hcreated : ∀ row, (set row).created = row.created) :
    TimesFrom key given h (h.updateObjects matching set hset) := by
  apply timesFrom_of_rows
  · intro row hrow
    obtain ⟨old, hold, rfl⟩ := List.mem_map.mp hrow
    refine ⟨old, hold, ?_⟩
    split
    · exact ⟨(hset old).symm, (hcreated old).symm⟩
    · exact ⟨rfl, rfl⟩
  · exact fun row hrow ↦ Or.inl hrow

/-- Recording an operation leaves the objects and the suspended ones alone. -/
theorem tables_recordOperation {op : Operation} (hrecord : h.recordOperation s op = some h') :
    h'.working.objects = h.working.objects ∧ h'.working.suspended = h.working.suspended :=
  ⟨(recordOperation_eq_some hrecord).1.objects, suspended_recordOperation hrecord⟩

/-- What every step of a loop leaves alone is as before. -/
theorem foldlM_keeps {A B : Type} {f : DatabaseHandler → A → Option DatabaseHandler}
    {φ : DatabaseHandler → B} (hf : ∀ {a b : DatabaseHandler} {item}, f a item = some b → φ b = φ a)
    {items : List A} (hfold : items.foldlM f h = some h') : φ h' = φ h := by
  induction items generalizing h with
  | nil =>
    cases hfold
    rfl
  | cons item items ih =>
    obtain ⟨h₁, hitem, hrest⟩ := Option.bind_eq_some_iff.mp hfold
    exact (ih hrest).trans (hf hitem)

theorem timesFrom_recordDicts {A : Type} {operation : DatabaseOperation}
    {origin : JournalEntryOrigin} {dict : A → RPSLObjectDict} {qualifies : A → Bool}
    {items : List A} (hdicts : h.recordDicts s operation origin dict qualifies items = some h') :
    TimesFrom key given h h' := by
  apply timesFrom_of_eq (recordDicts_frame hdicts).2
  refine foldlM_keeps (φ := fun h ↦ h.working.suspended) ?_ hdicts
  intro a b item hitem
  dsimp only at hitem
  split at hitem
  · obtain ⟨c, hop, rfl⟩ := Option.map_eq_some_iff.mp hitem
    exact @suspended_recordOperation _ _ _ c hop
  · cases hitem
    rfl

/-- The rows that the statement for the pending upserts proposes. -/
def proposedRows (h : DatabaseHandler) : List RPSLDatabaseObject :=
  h.rpslUpsertBuffer.mapIdx (fun i b ↦ h.proposedRow
    (if (h.rpslUpsertBuffer.head?.bind BufferedUpsert.created).isSome then b
      else { b with created := none }) (h.nextPk + i))

theorem proposedRows_created (h : DatabaseHandler) :
    (proposedRows h).map (fun row ↦ (row.key, row.created)) =
      h.rpslUpsertBuffer.map (fun b ↦ (b.columns.key,
        if (h.rpslUpsertBuffer.head?.bind BufferedUpsert.created).isSome then b.created.getD h.now
        else h.now)) := by
  unfold proposedRows
  refine List.ext_getElem (by simp) (fun i hi hi' ↦ ?_)
  simp only [List.getElem_map, List.getElem_mapIdx, DatabaseHandler.proposedRow]
  split <;> rfl

theorem find_proposedRows (h : DatabaseHandler) (key : ObjectKey) :
    ((proposedRows h).find? (fun row ↦ row.key = key)).map RPSLDatabaseObject.created =
      givenCreated h.now h.rpslUpsertBuffer key := by
  have hfound := congrArg (fun rows ↦ (rows.find? (fun row ↦ row.1 = key)).map Prod.snd)
    (proposedRows_created h)
  simp only [List.find?_map, Option.map_map] at hfound
  exact hfound

/-- After a flush an object has the creation time that the statement gives it. -/
theorem created_flushed (hflush : h.flushRpslObjectWritingBuffer s = some h') (key : ObjectKey) :
    (h'.working.objects.find key).map RPSLDatabaseObject.created =
      (givenCreated h.now h.rpslUpsertBuffer key).or
        ((h.working.objects.find key).map RPSLDatabaseObject.created) := by
  have hobjects := (flush_objects hflush).1
  unfold flushedObjects at hobjects
  split at hobjects
  · next hempty =>
    rw [← Option.some_inj.mp hobjects, hempty]
    rfl
  · obtain ⟨h₁, hwrite, hwritten⟩ := Option.map_eq_some_iff.mp hobjects
    have hnodup := (writeObjects_eq_some hwrite).nodup
    have hkeys : (proposedRows h).map RPSLDatabaseObject.key =
        h.rpslUpsertBuffer.map (fun b ↦ b.columns.key) := by
      have hmap := congrArg (List.map Prod.fst) (proposedRows_created h)
      rwa [List.map_map, List.map_map] at hmap
    rw [← hkeys] at hnodup
    rw [← hwritten, ← find_proposedRows]
    simp only [DatabaseHandler.writeObjects] at hwrite
    generalize hrows : h.rpslUpsertBuffer.mapIdx _ = rows at hwrite
    obtain rfl : proposedRows h = rows := hrows
    split at hwrite
    · cases hwrite
    · split at hwrite
      · obtain ⟨objects, happend, rfl⟩ := Option.map_eq_some_iff.mp hwrite
        exact (congrArg _ (find_foldlM_append happend key)).trans Option.map_or
      · split at hwrite
        · cases hwrite
          exact map_find_foldl_upsertRow RPSLDatabaseObject.created (fun _ _ ↦ rfl) hnodup _ key
        · cases hwrite

/-- A flush leaves the suspended objects alone. -/
theorem suspended_flush (hflush : h.flushRpslObjectWritingBuffer s = some h') :
    h'.working.suspended = h.working.suspended := by
  unfold DatabaseHandler.flushRpslObjectWritingBuffer at hflush
  split at hflush
  · cases hflush
    rfl
  · obtain ⟨h₁, hwrite, hflush⟩ := Option.bind_eq_some_iff.mp hflush
    obtain ⟨h₂, hrecord, hflush⟩ := Option.bind_eq_some_iff.mp hflush
    cases hflush
    have hwritten : h₁.working.suspended = h.working.suspended := by
      simp only [DatabaseHandler.writeObjects] at hwrite
      split at hwrite
      · cases hwrite
      · split at hwrite
        · obtain ⟨objects, -, rfl⟩ := Option.map_eq_some_iff.mp hwrite
          rfl
        · split at hwrite
          · cases hwrite
            rfl
          · cases hwrite
    have hrecorded : h₂.working.suspended = h₁.working.suspended := by
      refine foldlM_keeps (φ := fun h ↦ h.working.suspended) ?_ hrecord
      intro a b item hitem
      unfold DatabaseHandler.recordUpsert at hitem
      dsimp only at hitem
      split at hitem
      · exact suspended_recordOperation hitem
      · cases hitem
        rfl
    exact hrecorded.trans hwritten

theorem timesFrom_flush (hflush : h.flushRpslObjectWritingBuffer s = some h') :
    TimesFrom key (givenCreated h.now h.rpslUpsertBuffer key) h h' := by
  intro created hcreated
  have hrow := created_flushed hflush key
  unfold creationTimes at hcreated ⊢
  rw [suspended_flush hflush, hrow] at hcreated
  cases hgiven : givenCreated h.now h.rpslUpsertBuffer key with
  | none =>
    rw [hgiven, Option.none_or] at hcreated
    exact Or.inl hcreated
  | some given =>
    rw [hgiven, Option.some_or] at hcreated
    rcases List.mem_append.mp hcreated with hnew | hsuspended
    · exact Or.inr (Option.mem_toList.mp hnew)
    · exact Or.inl (List.mem_append_right _ hsuspended)

theorem timesFrom_upsert {o : Rpsl.RPSLObject} {origin : JournalEntryOrigin} {guaranteed : Bool}
    {sourceSerial forced : Option Nat}
    (hupsert : h.upsertRpslObject s o origin guaranteed sourceSerial forced = some h') :
    TimesFrom key (givenCreated h.now (writtenUpserts s h
      (.upsertRpslObject o origin guaranteed sourceSerial forced)) key) h h' := by
  obtain ⟨h₁, hseen, hfull⟩ := Option.bind_eq_some_iff.mp hupsert
  unfold DatabaseHandler.flushIfSeen at hseen
  unfold DatabaseHandler.flushIfFull at hfull
  split at hseen
  · next hpending =>
    -- One upsert alone does not fill the buffer.
    have hempty : h₁.rpslUpsertBuffer = [] := (flush_pending hseen).1
    have hlength : (h₁.bufferUpsert o origin sourceSerial forced).rpslUpsertBuffer.length = 1 := by
      show (h₁.rpslUpsertBuffer ++ [_]).length = 1
      rw [hempty]
      rfl
    rw [hlength, if_neg (by show ¬ 15000 < 1; omega)] at hfull
    cases hfull
    have hwritten : writtenUpserts s h
        (.upsertRpslObject o origin guaranteed sourceSerial forced) = h.rpslUpsertBuffer :=
      if_pos hpending
    rw [hwritten]
    exact (timesFrom_flush hseen).trans (timesFrom_of_eq rfl rfl)
  · next hpending =>
    cases hseen
    have hlength : (DatabaseHandler.bufferUpsert { h with
        rpslGuaranteedNoExisting := h.rpslGuaranteedNoExisting && guaranteed } o origin sourceSerial
          forced).rpslUpsertBuffer.length = h.rpslUpsertBuffer.length + 1 :=
      List.length_append
    rw [hlength] at hfull
    split at hfull
    · next hlong =>
      have hwritten : writtenUpserts s h
          (.upsertRpslObject o origin guaranteed sourceSerial forced) =
            h.rpslUpsertBuffer ++ [⟨h.objectColumns o, forced, origin, sourceSerial⟩] :=
        (if_neg hpending).trans (if_pos hlong)
      rw [hwritten]
      exact timesFrom_flush hfull
    · next hshort =>
      cases hfull
      exact timesFrom_of_eq rfl rfl

theorem timesFrom_updateRoutePreferenceStatus {nowVisible nowSuppressed : List RPSLObjectDict}
    (hupdate : h.updateRoutePreferenceStatus s nowVisible nowSuppressed = some h') :
    TimesFrom key given h h' := by
  obtain ⟨h₁, hvisible, hupdate⟩ := Option.bind_eq_some_iff.mp hupdate
  obtain ⟨h₂, hsuppressed, hupdate⟩ := Option.bind_eq_some_iff.mp hupdate
  cases hupdate
  have hrecorded : TimesFrom key given h h₂ :=
    (timesFrom_recordDicts hvisible).trans (timesFrom_recordDicts hsuppressed)
  have hset (status : RoutePreferenceStatus) (pks : List Nat) (h : DatabaseHandler) :
      TimesFrom key none h (h.setRoutePreferenceStatus status pks) :=
    timesFrom_updateObjects _ _ _ (fun _ ↦ rfl)
  exact (hrecorded.trans (hset _ _ _)).trans (hset _ _ _)

theorem timesFrom_evaluateRoutePreference {prefixes : List Utils.IP}
    (heval : h.evaluateRoutePreference s prefixes = some h') :
    TimesFrom key (givenCreated h.now
      (writtenUpserts s h (.evaluateRoutePreference prefixes)) key) h h' := by
  unfold DatabaseHandler.evaluateRoutePreference at heval
  split at heval
  · next hoff =>
    cases heval
    exact timesFrom_of_eq rfl rfl
  · next hon =>
    have hwritten : writtenUpserts s h (.evaluateRoutePreference prefixes) =
        h.rpslUpsertBuffer := if_neg hon
    rw [hwritten]
    obtain ⟨h₁, hflush, heval⟩ := Option.bind_eq_some_iff.mp heval
    split at heval
    · cases heval
      exact timesFrom_flush hflush
    · exact (timesFrom_flush hflush).trans (timesFrom_updateRoutePreferenceStatus heval)

/-- Removing objects keeps those that are suspended. -/
theorem timesFrom_removeObjects (removed : RPSLDatabaseObject → Bool) :
    TimesFrom key given h (h.removeObjects removed) := by
  apply timesFrom_of_rows
  · intro row hrow
    exact ⟨row, List.mem_of_mem_filter hrow, rfl, rfl⟩
  · exact fun row hrow ↦ Or.inl hrow

theorem timesFrom_delete {origin : JournalEntryOrigin} {a : DatabaseHandler.DeleteArguments}
    {sourceSerial : Option Nat} {protect : Bool}
    (hdelete : h.deleteRpslObject s origin a sourceSerial protect = some h') :
    TimesFrom key (givenCreated h.now h.rpslUpsertBuffer key) h h' := by
  unfold DatabaseHandler.deleteRpslObject at hdelete
  obtain ⟨h₁, hflush, hdelete⟩ := Option.bind_eq_some_iff.mp hdelete
  apply (timesFrom_flush hflush).trans
  split at hdelete
  · cases hdelete
    exact timesFrom_of_eq rfl rfl
  · next row _ =>
    obtain ⟨h₂, hop, hdelete⟩ := Option.bind_eq_some_iff.mp hdelete
    obtain ⟨hobjects, hsuspended⟩ := tables_recordOperation hop
    refine (timesFrom_removeObjects (fun r ↦ r.key = row.key)).trans ?_
    dsimp only at hdelete
    split at hdelete
    · cases hdelete
      exact timesFrom_of_eq hobjects hsuspended
    · cases hdelete
      exact timesFrom_of_eq hobjects hsuspended

/-- A suspended object keeps its creation time. -/
theorem timesFrom_suspend {pk : Nat} (hsuspend : h.suspendRpslObject s pk = some h') :
    TimesFrom key (givenCreated h.now h.rpslUpsertBuffer key) h h' := by
  unfold DatabaseHandler.suspendRpslObject at hsuspend
  obtain ⟨h₁, hflush, hsuspend⟩ := Option.bind_eq_some_iff.mp hsuspend
  apply (timesFrom_flush hflush).trans
  split at hsuspend
  · cases hsuspend
    exact timesFrom_of_eq rfl rfl
  · next row hrow =>
    obtain ⟨mntners, -, hsuspend⟩ := Option.bind_eq_some_iff.mp hsuspend
    obtain ⟨h₂, hop, hsuspend⟩ := Option.bind_eq_some_iff.mp hsuspend
    cases hsuspend
    obtain ⟨hobjects, hsuspended⟩ := tables_recordOperation hop
    have hmem : row ∈ h₁.working.objects.rows :=
      List.mem_of_mem_filter (hrow ▸ List.mem_singleton_self row)
    apply timesFrom_of_rows
    · intro other hother
      have hkept : other ∈ h₂.working.objects.rows := hother
      rw [hobjects] at hkept
      exact ⟨other, List.mem_of_mem_filter hkept, rfl, rfl⟩
    · intro other hother
      have hmoved : other ∈ h₂.working.suspended := hother
      rw [hsuspended] at hmoved
      rcases List.mem_append.mp hmoved with hold | hnew
      · exact Or.inl hold
      · rw [List.mem_singleton.mp hnew]
        exact Or.inr ⟨row, hmem, rfl, rfl⟩
  · cases hsuspend

theorem suspended_finaliseTransaction (h : DatabaseHandler) :
    (h.finaliseTransaction s).working.suspended = h.working.suspended := by
  show (h.statusTracker.sourcesSeen.foldl (DatabaseHandler.seeStatusRow s) h).working.suspended = _
  induction h.statusTracker.sourcesSeen generalizing h with
  | nil => rfl
  | cons source sources ih => exact ih (h.seeStatusRow s source)

theorem timesFrom_preCommit (hempty : h.rpslUpsertBuffer = []) (hpre : h.preCommit s = some h') :
    TimesFrom key given h h' := by
  unfold DatabaseHandler.preCommit at hpre
  dsimp only at hpre
  split at hpre
  · cases hpre
    exact timesFrom_of_eq rfl rfl
  · intro created hcreated
    rcases timesFrom_evaluateRoutePreference hpre created hcreated with hbefore | hgiven
    · exact Or.inl hbefore
    · have hwritten : writtenUpserts s h (.evaluateRoutePreference
          h.changedObjectsTracker.filterPrefixes) = [] := by
        show (if _ then [] else h.rpslUpsertBuffer) = []
        rw [hempty, ite_self]
      rw [hwritten] at hgiven
      cases hgiven

theorem timesFrom_commit (hcommit : h.commit s = some h') :
    TimesFrom key (givenCreated h.now h.rpslUpsertBuffer key) h h' ∧
      h'.committed = h'.working := by
  unfold DatabaseHandler.commit at hcommit
  obtain ⟨h₁, hflush, hcommit⟩ := Option.bind_eq_some_iff.mp hcommit
  obtain ⟨h₂, hroas, hcommit⟩ := Option.bind_eq_some_iff.mp hcommit
  obtain ⟨roas, rfl⟩ := DatabaseHandler.flushRoaWritingBuffer_eq_some hroas
  obtain ⟨h₃, hpre, hcommit⟩ := Option.bind_eq_some_iff.mp hcommit
  cases hcommit
  refine ⟨?_, rfl⟩
  have hflushed : TimesFrom key (givenCreated h.now h.rpslUpsertBuffer key) h h₁ :=
    timesFrom_flush hflush
  have hempty := (flush_pending hflush).1
  have hframe := (finaliseTransaction_spec (s := s)
    { h₁ with working := { h₁.working with roas }, roaInsertBuffer := [] }).1
  have hsuspended := suspended_finaliseTransaction (s := s)
    { h₁ with working := { h₁.working with roas }, roaInsertBuffer := [] }
  have hlast {h₂ : DatabaseHandler} (hpre : h₂.preCommit s = some h₃)
      (hobjects : h₂.working.objects = h₁.working.objects)
      (hsuspended : h₂.working.suspended = h₁.working.suspended)
      (hbuffer : h₂.rpslUpsertBuffer = []) : TimesFrom key none h₁ h₃ :=
    (timesFrom_of_eq hobjects hsuspended).trans (timesFrom_preCommit hbuffer hpre)
  apply hflushed.trans
  split at hpre
  · exact hlast hpre hframe.objects hsuspended (hframe.buffer.trans hempty)
  · exact hlast hpre hframe.objects hsuspended (hframe.buffer.trans hempty)

/-- What an operation other than a rollback does to the creation times of an object. -/
theorem timesFrom_perform {op : HandlerOperation} (hop : op ≠ .rollback)
    (hperform : h.perform s op = some h') :
    TimesFrom key (givenCreated h.now (writtenUpserts s h op) key) h h' := by
  cases op with
  | upsertRpslObject o origin guaranteed sourceSerial created => exact timesFrom_upsert hperform
  | updateRpkiStatus nowValid nowInvalid nowNotFound =>
    obtain ⟨h₁, hvisible, hinvisible⟩ := Option.bind_eq_some_iff.mp hperform
    have hset (status : RPKIStatus) (pks : List Nat) (h : DatabaseHandler) :
        TimesFrom key none h (h.setRpkiStatus status pks) :=
      timesFrom_updateObjects _ _ _ (fun _ ↦ rfl)
    have hrecorded : TimesFrom key none _ h' :=
      (timesFrom_recordDicts hvisible).trans (timesFrom_recordDicts hinvisible)
    exact ((hset _ _ _).trans ((hset _ _ _).trans ((hset _ _ _).trans hrecorded))).of_none
  | updateScopefilterStatus nowInScope nowOutScopeAs nowOutScopePrefix =>
    obtain ⟨h₁, hvisible, hinvisible⟩ := Option.bind_eq_some_iff.mp hperform
    have hset (status : ScopeFilterStatus) (rpslPks : List String) (h : DatabaseHandler) :
        TimesFrom key none h (h.setScopefilterStatus status rpslPks) :=
      timesFrom_updateObjects _ _ _ (fun _ ↦ rfl)
    have hrecorded : TimesFrom key none _ h' :=
      (timesFrom_recordDicts hvisible).trans (timesFrom_recordDicts hinvisible)
    exact ((hset _ _ _).trans ((hset _ _ _).trans ((hset _ _ _).trans hrecorded))).of_none
  | updateRoutePreferenceStatus nowVisible nowSuppressed =>
    exact timesFrom_updateRoutePreferenceStatus hperform
  | evaluateRoutePreference filterPrefixes => exact timesFrom_evaluateRoutePreference hperform
  | deleteRpslObject origin a sourceSerial protect => exact timesFrom_delete hperform
  | suspendRpslObject pk => exact timesFrom_suspend hperform
  | deleteSuspendedRpslObjects pks =>
    obtain ⟨h₁, hflush, hdelete⟩ := Option.bind_eq_some_iff.mp hperform
    cases hdelete
    refine (timesFrom_flush hflush).trans (timesFrom_of_rows ?_ ?_)
    · exact fun row hrow ↦ ⟨row, hrow, rfl, rfl⟩
    · exact fun row hrow ↦ Or.inl (List.mem_of_mem_filter hrow)
  | deleteJournalEntriesBeforeDate timestamp source =>
    obtain ⟨h₁, hflush, hexpire⟩ := Option.bind_eq_some_iff.mp hperform
    cases hexpire
    exact (timesFrom_flush hflush).trans (timesFrom_of_eq rfl rfl)
  | deleteAllRpslObjectsWithJournal source guaranteed =>
    obtain ⟨h₁, hflush, hreload⟩ := Option.bind_eq_some_iff.mp hperform
    cases hreload
    refine (timesFrom_flush hflush).trans (timesFrom_of_rows ?_ ?_)
    · exact fun row hrow ↦ ⟨row, List.mem_of_mem_filter hrow, rfl, rfl⟩
    · exact fun row hrow ↦ Or.inl hrow
  | executeQuery => exact timesFrom_flush hperform
  | commit => exact (timesFrom_commit hperform).1
  | rollback => exact absurd rfl hop
  | _ =>
    cases hperform
    exact timesFrom_of_eq rfl rfl

end Steps

section Runs

variable {s : Settings} {key : ObjectKey} {db : Database} {h : DatabaseHandler} {t t' : CreationRun}
  {a : HandlerAction}

/-- A handler that is opened on a database. -/
def CreationRun.opened (key : ObjectKey) (db : Database) (h : DatabaseHandler) : CreationRun :=
  ⟨DatabaseHandler.opened db h, firstAfter key none db, firstAfter key none db⟩

/-- What holds between the steps of a run. -/
structure CreationInvariant (key : ObjectKey) (t : CreationRun) : Prop where
  working : CreationStable key t.first t.handler.working
  committed : CreationStable key t.committedFirst t.handler.committed

/-- Writing an object keeps its creation time where what is written has that. -/
theorem creationStable_step {given : Option Nat} {h h' : DatabaseHandler} {first : Option Nat}
    (hstable : CreationStable key first h.working) (htimes : TimesFrom key given h h')
    (hbrings : ∀ f ∈ first, ∀ created ∈ given, created = f) :
    CreationStable key (firstAfter key first h'.working) h'.working := by
  rw [creationStable_iff] at hstable
  have hfirst : ∀ f, first = some f → ∀ created ∈ creationTimes key h'.working, created = f := by
    intro f hf created hcreated
    rcases htimes created hcreated with hbefore | hgiven
    · exact Option.some_inj.mp ((hstable created hbefore).symm.trans hf)
    · exact hbrings f hf created hgiven
  apply creationStable_firstAfter _ hfirst
  intro created hcreated created' hcreated'
  cases hf : first with
  | some f => rw [hfirst f hf created hcreated, hfirst f hf created' hcreated']
  | none =>
    -- The object was not stored, so all of its times are the given one.
    have hgiven : ∀ c ∈ creationTimes key h'.working, given = some c := by
      intro c hc
      rcases htimes c hc with hbefore | hgiven
      · cases hf.symm.trans (hstable c hbefore)
      · exact hgiven
    exact Option.some_inj.mp ((hgiven created hcreated).symm.trans (hgiven created' hcreated'))

theorem CreationInvariant.step (hinv : CreationInvariant key t) (hbrings : BringsCreated s key t a)
    (hstep : creationStep s key t a = some t') : CreationInvariant key t' := by
  obtain ⟨h, hperform, rfl⟩ := Option.map_eq_some_iff.mp hstep
  unfold DatabaseHandler.step at hperform
  unfold BringsCreated at hbrings
  have hworking (hop : a.operation ≠ .rollback) :
      CreationStable key (firstAfter key t.first h.working) h.working :=
    creationStable_step (h := { t.handler with now := a.now }) hinv.working
      (timesFrom_perform hop hperform) hbrings
  have hcommitted (hop : a.operation ≠ .commit) : h.committed = t.handler.committed :=
    committed_perform (h := { t.handler with now := a.now }) hop hperform
  split
  · next hop =>
    rw [hop] at hperform
    cases hperform
    exact ⟨hinv.committed, hinv.committed⟩
  · next hop =>
    have hstable := hworking (by rw [hop]; nofun)
    rw [hop] at hperform
    refine ⟨hstable, ?_⟩
    obtain ⟨-, hcommitted⟩ := @timesFrom_commit s key _ _ hperform
    rw [hcommitted]
    exact hstable
  · next hrollback hcommit =>
    refine ⟨hworking hrollback, ?_⟩
    rw [hcommitted hcommit]
    exact hinv.committed

/-- A flush keeps the creation time of a stored object exactly if what is written for the object
has that creation time. -/
theorem created_kept_iff {h flushed : DatabaseHandler} {row : RPSLDatabaseObject}
    (hflush : h.flushRpslObjectWritingBuffer s = some flushed)
    (hrow : h.working.objects.find key = some row) :
    (∃ row', flushed.working.objects.find key = some row' ∧ row'.created = row.created) ↔
      ∀ created ∈ givenCreated h.now h.rpslUpsertBuffer key, created = row.created := by
  have hcreated := created_flushed hflush key
  rw [hrow] at hcreated
  rw [← Option.map_eq_some_iff, hcreated]
  cases givenCreated h.now h.rpslUpsertBuffer key with
  | none => simp
  | some given => simp

/-- For every database in which the object has one creation time at most, and every run of a handler
that is opened on it: as long as what is written for the object has the creation time of its first
insert, it is stored and suspended with that one only, as the transaction sees it and as committed.
In every state reached the next statement keeps the time of the stored object only then. -/
theorem created_of_reaches
    (hdb : ∀ created ∈ creationTimes key db, ∀ created' ∈ creationTimes key db,
      created = created')
    (hrun : Reaches (creationStep s key) (BringsCreated s key) (.opened key db h) t) :
    CreationStable key t.first t.handler.working ∧
      CreationStable key t.committedFirst t.handler.committed ∧
      ∀ now flushed row,
        DatabaseHandler.flushRpslObjectWritingBuffer s { t.handler with now } = some flushed →
        t.handler.working.objects.find key = some row →
          ((∃ row', flushed.working.objects.find key = some row' ∧ row'.created = row.created) ↔
            ∀ created ∈ givenCreated now t.handler.rpslUpsertBuffer key,
              created = row.created) := by
  have hopened : CreationStable key (firstAfter key none db) db :=
    creationStable_firstAfter hdb nofun
  have hinv : CreationInvariant key t :=
    hrun.invariant (P := CreationInvariant key) (fun hinv ↦ hinv.step) ⟨hopened, hopened⟩
  refine ⟨hinv.working, hinv.committed, ?_⟩
  intro now flushed row hflush hrow
  exact created_kept_iff hflush hrow

end Runs

section Examples

/-- The key of a person. -/
def personKey : ObjectKey := ⟨"A", "TEST", "person"⟩

/-- A handler that is opened on a database without rows. -/
def newCreationRun : CreationRun := .opened personKey emptyDatabase newHandler

/-- A person is created, suspended and reactivated. -/
def reactivatedActions : List HandlerAction :=
  [upsertAction 0 (personObject "A"), ⟨0, .commit⟩, ⟨1, .suspendRpslObject 0⟩, ⟨1, .commit⟩,
    ⟨3, .executeQuery⟩, ⟨3, .upsertRpslObject (personObject "A") .suspension false none (some 0)⟩,
    ⟨3, .deleteSuspendedRpslObjects [1]⟩, ⟨3, .commit⟩]

/-- The run of these actions, where what is written has the first creation time. -/
def reactivatedRun : CreationRun :=
  (reactivatedActions.foldlM (fun t a ↦
    if BringsCreated localSettings personKey t a then creationStep localSettings personKey t a
    else none) newCreationRun).get rfl

theorem created_reactivatedRun :
    (reactivatedRun.handler.committed.objects.find personKey).map RPSLDatabaseObject.created =
        some 0 ∧
      CreationStable personKey reactivatedRun.first reactivatedRun.handler.working ∧
      CreationStable personKey reactivatedRun.committedFirst reactivatedRun.handler.committed ∧
      ∀ now flushed row,
        DatabaseHandler.flushRpslObjectWritingBuffer localSettings
          { reactivatedRun.handler with now } = some flushed →
        reactivatedRun.handler.working.objects.find personKey = some row →
          ((∃ row', flushed.working.objects.find personKey = some row' ∧
              row'.created = row.created) ↔
            ∀ created ∈ givenCreated now reactivatedRun.handler.rpslUpsertBuffer personKey,
              created = row.created) := by
  refine ⟨rfl, @created_of_reaches localSettings personKey emptyDatabase newHandler _ nofun ?_⟩
  exact Reaches.of_foldlM reactivatedActions (Option.some_get rfl).symm

/-- The same person is submitted in two transactions. -/
def resubmittedActions : List HandlerAction :=
  [upsertAction 0 (personObject "A"), ⟨0, .commit⟩, upsertAction 2 (personObject "A"), ⟨2, .commit⟩]

/-- The second upsert replaces the creation time. -/
theorem created_resubmitted : ∃ t,
    Reaches (creationStep localSettings personKey) (fun _ _ ↦ True) newCreationRun t ∧
      t.committedFirst = some 0 ∧
      (t.handler.committed.objects.find personKey).map RPSLDatabaseObject.created = some 2 ∧
      ¬ CreationStable personKey t.committedFirst t.handler.committed := by
  refine ⟨(resubmittedActions.foldlM (fun t a ↦
    if True then creationStep localSettings personKey t a else none) newCreationRun).get rfl,
      Reaches.of_foldlM resubmittedActions (Option.some_get rfl).symm, rfl, rfl, ?_⟩
  intro hstable
  cases hstable.row _ rfl

end Examples

end Irrd.Updates
