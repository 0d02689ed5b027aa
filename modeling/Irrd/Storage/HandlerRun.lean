import Irrd.Base.Reaches
import Irrd.Storage.DatabaseHandler

/-!
# Runs of the database handler

The operations of a handler as actions, each at a time of the clock, and what an operation can
do to the journal: most operations change nothing that serials depend on, except that they
record operations.
-/

namespace Irrd.Storage

open Irrd.Base Irrd.Conf Irrd.Rpsl Irrd.Utils

/-- The operations of a handler. -/
inductive HandlerOperation
  | upsertRpslObject (o : RPSLObject) (origin : JournalEntryOrigin)
      (rpslGuaranteedNoExisting : Bool) (sourceSerial forcedCreatedValue : Option Nat)
  | updateRpkiStatus (nowValid nowInvalid nowNotFound : List (ChangedObjectDict RPKIStatus))
  | updateScopefilterStatus
      (nowInScope nowOutScopeAs nowOutScopePrefix : List (ChangedObjectDict ScopeFilterStatus))
  | updateRoutePreferenceStatus (nowVisible nowSuppressed : List RPSLObjectDict)
  | evaluateRoutePreference (filterPrefixes : List IP)
  | deleteRpslObject (origin : JournalEntryOrigin) (a : DatabaseHandler.DeleteArguments)
      (sourceSerial : Option Nat) (protectRpslName : Bool)
  | suspendRpslObject (pk : Nat)
  | deleteSuspendedRpslObjects (pks : List Nat)
  | deleteJournalEntriesBeforeDate (timestamp : Nat) (source : String)
  | deleteAllRpslObjectsWithJournal (source : String) (journalGuaranteedEmpty : Bool)
  | insertRoaObject (roa : ROAInsert)
  | deleteAllRoaObjects
  | setForceReload (source : String)
  | recordSerialNewestMirror (source : String) (serial : Nat)
  | recordSerialSeen (source : String) (serial : Nat)
  | recordMirrorError (source error : String)
  | recordSerialExported (source : String) (serial : Nat)
  | recordNrtm4ClientStatus (source : String) (status : NRTM4ClientDatabaseStatus)
  | recordNrtm4ServerStatus (source : String) (status : NRTM4ServerDatabaseStatus)
  | executeQuery
  | disableJournaling
  | enableJournaling
  | commit
  | rollback

/-- An operation at a time. -/
structure HandlerAction where
  now : Nat
  operation : HandlerOperation

/-- The operation of an action. One that raises a database error is no step. -/
def DatabaseHandler.perform (s : Settings) (h : DatabaseHandler) :
    HandlerOperation → Option DatabaseHandler
  | .upsertRpslObject o origin guaranteed sourceSerial created =>
    h.upsertRpslObject s o origin guaranteed sourceSerial created
  | .updateRpkiStatus nowValid nowInvalid nowNotFound =>
    h.updateRpkiStatus s nowValid nowInvalid nowNotFound
  | .updateScopefilterStatus nowInScope nowOutScopeAs nowOutScopePrefix =>
    h.updateScopefilterStatus s nowInScope nowOutScopeAs nowOutScopePrefix
  | .updateRoutePreferenceStatus nowVisible nowSuppressed =>
    h.updateRoutePreferenceStatus s nowVisible nowSuppressed
  | .evaluateRoutePreference filterPrefixes => h.evaluateRoutePreference s filterPrefixes
  | .deleteRpslObject origin a sourceSerial protect =>
    h.deleteRpslObject s origin a sourceSerial protect
  | .suspendRpslObject pk => h.suspendRpslObject s pk
  | .deleteSuspendedRpslObjects pks => h.deleteSuspendedRpslObjects s pks
  | .deleteJournalEntriesBeforeDate timestamp source =>
    h.deleteJournalEntriesBeforeDate s timestamp source
  | .deleteAllRpslObjectsWithJournal source guaranteed =>
    h.deleteAllRpslObjectsWithJournal s source guaranteed
  | .insertRoaObject roa => some (h.insertRoaObject roa)
  | .deleteAllRoaObjects => some h.deleteAllRoaObjects
  | .setForceReload source => some (h.setForceReload s source)
  | .recordSerialNewestMirror source serial => some (h.recordSerialNewestMirror source serial)
  | .recordSerialSeen source serial => some (h.recordSerialSeen source serial)
  | .recordMirrorError source error => some (h.recordMirrorError source error)
  | .recordSerialExported source serial => some (h.recordSerialExported source serial)
  | .recordNrtm4ClientStatus source status => some (h.recordNrtm4ClientStatus source status)
  | .recordNrtm4ServerStatus source status => some (h.recordNrtm4ServerStatus source status)
  | .executeQuery => h.flushRpslObjectWritingBuffer s
  | .disableJournaling => some h.disableJournaling
  | .enableJournaling => some h.enableJournaling
  | .commit => h.commit s
  | .rollback => some h.rollback

/-- One action of a handler. -/
def DatabaseHandler.step (s : Settings) (h : DatabaseHandler) (a : HandlerAction) :
    Option DatabaseHandler :=
  DatabaseHandler.perform s { h with now := a.now } a.operation

/-- Nothing that serials depend on differs. -/
structure SameSerials (h h' : DatabaseHandler) : Prop where
  committed : h'.committed = h.committed
  journal : h'.working.journal = h.working.journal
  status : h'.working.status = h.working.status
  journalingEnabled : h'.journalingEnabled = h.journalingEnabled
  tracker : h'.statusTracker = h.statusTracker
  now : h'.now = h.now
  written : h'.written = h.written

/-- The second handler is the first after recording some operations, with changes in between
that serials do not depend on. -/
inductive Recorded (s : Settings) (h : DatabaseHandler) : DatabaseHandler → Prop
  | refl : Recorded s h h
  | same {h₁ h₂ : DatabaseHandler} : Recorded s h h₁ → SameSerials h₁ h₂ → Recorded s h h₂
  | record {h₁ h₂ : DatabaseHandler} (op : Operation) :
    Recorded s h h₁ → h₁.recordOperation s op = some h₂ → Recorded s h h₂

namespace Recorded

variable {s : Settings} {h h₁ h₂ : DatabaseHandler}

theorem of_same (hsame : SameSerials h h₁) : Recorded s h h₁ := .same .refl hsame

theorem of_record {op : Operation} (hop : h.recordOperation s op = some h₁) :
    Recorded s h h₁ := .record op .refl hop

theorem trans (h₀ : Recorded s h h₁) (h' : Recorded s h₁ h₂) : Recorded s h h₂ := by
  induction h' with
  | refl => exact h₀
  | same _ hsame ih => exact .same ih hsame
  | record op _ hop ih => exact .record op ih hop

theorem after (h' : Recorded s h₁ h₂) (hsame : SameSerials h h₁) : Recorded s h h₂ :=
  (of_same hsame).trans h'

/-- What recording and unrelated changes preserve holds afterwards. -/
theorem invariant {P : DatabaseHandler → Prop} (hrec : Recorded s h h₁)
    (hsame : ∀ {a b}, P a → SameSerials a b → P b)
    (hop : ∀ {a b op}, P a → a.recordOperation s op = some b → P b) (hP : P h) : P h₁ := by
  induction hrec with
  | refl => exact hP
  | same _ h' ih => exact hsame ih h'
  | record op _ h' ih => exact hop ih h'

/-- Recording one item after the other. -/
theorem of_foldlM {A : Type} {f : DatabaseHandler → A → Option DatabaseHandler} {items : List A}
    (hf : ∀ {a b : DatabaseHandler} {item}, item ∈ items → f a item = some b → Recorded s a b)
    (hfold : items.foldlM f h = some h₁) : Recorded s h h₁ := by
  induction items generalizing h with
  | nil =>
    cases hfold
    exact .refl
  | cons item items ih =>
    rw [List.foldlM_cons] at hfold
    obtain ⟨h', hitem, hfold⟩ := Option.bind_eq_some_iff.mp hfold
    exact (hf List.mem_cons_self hitem).trans
      (ih (fun hmem ↦ hf (List.mem_cons_of_mem _ hmem)) hfold)

end Recorded

section Operations

variable {s : Settings} {h h' : DatabaseHandler}

theorem sameSerials_objectModified (h : DatabaseHandler) (objectClass source : String)
    (changed : Option ChangedPrefix) (origin : Option JournalEntryOrigin) :
    SameSerials h (h.objectModified objectClass source changed origin) :=
  ⟨rfl, rfl, rfl, rfl, rfl, rfl, rfl⟩

theorem sameSerials_updateObjects (h : DatabaseHandler) (matching : RPSLDatabaseObject → Bool)
    (set : RPSLDatabaseObject → RPSLDatabaseObject) (hset : ∀ row, (set row).key = row.key) :
    SameSerials h (h.updateObjects matching set hset) :=
  ⟨rfl, rfl, rfl, rfl, rfl, rfl, rfl⟩

theorem sameSerials_writeObjects (hwrite : h.writeObjects = some h') : SameSerials h h' := by
  simp only [DatabaseHandler.writeObjects] at hwrite
  split at hwrite
  · cases hwrite
  · split at hwrite
    · obtain ⟨objects, -, rfl⟩ := Option.map_eq_some_iff.mp hwrite
      exact ⟨rfl, rfl, rfl, rfl, rfl, rfl, rfl⟩
    · split at hwrite
      · cases hwrite
        exact ⟨rfl, rfl, rfl, rfl, rfl, rfl, rfl⟩
      · cases hwrite

theorem recorded_flush (hflush : h.flushRpslObjectWritingBuffer s = some h') :
    Recorded s h h' := by
  unfold DatabaseHandler.flushRpslObjectWritingBuffer at hflush
  split at hflush
  · cases hflush
    exact .refl
  · obtain ⟨h₁, hwrite, hflush⟩ := Option.bind_eq_some_iff.mp hflush
    obtain ⟨h₂, hrecord, hflush⟩ := Option.bind_eq_some_iff.mp hflush
    cases hflush
    refine .same ((Recorded.of_same (sameSerials_writeObjects hwrite)).trans
      (Recorded.of_foldlM ?_ hrecord)) ⟨rfl, rfl, rfl, rfl, rfl, rfl, rfl⟩
    intro a b item _ hitem
    simp only [DatabaseHandler.recordUpsert] at hitem
    split at hitem
    · exact .of_record hitem
    · cases hitem
      exact .refl

theorem recorded_recordDicts {A : Type} {operation : DatabaseOperation}
    {origin : JournalEntryOrigin} {dict : A → RPSLObjectDict} {qualifies : A → Bool}
    {items : List A} (hdicts : h.recordDicts s operation origin dict qualifies items = some h') :
    Recorded s h h' := by
  refine Recorded.of_foldlM ?_ hdicts
  intro a b item _ hitem
  dsimp only at hitem
  split at hitem
  · obtain ⟨c, hop, rfl⟩ := Option.map_eq_some_iff.mp hitem
    exact .same (.of_record hop) (sameSerials_objectModified ..)
  · cases hitem
    exact .refl

theorem recorded_flushIfSeen {o : RPSLObject} (hflush : h.flushIfSeen s o = some h') :
    Recorded s h h' := by
  unfold DatabaseHandler.flushIfSeen at hflush
  split at hflush
  · exact recorded_flush hflush
  · cases hflush
    exact .refl

theorem recorded_flushIfFull (hflush : h.flushIfFull s = some h') : Recorded s h h' := by
  unfold DatabaseHandler.flushIfFull at hflush
  split at hflush
  · exact recorded_flush hflush
  · cases hflush
    exact .refl

theorem recorded_upsert {o : RPSLObject} {origin : JournalEntryOrigin} {guaranteed : Bool}
    {sourceSerial created : Option Nat}
    (hupsert : h.upsertRpslObject s o origin guaranteed sourceSerial created = some h') :
    Recorded s h h' := by
  obtain ⟨h₁, hseen, hfull⟩ := Option.bind_eq_some_iff.mp hupsert
  have hlast : Recorded s h₁ h' :=
    .after (recorded_flushIfFull hfull) ⟨rfl, rfl, rfl, rfl, rfl, rfl, rfl⟩
  exact .after ((recorded_flushIfSeen hseen).trans hlast) ⟨rfl, rfl, rfl, rfl, rfl, rfl, rfl⟩

theorem recorded_updateRpkiStatus
    {nowValid nowInvalid nowNotFound : List (ChangedObjectDict RPKIStatus)}
    (hupdate : h.updateRpkiStatus s nowValid nowInvalid nowNotFound = some h') :
    Recorded s h h' := by
  obtain ⟨h₁, hvisible, hinvisible⟩ := Option.bind_eq_some_iff.mp hupdate
  exact .after ((recorded_recordDicts hvisible).trans (recorded_recordDicts hinvisible))
    ⟨rfl, rfl, rfl, rfl, rfl, rfl, rfl⟩

theorem recorded_updateScopefilterStatus
    {nowInScope nowOutScopeAs nowOutScopePrefix : List (ChangedObjectDict ScopeFilterStatus)}
    (hupdate : h.updateScopefilterStatus s nowInScope nowOutScopeAs nowOutScopePrefix = some h') :
    Recorded s h h' := by
  obtain ⟨h₁, hvisible, hinvisible⟩ := Option.bind_eq_some_iff.mp hupdate
  exact .after ((recorded_recordDicts hvisible).trans (recorded_recordDicts hinvisible))
    ⟨rfl, rfl, rfl, rfl, rfl, rfl, rfl⟩

theorem recorded_updateRoutePreferenceStatus {nowVisible nowSuppressed : List RPSLObjectDict}
    (hupdate : h.updateRoutePreferenceStatus s nowVisible nowSuppressed = some h') :
    Recorded s h h' := by
  obtain ⟨h₁, hvisible, hupdate⟩ := Option.bind_eq_some_iff.mp hupdate
  obtain ⟨h₂, hsuppressed, hupdate⟩ := Option.bind_eq_some_iff.mp hupdate
  cases hupdate
  exact (((recorded_recordDicts hvisible).trans (recorded_recordDicts hsuppressed)).same
    (sameSerials_updateObjects _ _ _ _)).same (sameSerials_updateObjects _ _ _ _)

theorem recorded_evaluateRoutePreference {filterPrefixes : List IP}
    (heval : h.evaluateRoutePreference s filterPrefixes = some h') : Recorded s h h' := by
  unfold DatabaseHandler.evaluateRoutePreference at heval
  split at heval
  · cases heval
    exact .refl
  · obtain ⟨h₁, hflush, heval⟩ := Option.bind_eq_some_iff.mp heval
    refine (recorded_flush hflush).trans ?_
    split at heval
    · cases heval
      exact .refl
    · exact recorded_updateRoutePreferenceStatus heval

theorem recorded_delete {origin : JournalEntryOrigin} {a : DatabaseHandler.DeleteArguments}
    {sourceSerial : Option Nat} {protect : Bool}
    (hdelete : h.deleteRpslObject s origin a sourceSerial protect = some h') :
    Recorded s h h' := by
  unfold DatabaseHandler.deleteRpslObject at hdelete
  obtain ⟨h₁, hflush, hdelete⟩ := Option.bind_eq_some_iff.mp hdelete
  refine (recorded_flush hflush).trans ?_
  split at hdelete
  · cases hdelete
    exact .refl
  · obtain ⟨h₂, hop, hdelete⟩ := Option.bind_eq_some_iff.mp hdelete
    have hremoved : Recorded s h₁ h₂ :=
      .after (.of_record hop) ⟨rfl, rfl, rfl, rfl, rfl, rfl, rfl⟩
    dsimp only at hdelete
    split at hdelete
    · cases hdelete
      exact .same hremoved ⟨rfl, rfl, rfl, rfl, rfl, rfl, rfl⟩
    · cases hdelete
      exact .same hremoved (sameSerials_objectModified ..)

theorem recorded_suspend {pk : Nat} (hsuspend : h.suspendRpslObject s pk = some h') :
    Recorded s h h' := by
  unfold DatabaseHandler.suspendRpslObject at hsuspend
  obtain ⟨h₁, hflush, hsuspend⟩ := Option.bind_eq_some_iff.mp hsuspend
  refine (recorded_flush hflush).trans ?_
  split at hsuspend
  · cases hsuspend
    exact .refl
  · obtain ⟨mntners, -, hsuspend⟩ := Option.bind_eq_some_iff.mp hsuspend
    obtain ⟨h₂, hop, hsuspend⟩ := Option.bind_eq_some_iff.mp hsuspend
    cases hsuspend
    exact .same (.after (.of_record hop) ⟨rfl, rfl, rfl, rfl, rfl, rfl, rfl⟩)
      (sameSerials_objectModified ..)
  · cases hsuspend

theorem recorded_deleteSuspended {pks : List Nat}
    (hdelete : h.deleteSuspendedRpslObjects s pks = some h') : Recorded s h h' := by
  obtain ⟨h₁, hflush, hdelete⟩ := Option.bind_eq_some_iff.mp hdelete
  cases hdelete
  exact .same (recorded_flush hflush) ⟨rfl, rfl, rfl, rfl, rfl, rfl, rfl⟩

end Operations

/-- What inserting a journal entry changes. -/
structure EntryInserted (op : Operation) (serial : Nat) (h h' : DatabaseHandler) : Prop where
  entry : ∃ e : RPSLDatabaseJournal, e.source = op.source ∧ e.serialNrtm = serial ∧
    e.rpslPk = op.rpslPk ∧ e.objectClass = op.objectClass ∧ e.operation = op.operation ∧
    e.objectText = op.objectText ∧ e.origin = op.origin ∧ e.timestamp = h.now ∧
    h'.working.journal.rows = h.working.journal.rows ++ [e] ∧ h'.written = h.written ++ [e]
  fresh : serial ∉ h.working.journal.serials op.source
  objects : h'.working.objects = h.working.objects
  status : h'.working.status = h.working.status
  newSerials : h'.statusTracker.newSerialsPerSource =
    Function.update h.statusTracker.newSerialsPerSource op.source
      (serial :: h.statusTracker.newSerialsPerSource op.source)

/-- What recording an operation leaves alone. -/
structure RecordFrame (s : Settings) (op : Operation) (h h' : DatabaseHandler) : Prop where
  committed : h'.committed = h.committed
  journalingEnabled : h'.journalingEnabled = h.journalingEnabled
  now : h'.now = h.now
  objects : h'.working.objects = h.working.objects
  buffer : h'.rpslUpsertBuffer = h.rpslUpsertBuffer
  pending : h'.rpslPkSourceSeen = h.rpslPkSourceSeen
  guaranteed : h'.rpslGuaranteedNoExisting = h.rpslGuaranteedNoExisting
  nextPk : h'.nextPk = h.nextPk
  changed : h'.changedObjectsTracker = h.changedObjectsTracker
  seen : h'.statusTracker.sourcesSeen = h.statusTracker.sourcesSeen.insert op.source
  synchronised : ∀ source, h'.isSerialSynchronised s source = h.isSerialSynchronised s source

section Recording

variable {s : Settings} {h h' : DatabaseHandler} {op : Operation}

/-- The cached answer is the answer. -/
theorem isSerialSynchronised_cacheSynchronised (source other : String) :
    (h.cacheSynchronised s source).isSerialSynchronised s other =
      h.isSerialSynchronised s other := by
  unfold DatabaseHandler.cacheSynchronised
  by_cases hother : other = source
  · subst hother
    simp [DatabaseHandler.isSerialSynchronised]
  · simp [DatabaseHandler.isSerialSynchronised, Function.update_of_ne hother]

theorem insertJournal_eq_some {serial : Nat} (hinsert : h.insertJournal op serial = some h') :
    EntryInserted op serial h h' := by
  obtain ⟨journal, hjournal, rfl⟩ := Option.map_eq_some_iff.mp hinsert
  obtain ⟨hnone, hrows⟩ := KeyedTable.append_eq_some hjournal
  refine ⟨⟨_, rfl, rfl, rfl, rfl, rfl, rfl, rfl, rfl, hrows, rfl⟩, ?_, rfl, rfl, rfl⟩
  intro hmem
  obtain ⟨e, he, hserial⟩ := List.mem_map.mp hmem
  obtain ⟨hrow, hsource⟩ := List.mem_filter.mp he
  apply (KeyedTable.find_eq_none_iff _ _).mp hnone e hrow
  simp only [RPSLDatabaseJournal.key, hserial]
  rw [of_decide_eq_true hsource]

/-- Recording an operation: either there is no journal to write, or an entry is inserted under
the next serial. -/
theorem recordOperation_eq_some (hrecord : h.recordOperation s op = some h') :
    RecordFrame s op h h' ∧
      ((h.journalingEnabled && s.keepJournal op.source) = false ∧
          h' = h.seeSource op.source ∨
        (h.journalingEnabled && s.keepJournal op.source) = true ∧
          ∃ serial, h.serialFor s op.source op.sourceSerial = some serial ∧
            EntryInserted op serial h h') := by
  unfold DatabaseHandler.recordOperation at hrecord
  dsimp only at hrecord
  split at hrecord
  · next hjournaling =>
    split at hrecord
    · cases hrecord
    · next serial hserial =>
      have hinserted := insertJournal_eq_some hrecord
      refine ⟨?_, Or.inr ⟨hjournaling, serial, hserial, ?_⟩⟩
      · obtain ⟨journal, -, rfl⟩ := Option.map_eq_some_iff.mp hrecord
        exact ⟨rfl, rfl, rfl, rfl, rfl, rfl, rfl, rfl, rfl, rfl,
          isSerialSynchronised_cacheSynchronised (h := h.seeSource op.source) op.source⟩
      · exact ⟨hinserted.entry, hinserted.fresh, hinserted.objects, hinserted.status,
          hinserted.newSerials⟩
  · next hjournaling =>
    cases hrecord
    exact ⟨⟨rfl, rfl, rfl, rfl, rfl, rfl, rfl, rfl, rfl, rfl, fun _ ↦ rfl⟩,
      Or.inl ⟨(Bool.not_eq_true _).mp hjournaling, rfl⟩⟩

/-- Serials of a source after an entry of some source is inserted. -/
theorem EntryInserted.serials {serial : Nat} (hinserted : EntryInserted op serial h h')
    (source : String) : h'.working.journal.serials source =
      h.working.journal.serials source ++ if op.source = source then [serial] else [] := by
  obtain ⟨e, hsource, hserial, -, -, -, -, -, -, hrows, -⟩ := hinserted.entry
  unfold JournalTable.serials JournalTable.ofSource
  rw [hrows, List.filter_append, List.map_append]
  by_cases hop : op.source = source <;> simp [hsource, hserial, hop]

/-- What recording operations adds: entries of the present time, at the end of the journal. -/
structure EntriesAdded (s : Settings) (h h' : DatabaseHandler)
    (entries : List RPSLDatabaseJournal) : Prop where
  journal : h'.working.journal.rows = h.working.journal.rows ++ entries
  written : h'.written = h.written ++ entries
  timestamp : ∀ e ∈ entries, e.timestamp = h.now
  now : h'.now = h.now
  committed : h'.committed = h.committed
  journalingEnabled : h'.journalingEnabled = h.journalingEnabled
  status : h'.working.status = h.working.status
  newSerials : ∀ source, h'.statusTracker.newSerialsPerSource source =
    ((entries.filter (fun e ↦ e.source = source)).map
      RPSLDatabaseJournal.serialNrtm).reverse ++ h.statusTracker.newSerialsPerSource source
  seen : ∀ source, source ∈ h.statusTracker.sourcesSeen ∨ (∃ e ∈ entries, e.source = source) →
    source ∈ h'.statusTracker.sourcesSeen
  kept : ∀ e ∈ entries, h.journalingEnabled = true ∧ s.keepJournal e.source = true

theorem recordOperation_entries (hrecord : h.recordOperation s op = some h') :
    ∃ entries, EntriesAdded s h h' entries ∧ (∀ e ∈ entries, e.source = op.source) ∧
      ((h.journalingEnabled && s.keepJournal op.source) = true → entries ≠ []) := by
  obtain ⟨hframe, hcases⟩ := recordOperation_eq_some hrecord
  rcases hcases with ⟨hjournaling, rfl⟩ | ⟨hjournaling, serial, -, hinserted⟩
  · refine ⟨[], ⟨by simp [DatabaseHandler.seeSource], by simp [DatabaseHandler.seeSource], ?_, rfl,
      rfl, rfl, rfl, fun _ ↦ rfl, ?_, ?_⟩, ?_, fun htrue ↦ by simp [hjournaling] at htrue⟩
    · exact fun e he ↦ (List.not_mem_nil he).elim
    · rintro source (hseen | ⟨e, he, -⟩)
      · exact List.mem_insert_of_mem hseen
      · cases he
    · exact fun e he ↦ (List.not_mem_nil he).elim
    · exact fun e he ↦ (List.not_mem_nil he).elim
  · obtain ⟨e, hsource, hserial, -, -, -, -, -, htime, hrows, hwritten⟩ := hinserted.entry
    obtain ⟨hjournaling, hkeep⟩ := Bool.and_eq_true_iff.mp hjournaling
    have hsingle {P : RPSLDatabaseJournal → Prop} (he : P e) : ∀ x ∈ [e], P x :=
      fun x hx ↦ List.mem_singleton.mp hx ▸ he
    refine ⟨[e], ⟨hrows, hwritten, hsingle htime, hframe.now, hframe.committed,
      hframe.journalingEnabled, hinserted.status, ?_, ?_, hsingle ⟨hjournaling, hsource ▸ hkeep⟩⟩,
      hsingle hsource, fun _ ↦ List.cons_ne_nil _ _⟩
    · intro source
      rw [hinserted.newSerials]
      by_cases hop : op.source = source
      · subst hop
        simp [hsource, hserial]
      · simp [hsource, hop, Function.update_of_ne (Ne.symm hop)]
    · rintro source (hseen | ⟨x, hx, rfl⟩)
      · exact hframe.seen ▸ List.mem_insert_of_mem hseen
      · rw [List.mem_singleton.mp hx, hframe.seen, hsource]
        exact List.mem_insert_self

theorem EntriesAdded.refl : EntriesAdded s h h [] :=
  ⟨by simp, by simp, fun _ he ↦ (List.not_mem_nil he).elim, rfl, rfl, rfl, rfl, fun _ ↦ rfl,
    fun _ hs ↦ hs.elim id (fun ⟨_, he, _⟩ ↦ (List.not_mem_nil he).elim),
    fun _ he ↦ (List.not_mem_nil he).elim⟩

theorem EntriesAdded.same {h'' : DatabaseHandler} {entries : List RPSLDatabaseJournal}
    (hadded : EntriesAdded s h h' entries) (hsame : SameSerials h' h'') :
    EntriesAdded s h h'' entries :=
  ⟨hsame.journal ▸ hadded.journal, hsame.written ▸ hadded.written, hadded.timestamp,
    hsame.now.trans hadded.now, hsame.committed.trans hadded.committed,
    hsame.journalingEnabled.trans hadded.journalingEnabled, hsame.status.trans hadded.status,
    hsame.tracker ▸ hadded.newSerials, hsame.tracker ▸ hadded.seen, hadded.kept⟩

theorem EntriesAdded.trans {h'' : DatabaseHandler} {first second : List RPSLDatabaseJournal}
    (hfirst : EntriesAdded s h h' first) (hsecond : EntriesAdded s h' h'' second) :
    EntriesAdded s h h'' (first ++ second) := by
  refine ⟨?_, ?_, ?_, hsecond.now.trans hfirst.now, hsecond.committed.trans hfirst.committed,
    hsecond.journalingEnabled.trans hfirst.journalingEnabled, hsecond.status.trans hfirst.status,
    ?_, ?_, ?_⟩
  · rw [hsecond.journal, hfirst.journal, List.append_assoc]
  · rw [hsecond.written, hfirst.written, List.append_assoc]
  · intro e he
    rcases List.mem_append.mp he with he | he
    · exact hfirst.timestamp e he
    · exact (hsecond.timestamp e he).trans hfirst.now
  · intro source
    rw [hsecond.newSerials, hfirst.newSerials]
    simp
  · rintro source (hseen | ⟨e, he, rfl⟩)
    · exact hsecond.seen source (Or.inl (hfirst.seen source (Or.inl hseen)))
    · rcases List.mem_append.mp he with he | he
      · exact hsecond.seen _ (Or.inl (hfirst.seen _ (Or.inr ⟨e, he, rfl⟩)))
      · exact hsecond.seen _ (Or.inr ⟨e, he, rfl⟩)
  · intro e he
    rcases List.mem_append.mp he with he | he
    · exact hfirst.kept e he
    · exact ⟨hfirst.journalingEnabled ▸ (hsecond.kept e he).1, (hsecond.kept e he).2⟩

theorem Recorded.entries (hrecorded : Recorded s h h') :
    ∃ entries, EntriesAdded s h h' entries := by
  refine hrecorded.invariant (P := fun h' ↦ ∃ entries, EntriesAdded s h h' entries) ?_ ?_
    ⟨[], .refl⟩
  · rintro a b ⟨entries, ha⟩ hsame
    exact ⟨entries, ha.same hsame⟩
  · rintro a b op ⟨entries, ha⟩ hop
    obtain ⟨more, hb, -⟩ := recordOperation_entries hop
    exact ⟨entries ++ more, ha.trans hb⟩

/-- Recording buffered upserts adds entries of the visible ones: one at least for each source
that has one and keeps a journal. -/
theorem recordUpserts_entries {buffer : List BufferedUpsert}
    (hrecord : buffer.foldlM (DatabaseHandler.recordUpsert s) h = some h') :
    ∃ entries, EntriesAdded s h h' entries ∧
      (∀ e ∈ entries, ∃ b ∈ buffer, b.columns.source = e.source ∧ b.columns.isVisible) ∧
      ∀ b ∈ buffer, b.columns.isVisible →
        (h.journalingEnabled && s.keepJournal b.columns.source) = true →
        ∃ e ∈ entries, e.source = b.columns.source := by
  induction buffer generalizing h with
  | nil =>
    cases hrecord
    exact ⟨[], .refl, fun e he ↦ (List.not_mem_nil he).elim,
      fun b hb ↦ (List.not_mem_nil hb).elim⟩
  | cons b buffer ih =>
    rw [List.foldlM_cons] at hrecord
    obtain ⟨h₁, hfirst, hrest⟩ := Option.bind_eq_some_iff.mp hrecord
    obtain ⟨rest, hrestAdded, hrestSources, hrestKept⟩ := ih hrest
    have hrestMem : ∀ e ∈ rest, ∃ b' ∈ b :: buffer,
        b'.columns.source = e.source ∧ b'.columns.isVisible := by
      intro e he
      obtain ⟨b', hb', hsource⟩ := hrestSources e he
      exact ⟨b', List.mem_cons_of_mem _ hb', hsource⟩
    simp only [DatabaseHandler.recordUpsert] at hfirst
    split at hfirst
    · next hvisible =>
      obtain ⟨first, hfirstAdded, hsource, hne⟩ := recordOperation_entries hfirst
      refine ⟨first ++ rest, hfirstAdded.trans hrestAdded, ?_, ?_⟩
      · intro e he
        rcases List.mem_append.mp he with he | he
        · exact ⟨b, List.mem_cons_self, (hsource e he).symm, hvisible⟩
        · exact hrestMem e he
      · intro b' hb' hvisible' hkept
        rcases List.mem_cons.mp hb' with rfl | hb'
        · obtain ⟨e, he⟩ := List.exists_mem_of_ne_nil _ (hne hkept)
          exact ⟨e, List.mem_append_left _ he, hsource e he⟩
        · rw [← hfirstAdded.journalingEnabled] at hkept
          obtain ⟨e, he, hesource⟩ := hrestKept b' hb' hvisible' hkept
          exact ⟨e, List.mem_append_right _ he, hesource⟩
    · next hsuppressed =>
      cases hfirst
      refine ⟨rest, hrestAdded, hrestMem, ?_⟩
      intro b' hb' hvisible' hkept
      rcases List.mem_cons.mp hb' with rfl | hb'
      · exact absurd hvisible' hsuppressed
      · exact hrestKept b' hb' hvisible' hkept

/-- A flush adds entries of visible buffered upserts: one at least for each source that has one
and keeps a journal. -/
theorem flush_entries (hflush : h.flushRpslObjectWritingBuffer s = some h') :
    ∃ entries, EntriesAdded s h h' entries ∧
      (∀ e ∈ entries, ∃ b ∈ h.rpslUpsertBuffer, b.columns.source = e.source ∧
        b.columns.isVisible) ∧
      ∀ b ∈ h.rpslUpsertBuffer, b.columns.isVisible →
        (h.journalingEnabled && s.keepJournal b.columns.source) = true →
        ∃ e ∈ entries, e.source = b.columns.source := by
  unfold DatabaseHandler.flushRpslObjectWritingBuffer at hflush
  split at hflush
  · next hempty =>
    cases hflush
    exact ⟨[], .refl, fun e he ↦ (List.not_mem_nil he).elim,
      fun b hb ↦ (List.not_mem_nil (hempty ▸ hb)).elim⟩
  · obtain ⟨h₁, hwrite, hflush⟩ := Option.bind_eq_some_iff.mp hflush
    obtain ⟨h₂, hrecord, hflush⟩ := Option.bind_eq_some_iff.mp hflush
    cases hflush
    obtain ⟨entries, hadded, hsources, hkept⟩ := recordUpserts_entries hrecord
    have hsame := sameSerials_writeObjects hwrite
    have hlast : SameSerials h₂ { h₂ with rpslPkSourceSeen := [], rpslUpsertBuffer := [] } :=
      ⟨rfl, rfl, rfl, rfl, rfl, rfl, rfl⟩
    rw [hsame.journalingEnabled] at hkept
    exact ⟨entries, (EntriesAdded.refl.same hsame).trans (hadded.same hlast), hsources, hkept⟩

/-- Recording dicts adds entries of those that qualify. -/
theorem recordDicts_entries {A : Type} {operation : DatabaseOperation}
    {origin : JournalEntryOrigin} {dict : A → RPSLObjectDict} {qualifies : A → Bool}
    {items : List A} (hrecord : h.recordDicts s operation origin dict qualifies items = some h') :
    ∃ entries, EntriesAdded s h h' entries ∧
      ∀ e ∈ entries, ∃ item ∈ items, qualifies item ∧ (dict item).source = e.source := by
  unfold DatabaseHandler.recordDicts at hrecord
  induction items generalizing h with
  | nil =>
    cases hrecord
    exact ⟨[], .refl, fun e he ↦ (List.not_mem_nil he).elim⟩
  | cons item items ih =>
    rw [List.foldlM_cons] at hrecord
    obtain ⟨h₁, hfirst, hrest⟩ := Option.bind_eq_some_iff.mp hrecord
    obtain ⟨rest, hrestAdded, hrestItems⟩ := ih hrest
    have hrestMem : ∀ e ∈ rest, ∃ item' ∈ item :: items,
        qualifies item' ∧ (dict item').source = e.source := by
      intro e he
      obtain ⟨item', hitem', hsource⟩ := hrestItems e he
      exact ⟨item', List.mem_cons_of_mem _ hitem', hsource⟩
    dsimp only at hfirst
    split at hfirst
    · next hqualifies =>
      obtain ⟨h₂, hrecord, rfl⟩ := Option.map_eq_some_iff.mp hfirst
      obtain ⟨first, hfirstAdded, hsource, -⟩ := recordOperation_entries hrecord
      have hmodified := hfirstAdded.same (sameSerials_objectModified h₂ (dict item).objectClass
        (dict item).source ((dict item).ipPrefix.map .ofColumn) (some origin))
      refine ⟨first ++ rest, hmodified.trans hrestAdded, fun e he ↦ ?_⟩
      rcases List.mem_append.mp he with he | he
      · exact ⟨item, List.mem_cons_self, hqualifies, (hsource e he).symm⟩
      · exact hrestMem e he
    · cases hfirst
      exact ⟨rest, hrestAdded, hrestMem⟩

/-- Recording upserts leaves the objects and the changes alone. -/
theorem recordUpserts_frame {buffer : List BufferedUpsert}
    (hrecord : buffer.foldlM (DatabaseHandler.recordUpsert s) h = some h') :
    h'.working.objects = h.working.objects ∧
      h'.changedObjectsTracker = h.changedObjectsTracker ∧ h'.nextPk = h.nextPk ∧
      h'.rpslGuaranteedNoExisting = h.rpslGuaranteedNoExisting := by
  induction buffer generalizing h with
  | nil =>
    cases hrecord
    exact ⟨rfl, rfl, rfl, rfl⟩
  | cons b buffer ih =>
    rw [List.foldlM_cons] at hrecord
    obtain ⟨h₁, hfirst, hrest⟩ := Option.bind_eq_some_iff.mp hrecord
    obtain ⟨hobjects, hchanged, hnextPk, hguaranteed⟩ := ih hrest
    simp only [DatabaseHandler.recordUpsert] at hfirst
    split at hfirst
    · obtain ⟨hframe, -⟩ := recordOperation_eq_some hfirst
      exact ⟨hobjects.trans hframe.objects, hchanged.trans hframe.changed,
        hnextPk.trans hframe.nextPk, hguaranteed.trans hframe.guaranteed⟩
    · cases hfirst
      exact ⟨hobjects, hchanged, hnextPk, hguaranteed⟩

/-- Recording dicts leaves the buffer and the objects alone. -/
theorem recordDicts_frame {A : Type} {operation : DatabaseOperation}
    {origin : JournalEntryOrigin} {dict : A → RPSLObjectDict} {qualifies : A → Bool}
    {items : List A} (hdicts : h.recordDicts s operation origin dict qualifies items = some h') :
    h'.rpslUpsertBuffer = h.rpslUpsertBuffer ∧ h'.working.objects = h.working.objects := by
  unfold DatabaseHandler.recordDicts at hdicts
  induction items generalizing h with
  | nil =>
    cases hdicts
    exact ⟨rfl, rfl⟩
  | cons item items ih =>
    rw [List.foldlM_cons] at hdicts
    obtain ⟨h₁, hitem, hdicts⟩ := Option.bind_eq_some_iff.mp hdicts
    obtain ⟨hbuffer, hobjects⟩ := ih hdicts
    dsimp only at hitem
    split at hitem
    · obtain ⟨h₂, hop, rfl⟩ := Option.map_eq_some_iff.mp hitem
      obtain ⟨hframe, -⟩ := recordOperation_eq_some hop
      exact ⟨hbuffer.trans hframe.buffer, hobjects.trans hframe.objects⟩
    · cases hitem
      exact ⟨hbuffer, hobjects⟩

/-- The objects when pending upserts are written. -/
def flushedObjects (h : DatabaseHandler) : Option ObjectTable :=
  if h.rpslUpsertBuffer = [] then some h.working.objects
  else h.writeObjects.map (fun h ↦ h.working.objects)

/-- A flush writes the pending upserts and leaves no more of them. -/
theorem flush_objects (hflush : h.flushRpslObjectWritingBuffer s = some h') :
    flushedObjects h = some h'.working.objects ∧ h'.rpslUpsertBuffer = [] ∧
      h'.changedObjectsTracker = h.changedObjectsTracker := by
  unfold DatabaseHandler.flushRpslObjectWritingBuffer at hflush
  unfold flushedObjects
  split at hflush
  · next hempty =>
    cases hflush
    exact ⟨if_pos hempty, hempty, rfl⟩
  · next hpending =>
    obtain ⟨h₁, hwrite, hflush⟩ := Option.bind_eq_some_iff.mp hflush
    obtain ⟨h₂, hrecord, hflush⟩ := Option.bind_eq_some_iff.mp hflush
    cases hflush
    obtain ⟨hobjects, hchanged, -⟩ := recordUpserts_frame hrecord
    have hwritten : h₁.changedObjectsTracker = h.changedObjectsTracker := by
      simp only [DatabaseHandler.writeObjects] at hwrite
      split at hwrite
      · cases hwrite
      · split at hwrite
        · obtain ⟨objects, -, rfl⟩ := Option.map_eq_some_iff.mp hwrite
          rfl
        · split at hwrite
          · cases hwrite
            rfl
          · cases hwrite
    exact ⟨by rw [if_neg hpending, hwrite, Option.map_some, hobjects], rfl, hchanged.trans hwritten⟩

end Recording

/-- The serial columns of a status row. -/
structure SerialColumns where
  oldestSeen : Option Nat
  newestSeen : Option Nat
  oldestJournal : Option Nat
  newestJournal : Option Nat
  deriving DecidableEq

/-- The columns of a new row. -/
def SerialColumns.unset : SerialColumns := ⟨none, none, none, none⟩

def RPSLDatabaseStatus.serialColumns (row : RPSLDatabaseStatus) : SerialColumns :=
  ⟨row.serialOldestSeen, row.serialNewestSeen, row.serialOldestJournal, row.serialNewestJournal⟩

/-- The serial columns of a source, if it has a status row. -/
def Database.serialColumns (db : Database) (source : String) : Option SerialColumns :=
  (db.status.find source).map RPSLDatabaseStatus.serialColumns

theorem Database.serialColumns_eq_none_iff (db : Database) (source : String) :
    db.serialColumns source = none ↔ db.status.find source = none := by
  simp [Database.serialColumns]

/-- The columns that new serials of a source lead to. -/
def SerialColumns.finalise (c : SerialColumns) (journal transaction : List Nat) : SerialColumns :=
  if transaction = [] then c
  else {
    oldestSeen := least [c.oldestSeen, journal.min?, transaction.min?]
    newestSeen := greatest [c.newestSeen, journal.max?, transaction.max?]
    oldestJournal := journal.min?
    newestJournal := journal.max? }

/-- What finalising a transaction leaves alone. -/
structure FinaliseFrame (s : Settings) (h h' : DatabaseHandler) : Prop where
  committed : h'.committed = h.committed
  objects : h'.working.objects = h.working.objects
  journal : h'.working.journal = h.working.journal
  journalingEnabled : h'.journalingEnabled = h.journalingEnabled
  now : h'.now = h.now
  buffer : h'.rpslUpsertBuffer = h.rpslUpsertBuffer
  nextPk : h'.nextPk = h.nextPk
  changed : h'.changedObjectsTracker = h.changedObjectsTracker
  newSerials : h'.statusTracker.newSerialsPerSource = h.statusTracker.newSerialsPerSource
  seen : h'.statusTracker.sourcesSeen = h.statusTracker.sourcesSeen
  written : h'.written = h.written

section Finalise

variable {s : Settings}

theorem FinaliseFrame.refl (h : DatabaseHandler) : FinaliseFrame s h h :=
  ⟨rfl, rfl, rfl, rfl, rfl, rfl, rfl, rfl, rfl, rfl, rfl⟩

theorem FinaliseFrame.trans {h₁ h₂ h₃ : DatabaseHandler} (h : FinaliseFrame s h₁ h₂)
    (h' : FinaliseFrame s h₂ h₃) : FinaliseFrame s h₁ h₃ :=
  ⟨h'.committed.trans h.committed, h'.objects.trans h.objects, h'.journal.trans h.journal,
    h'.journalingEnabled.trans h.journalingEnabled, h'.now.trans h.now, h'.buffer.trans h.buffer,
    h'.nextPk.trans h.nextPk, h'.changed.trans h.changed, h'.newSerials.trans h.newSerials,
    h'.seen.trans h.seen, h'.written.trans h.written⟩

/-- Seeing the row of one source. -/
theorem serialColumns_seeStatusRow (h : DatabaseHandler) (source other : String) :
    (h.seeStatusRow s source).working.serialColumns other =
      if other = source then some ((h.working.serialColumns other).getD .unset)
      else h.working.serialColumns other := by
  unfold Database.serialColumns DatabaseHandler.seeStatusRow
  rw [KeyedTable.find_upsert]
  by_cases hother : other = source
  · subst hother
    have hsame : (h.newStatusRow s other).source = other := rfl
    rw [if_pos hsame, if_pos rfl]
    cases h.working.status.find other <;> rfl
  · have hne : ¬ (h.newStatusRow s source).source = other := fun he ↦ hother he.symm
    rw [if_neg hne, if_neg hother]

theorem isSerialSynchronised_seeStatusRow (h : DatabaseHandler) (source other : String) :
    (h.seeStatusRow s source).isSerialSynchronised s other = h.isSerialSynchronised s other := by
  by_cases hother : other = source
  · subst hother
    simp [DatabaseHandler.seeStatusRow, DatabaseHandler.cacheSynchronised,
      DatabaseHandler.isSerialSynchronised]
  · have hne : ¬ (h.newStatusRow s source).source = other := fun he ↦ hother he.symm
    simp only [DatabaseHandler.seeStatusRow, DatabaseHandler.cacheSynchronised,
      DatabaseHandler.isSerialSynchronised, Function.update_of_ne hother,
      Database.isSerialSynchronised, KeyedTable.find_upsert, if_neg hne]

/-- Seeing the rows of all sources of the transaction. -/
theorem foldl_seeStatusRow (h : DatabaseHandler) (sources : List String) :
    FinaliseFrame s h (sources.foldl (DatabaseHandler.seeStatusRow s) h) ∧
      (∀ source, (sources.foldl (DatabaseHandler.seeStatusRow s) h).isSerialSynchronised s source =
        h.isSerialSynchronised s source) ∧
      ∀ source, (sources.foldl (DatabaseHandler.seeStatusRow s) h).working.serialColumns source =
        if source ∈ sources then some ((h.working.serialColumns source).getD .unset)
        else h.working.serialColumns source := by
  induction sources generalizing h with
  | nil => exact ⟨.refl h, fun _ ↦ rfl, fun _ ↦ by simp⟩
  | cons first sources ih =>
    obtain ⟨hframe, hsync, hcolumns⟩ := ih (h.seeStatusRow s first)
    have hfirst : FinaliseFrame s h (h.seeStatusRow s first) :=
      ⟨rfl, rfl, rfl, rfl, rfl, rfl, rfl, rfl, rfl, rfl, rfl⟩
    rw [List.foldl_cons]
    refine ⟨hfirst.trans hframe, fun source ↦
      (hsync source).trans (isSerialSynchronised_seeStatusRow h first source), fun source ↦ ?_⟩
    rw [hcolumns, serialColumns_seeStatusRow]
    by_cases hsource : source = first <;> by_cases hmem : source ∈ sources <;>
      simp [hsource, hmem]

/-- Finalising: a row for every source seen, and the columns of sources with new serials. -/
theorem finaliseTransaction_spec (h : DatabaseHandler) :
    FinaliseFrame s h (h.finaliseTransaction s) ∧
      (∀ source, (h.finaliseTransaction s).isSerialSynchronised s source =
        h.isSerialSynchronised s source) ∧
      ∀ source, (h.finaliseTransaction s).working.serialColumns source =
        (if source ∈ h.statusTracker.sourcesSeen then
            some ((h.working.serialColumns source).getD .unset)
          else h.working.serialColumns source).map (fun c ↦ c.finalise
            (h.working.journal.serials source) (h.statusTracker.newSerialsPerSource source)) := by
  obtain ⟨hframe, hsync, hcolumns⟩ := foldl_seeStatusRow (s := s) h h.statusTracker.sourcesSeen
  refine ⟨hframe.trans ⟨rfl, rfl, rfl, rfl, rfl, rfl, rfl, rfl, rfl, rfl, rfl⟩, ?_, ?_⟩
  · intro source
    rw [← hsync source]
    simp only [DatabaseHandler.finaliseTransaction, DatabaseHandler.updateStatus,
      DatabaseHandler.isSerialSynchronised, Database.isSerialSynchronised, KeyedTable.find_map]
    cases (h.statusTracker.sourcesSeen.foldl (DatabaseHandler.seeStatusRow s) h).working.status.find
      source with
    | none => rfl
    | some row =>
      simp only [Option.map_some, Option.all_some, DatabaseHandler.finaliseColumns,
        DatabaseHandler.finaliseSerials]
      split <;> rfl
  · intro source
    rw [← hcolumns]
    simp only [DatabaseHandler.finaliseTransaction, DatabaseHandler.updateStatus,
      Database.serialColumns, KeyedTable.find_map, Option.map_map]
    cases hfind : (h.statusTracker.sourcesSeen.foldl
      (DatabaseHandler.seeStatusRow s) h).working.status.find source with
    | none => rfl
    | some row =>
      have hsource : row.source = source := KeyedTable.find_key hfind
      simp only [Option.map_some, Function.comp_apply, DatabaseHandler.finaliseColumns,
        DatabaseHandler.finaliseSerials, SerialColumns.finalise, hsource, hframe.journal,
        hframe.newSerials]
      split <;> rfl

/-- The flags of a status row: synchronised serials, and whether a full reload is asked for. -/
def RPSLDatabaseStatus.flags (row : RPSLDatabaseStatus) : Bool × Bool :=
  (row.synchronisedSerials, row.forceReload)

/-- The flags of a source, if it has a status row. -/
def Database.flags (db : Database) (source : String) : Option (Bool × Bool) :=
  (db.status.find source).map RPSLDatabaseStatus.flags

/-- Seeing the row of one source sets its flags. -/
theorem flags_seeStatusRow (h : DatabaseHandler) (source other : String) :
    (h.seeStatusRow s source).working.flags other =
      if other = source then some (h.isSerialSynchronised s source, false)
      else h.working.flags other := by
  unfold Database.flags DatabaseHandler.seeStatusRow
  rw [KeyedTable.find_upsert]
  by_cases hother : other = source
  · subst hother
    have hsame : (h.newStatusRow s other).source = other := rfl
    rw [if_pos hsame, if_pos rfl]
    cases h.working.status.find other <;> rfl
  · have hne : ¬ (h.newStatusRow s source).source = other := fun he ↦ hother he.symm
    rw [if_neg hne, if_neg hother]

theorem flags_foldl_seeStatusRow (h : DatabaseHandler) (sources : List String) (source : String) :
    (sources.foldl (DatabaseHandler.seeStatusRow s) h).working.flags source =
      if source ∈ sources then some (h.isSerialSynchronised s source, false)
      else h.working.flags source := by
  induction sources generalizing h with
  | nil => simp
  | cons first sources ih =>
    rw [List.foldl_cons, ih, isSerialSynchronised_seeStatusRow, flags_seeStatusRow]
    by_cases hsource : source = first
    · subst hsource
      by_cases hmem : source ∈ sources <;> simp [hmem]
    · by_cases hmem : source ∈ sources <;> simp [hsource, hmem]

/-- Finalising sets the flags of every source seen. -/
theorem flags_finaliseTransaction (h : DatabaseHandler) (source : String) :
    (h.finaliseTransaction s).working.flags source =
      if source ∈ h.statusTracker.sourcesSeen then some (h.isSerialSynchronised s source, false)
      else h.working.flags source := by
  rw [← flags_foldl_seeStatusRow]
  simp only [DatabaseHandler.finaliseTransaction, DatabaseHandler.updateStatus, Database.flags,
    KeyedTable.find_map, Option.map_map]
  cases (h.statusTracker.sourcesSeen.foldl (DatabaseHandler.seeStatusRow s) h).working.status.find
    source with
  | none => rfl
  | some row =>
    simp only [Option.map_some, Function.comp_apply, RPSLDatabaseStatus.flags,
      DatabaseHandler.finaliseColumns, DatabaseHandler.finaliseSerials]
    split <;> rfl

end Finalise

/-- The parts of a commit: the flush, the write of ROAs, the finalised transaction, which may be
committed already, and the evaluation of route preferences. -/
structure CommitParts (s : Settings) (h h₁ h₂ h₃ h₄ h' : DatabaseHandler) : Prop where
  flush : h.flushRpslObjectWritingBuffer s = some h₁
  roas : SameSerials h₁ h₂
  objects : h₂.working.objects = h₁.working.objects
  buffer : h₂.rpslUpsertBuffer = []
  changed : h₂.changedObjectsTracker = h.changedObjectsTracker
  nextPk : h₂.nextPk = h₁.nextPk
  finalise : h₃ = { h₂.finaliseTransaction s with committed := h₃.committed }
  preCommit : h₃.preCommit s = some h₄
  result : h' = { h₄ with
    committed := h₄.working
    changedObjectsTracker := ⟨[], []⟩ }.startTransaction

theorem commit_parts {s : Settings} {h h' : DatabaseHandler} (hcommit : h.commit s = some h') :
    ∃ h₁ h₂ h₃ h₄, CommitParts s h h₁ h₂ h₃ h₄ h' := by
  unfold DatabaseHandler.commit at hcommit
  obtain ⟨h₁, hflush, hcommit⟩ := Option.bind_eq_some_iff.mp hcommit
  obtain ⟨h₂, hroas, hcommit⟩ := Option.bind_eq_some_iff.mp hcommit
  obtain ⟨roas, rfl⟩ := DatabaseHandler.flushRoaWritingBuffer_eq_some hroas
  obtain ⟨h₄, hpre, hcommit⟩ := Option.bind_eq_some_iff.mp hcommit
  cases hcommit
  obtain ⟨-, hbuffer, hchanged⟩ := flush_objects hflush
  refine ⟨h₁, { h₁ with working := { h₁.working with roas }, roaInsertBuffer := [] }, _, h₄, hflush,
    ⟨rfl, rfl, rfl, rfl, rfl, rfl, rfl⟩, rfl, hbuffer, hchanged, rfl, ?_, hpre, rfl⟩
  split <;> rfl

/-- Whether journaling is enabled after an operation. -/
def HandlerOperation.journalingAfter (enabled : Bool) : HandlerOperation → Bool
  | .enableJournaling => true
  | .disableJournaling => false
  | _ => enabled

/-- Only a commit changes what is committed, and nothing but the switch for it changes whether
journaling is enabled. -/
theorem frame_perform {s : Settings} {h h' : DatabaseHandler} {op : HandlerOperation}
    (hop : op ≠ .commit) (hperform : h.perform s op = some h') :
    h'.committed = h.committed ∧
      h'.journalingEnabled = op.journalingAfter h.journalingEnabled := by
  have hrecorded (hrec : Recorded s h h') :
      h'.committed = h.committed ∧ h'.journalingEnabled = h.journalingEnabled := by
    obtain ⟨entries, hadded⟩ := hrec.entries
    exact ⟨hadded.committed, hadded.journalingEnabled⟩
  cases op with
  | upsertRpslObject o origin guaranteed sourceSerial created =>
    exact hrecorded (recorded_upsert hperform)
  | updateRpkiStatus nowValid nowInvalid nowNotFound =>
    exact hrecorded (recorded_updateRpkiStatus hperform)
  | updateScopefilterStatus nowInScope nowOutScopeAs nowOutScopePrefix =>
    exact hrecorded (recorded_updateScopefilterStatus hperform)
  | updateRoutePreferenceStatus nowVisible nowSuppressed =>
    exact hrecorded (recorded_updateRoutePreferenceStatus hperform)
  | evaluateRoutePreference filterPrefixes =>
    exact hrecorded (recorded_evaluateRoutePreference hperform)
  | deleteRpslObject origin a sourceSerial protect => exact hrecorded (recorded_delete hperform)
  | suspendRpslObject pk => exact hrecorded (recorded_suspend hperform)
  | deleteSuspendedRpslObjects pks => exact hrecorded (recorded_deleteSuspended hperform)
  | executeQuery => exact hrecorded (recorded_flush hperform)
  | deleteJournalEntriesBeforeDate timestamp other =>
    obtain ⟨h₁, hflush, hexpire⟩ := Option.bind_eq_some_iff.mp hperform
    cases hexpire
    obtain ⟨entries, hadded, -⟩ := flush_entries hflush
    exact ⟨hadded.committed, hadded.journalingEnabled⟩
  | deleteAllRpslObjectsWithJournal other guaranteed =>
    obtain ⟨h₁, hflush, hreload⟩ := Option.bind_eq_some_iff.mp hperform
    cases hreload
    obtain ⟨entries, hadded, -⟩ := flush_entries hflush
    exact ⟨hadded.committed, hadded.journalingEnabled⟩
  | commit => exact absurd rfl hop
  | _ =>
    cases hperform
    exact ⟨rfl, rfl⟩

theorem committed_perform {s : Settings} {h h' : DatabaseHandler} {op : HandlerOperation}
    (hop : op ≠ .commit) (hperform : h.perform s op = some h') : h'.committed = h.committed :=
  (frame_perform hop hperform).1

section Examples

/-- One source, which keeps a journal of local serials. -/
def localSettings : Settings := ⟨false, none, [("TEST", ⟨true, false, false, none, none⟩)]⟩

/-- A database without rows. -/
def emptyDatabase : Database := ⟨.empty, .empty, .empty, [], .empty, []⟩

/-- A handler on a database without rows. -/
def newHandler : DatabaseHandler where
  committed := emptyDatabase
  working := emptyDatabase
  journalingEnabled := true
  rpslPkSourceSeen := []
  rpslUpsertBuffer := []
  roaInsertBuffer := []
  roaColumnInput _ _ _ _ := none
  rpslGuaranteedNoExisting := true
  statusTracker := .reset
  changedObjectsTracker := ⟨[], []⟩
  now := 0
  nextPk := 0
  nextSerialGlobal := 1
  written := []

/-- A visible person object. -/
def personObject (nicHdl : String) : RPSLObject where
  rpslObjectClass := "person"
  pk := nicHdl
  source := "TEST"
  parsedData := [("nic-hdl", [nicHdl]), ("mnt-by", ["TEST-MNT"])]
  renderRpslText _ := "nic-hdl: " ++ nicHdl
  ipVersion := none
  ipFirst := none
  ipLast := none
  ipPrefix := none
  prefixLength := none
  asnFirst := none
  asnLast := none
  rpkiStatus := .notFound
  scopefilterStatus := .inScope
  routePreferenceStatus := .visible

/-- Submit an object. -/
def upsertAction (now : Nat) (o : RPSLObject) : HandlerAction :=
  ⟨now, .upsertRpslObject o .authChange false none none⟩

end Examples

end Irrd.Storage
