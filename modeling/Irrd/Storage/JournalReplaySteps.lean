import Irrd.Storage.JournalReplay

/-!
# Operations on a mirrored source

Between operations, replaying the journal of a source gives its visible objects. One lemma for
each operation says under which conditions that stays so.
-/

namespace Irrd.Storage

open Irrd.Base Irrd.Conf Irrd.Routepref Irrd.Rpsl Irrd.Utils

/-- What holds between the operations of a run: the journal leads to the visible objects, in the
tables of the transaction and in the committed ones. More serials may come from the NRTM source. -/
structure MirrorInvariant (s : Settings) (source : String) (h : DatabaseHandler)
    (more : List Nat) : Prop where
  journaling : h.journalingEnabled = true
  replay : replay (fun _ ↦ none) (h.working.journal.changes source) =
    visibleContents h.working.objects source
  order : JournalOrder s source h (pendingSerials source h.rpslUpsertBuffer ++ more)
  unique : h.working.objects.PksUnique
  fresh : ∀ row ∈ h.working.objects.rows, row.pk < h.nextPk
  committed : mirroredContents h.committed source = visibleContents h.committed.objects source

/-- No suppressed upsert of the source replaces a visible row. -/
def SuppressesNone (source : String) (objects : ObjectTable) (buffer : List BufferedUpsert) :
    Prop :=
  ∀ b ∈ buffer, b.columns.source = source → b.columns.isVisible = false →
    ∀ row ∈ objects.find b.columns.key, row.isVisible = false

section Steps

variable {s : Settings} {source : String} {h h' : DatabaseHandler} {more : List Nat}

/-- The order of serials depends on nothing that changes otherwise. -/
theorem JournalOrder.same {pending : List Nat} (horder : JournalOrder s source h pending)
    (hsame : SameSerials h h') : JournalOrder s source h' pending := by
  have hsync : h'.isSerialSynchronised s source = h.isSerialSynchronised s source := by
    unfold DatabaseHandler.isSerialSynchronised Database.isSerialSynchronised
    rw [hsame.tracker, hsame.status]
  refine horder.congr ?_ ?_ ?_ ?_ hsync
  · rw [hsame.journal]
  · rw [hsame.status]
    exact id
  · rw [hsame.tracker]
  · rw [hsame.tracker]
    exact id

theorem RowlessStart.same (hstart : RowlessStart source h.working) (hsame : SameSerials h h') :
    RowlessStart source h'.working := by
  unfold RowlessStart
  rw [hsame.status, hsame.journal]
  exact hstart

/-- A step that journals its changes, with other changes of the handler before and after it. -/
theorem MirrorInvariant.journaled {h₁ h₂ : DatabaseHandler} {serials fewer : List Nat}
    {changes : List (Change (String × String) String)} (hinv : MirrorInvariant s source h more)
    (hfirst : SameSerials h h₁) (hjournaled : Journaled s source h₁ h₂ changes serials)
    (hlast : SameSerials h₂ h')
    (horder : JournalOrder s source h
      (serials ++ (pendingSerials source h'.rpslUpsertBuffer ++ fewer)))
    (hreplay : Base.replay (visibleContents h.working.objects source) changes =
      visibleContents h'.working.objects source)
    (hunique : h'.working.objects.PksUnique)
    (hfresh : ∀ row ∈ h'.working.objects.rows, row.pk < h'.nextPk) :
    MirrorInvariant s source h' fewer ∧
      (serials = [] → RowlessStart source h.working → RowlessStart source h'.working) := by
  have horder₁ := horder.same hfirst
  have hcommitted : h'.committed = h.committed :=
    hlast.committed.trans (hjournaled.committed.trans hfirst.committed)
  refine ⟨⟨?_, ?_, (hjournaled.order _ horder₁).same hlast, hunique, hfresh, ?_⟩, ?_⟩
  · rw [hlast.journalingEnabled, hjournaled.journalingEnabled, hfirst.journalingEnabled]
    exact hinv.journaling
  · rw [hlast.journal, hjournaled.changes, hfirst.journal, replay_append, hinv.replay, hreplay]
  · rw [hcommitted]
    exact hinv.committed
  · intro hserials hstart
    have hnone := horder₁.mono (List.nil_sublist _)
    exact (hjournaled.rowless hserials hnone (hstart.same hfirst)).same hlast

/-- A step that touches neither the objects nor the journal. -/
theorem MirrorInvariant.same {fewer : List Nat} (hinv : MirrorInvariant s source h more)
    (hsame : SameSerials h h') (hobjects : h'.working.objects = h.working.objects)
    (hpk : h.nextPk ≤ h'.nextPk)
    (hpending : (pendingSerials source h'.rpslUpsertBuffer ++ fewer).Sublist
      (pendingSerials source h.rpslUpsertBuffer ++ more)) :
    MirrorInvariant s source h' fewer := by
  refine (hinv.journaled ⟨rfl, rfl, rfl, rfl, rfl, rfl, rfl⟩ .refl hsame
    (hinv.order.mono hpending) ?_ ?_ ?_).1
  · rw [hobjects]
    rfl
  · rw [hobjects]
    exact hinv.unique
  · rw [hobjects]
    exact fun row hrow ↦ Nat.lt_of_lt_of_le (hinv.fresh row hrow) hpk

/-- Writing the pending upserts. -/
theorem MirrorInvariant.flush (hinv : MirrorInvariant s source h more)
    (hkeep : s.keepJournal source = true)
    (hnone : SuppressesNone source h.working.objects h.rpslUpsertBuffer)
    (hflush : h.flushRpslObjectWritingBuffer s = some h') :
    MirrorInvariant s source h' more ∧ h'.rpslUpsertBuffer = [] := by
  unfold DatabaseHandler.flushRpslObjectWritingBuffer at hflush
  split at hflush
  · next hempty =>
    cases hflush
    exact ⟨hinv, hempty⟩
  · obtain ⟨h₁, hwrite, hflush⟩ := Option.bind_eq_some_iff.mp hflush
    obtain ⟨h₂, hrecord, hflush⟩ := Option.bind_eq_some_iff.mp hflush
    cases hflush
    have hwritten := writeObjects_eq_some hwrite
    have hsame := sameSerials_writeObjects hwrite
    have hjournaled := journaled_recordUpserts (hsame.journalingEnabled.trans hinv.journaling)
      hkeep hrecord
    obtain ⟨hunique, hfresh⟩ := hwritten.pks hinv.unique hinv.fresh
    have hlast : SameSerials h₂ { h₂ with rpslPkSourceSeen := [], rpslUpsertBuffer := [] } :=
      ⟨rfl, rfl, rfl, rfl, rfl, rfl, rfl⟩
    refine ⟨(hinv.journaled hsame hjournaled hlast ?_ ?_ ?_ ?_).1, rfl⟩
    · exact hinv.order
    · rw [hjournaled.objects]
      exact replay_upsertChanges hwritten.nodup hwritten.columns hnone
    · rw [hjournaled.objects]
      exact hunique
    · rw [hjournaled.objects, hjournaled.nextPk]
      exact hfresh

/-- Scheduling an upsert. -/
theorem MirrorInvariant.upsert {o : RPSLObject} {origin : JournalEntryOrigin} {guaranteed : Bool}
    {sourceSerial created : Option Nat} (hkeep : s.keepJournal source = true)
    (hinv : MirrorInvariant s source h
      (pendingSerials source [⟨h.objectColumns o, created, origin, sourceSerial⟩]))
    (hseen : DatabaseHandler.rpslPkSource o ∈ h.rpslPkSourceSeen →
      SuppressesNone source h.working.objects h.rpslUpsertBuffer)
    (hfull : DatabaseHandler.rpslPkSource o ∉ h.rpslPkSourceSeen →
      DatabaseHandler.maxRecordsBufferBeforeInsert ≤ h.rpslUpsertBuffer.length →
      SuppressesNone source h.working.objects
        (h.rpslUpsertBuffer ++ [⟨h.objectColumns o, created, origin, sourceSerial⟩]))
    (hupsert : h.upsertRpslObject s o origin guaranteed sourceSerial created = some h') :
    MirrorInvariant s source h' [] := by
  obtain ⟨h₁, hflush, hbuffered⟩ := Option.bind_eq_some_iff.mp hupsert
  have hsetting : MirrorInvariant s source { h with
      rpslGuaranteedNoExisting := h.rpslGuaranteedNoExisting && guaranteed }
      (pendingSerials source [⟨h.objectColumns o, created, origin, sourceSerial⟩]) :=
    hinv.same ⟨rfl, rfl, rfl, rfl, rfl, rfl, rfl⟩ rfl (Nat.le_refl _) (List.Sublist.refl _)
  have hbuffer (h₂ : DatabaseHandler) (hcolumns : h₂.objectColumns o = h.objectColumns o)
      (hinv₂ : MirrorInvariant s source h₂
        (pendingSerials source [⟨h.objectColumns o, created, origin, sourceSerial⟩])) :
      MirrorInvariant s source (h₂.bufferUpsert o origin sourceSerial created) [] := by
    refine hinv₂.same ⟨rfl, rfl, rfl, rfl, rfl, rfl, rfl⟩ rfl (Nat.le_refl _) ?_
    rw [← hcolumns, ← pendingSerials_append, List.append_nil]
    exact List.Sublist.refl _
  unfold DatabaseHandler.flushIfSeen at hflush
  unfold DatabaseHandler.flushIfFull at hbuffered
  split at hflush
  · next hmem =>
    obtain ⟨hinv₁, hempty⟩ := hsetting.flush hkeep (hseen hmem) hflush
    have hnow := (recorded_flush hflush).entries
    obtain ⟨entries, hadded⟩ := hnow
    have hcolumns : h₁.objectColumns o = h.objectColumns o := by
      unfold DatabaseHandler.objectColumns
      rw [hadded.now]
    rw [if_neg] at hbuffered
    · cases hbuffered
      exact hbuffer h₁ hcolumns hinv₁
    · simp [DatabaseHandler.bufferUpsert, DatabaseHandler.objectModified, hempty,
        DatabaseHandler.maxRecordsBufferBeforeInsert]
  · next hmem =>
    cases hflush
    have hinv₁ := hbuffer { h with
      rpslGuaranteedNoExisting := h.rpslGuaranteedNoExisting && guaranteed } rfl hsetting
    split at hbuffered
    · next hlong =>
      have hlength : DatabaseHandler.maxRecordsBufferBeforeInsert ≤ h.rpslUpsertBuffer.length := by
        simpa [DatabaseHandler.bufferUpsert, DatabaseHandler.objectModified, Nat.lt_succ_iff] using
          hlong
      exact (hinv₁.flush hkeep (hfull hmem hlength) hbuffered).1
    · cases hbuffered
      exact hinv₁

end Steps

section Statuses

variable {s : Settings} {source : String} {h h' : DatabaseHandler} {more : List Nat}

/-- Every object row changed by a function that keeps keys. -/
structure RowsMapped (h h' : DatabaseHandler) (f : RPSLDatabaseObject → RPSLDatabaseObject) :
    Prop where
  rows : h'.working.objects.rows = h.working.objects.rows.map f
  key : ∀ row, (f row).key = row.key
  pk : ∀ row, (f row).pk = row.pk

theorem RowsMapped.trans {h'' : DatabaseHandler} {f g : RPSLDatabaseObject → RPSLDatabaseObject}
    (hfirst : RowsMapped h h' f) (hsecond : RowsMapped h' h'' g) : RowsMapped h h'' (g ∘ f) := by
  refine ⟨?_, fun row ↦ ?_, fun row ↦ ?_⟩
  · rw [hsecond.rows, hfirst.rows, List.map_map]
  · exact (hsecond.key _).trans (hfirst.key row)
  · exact (hsecond.pk _).trans (hfirst.pk row)

theorem RowsMapped.find {f : RPSLDatabaseObject → RPSLDatabaseObject} (hmapped : RowsMapped h h' f)
    (key : ObjectKey) : h'.working.objects.find key = (h.working.objects.find key).map f := by
  unfold KeyedTable.find
  rw [hmapped.rows, List.find?_map]
  congr 2
  funext row
  simp [hmapped.key]

/-- A status update whose recorded items have the effect of its change of the rows. -/
theorem MirrorInvariant.changeStatuses {h₁ h₂ : DatabaseHandler} {items : List StatusItem}
    {f : RPSLDatabaseObject → RPSLDatabaseObject} (hinv : MirrorInvariant s source h more)
    (hfirst : SameSerials h h₁)
    (hjournaled : Journaled s source h₁ h₂ (statusChanges source items) [])
    (hlast : SameSerials h₂ h') (hmapped : RowsMapped h h' f) (hnextPk : h'.nextPk = h.nextPk)
    (hbuffer : h'.rpslUpsertBuffer = h.rpslUpsertBuffer)
    (hnodup : (items.map (fun i ↦ i.dict.pk)).Nodup)
    (hitems : ∀ i ∈ items, ∃ row ∈ h.working.objects.rows, i.dict.pk = row.pk ∧
      i.dict.source = row.source ∧ i.id = (row.objectClass, row.rpslPk) ∧
      (row.source = source → i.value.getD (visibleText row) = visibleText (f row)))
    (hothers : ∀ row ∈ h.working.objects.rows, row.source = source →
      (∀ i ∈ items, i.dict.pk ≠ row.pk) → visibleText (f row) = visibleText row) :
    MirrorInvariant s source h' more ∧
      (RowlessStart source h.working → RowlessStart source h'.working) := by
  have hpks : h'.working.objects.rows.map RPSLDatabaseObject.pk =
      h.working.objects.rows.map RPSLDatabaseObject.pk := by
    rw [hmapped.rows, List.map_map]
    exact List.map_congr_left (fun row _ ↦ hmapped.pk row)
  have hresult := hinv.journaled hfirst hjournaled hlast (hbuffer ▸ hinv.order)
    (replay_statusChanges hinv.unique hmapped.find hnodup hitems hothers) ?_ ?_
  · exact ⟨hresult.1, hresult.2 rfl⟩
  · unfold ObjectTable.PksUnique
    rw [hpks]
    exact hinv.unique
  · intro row hrow
    rw [hmapped.rows] at hrow
    obtain ⟨old, hold, rfl⟩ := List.mem_map.mp hrow
    rw [hmapped.pk, hnextPk]
    exact hinv.fresh old hold

/-- Dicts of stored rows that get another status. -/
def ChangedRows {Status : Type} (objects : ObjectTable) (statusOf : RPSLDatabaseObject → Status)
    (set : RPSLDatabaseObject → Status → RPSLDatabaseObject) (status : Status)
    (dicts : List (ChangedObjectDict Status)) : Prop :=
  ∀ d ∈ dicts, ∃ row ∈ objects.rows, statusOf row ≠ status ∧ d.oldStatus = statusOf row ∧
    d.toRPSLObjectDict = (set row status).toDict

/-- A dict has the key and the text of a row. -/
structure DictOf (d : RPSLObjectDict) (row : RPSLDatabaseObject) : Prop where
  pk : d.pk = row.pk
  source : d.source = row.source
  objectClass : d.objectClass = row.objectClass
  rpslPk : d.rpslPk = row.rpslPk
  objectText : d.objectText = row.objectText

/-- The item of a row tells the change of its row. -/
theorem DictOf.item {objects : ObjectTable} {d : RPSLObjectDict} {row : RPSLDatabaseObject}
    {operation : DatabaseOperation} {recorded : Bool}
    {f : RPSLDatabaseObject → RPSLDatabaseObject} (hdict : DictOf d row) (hrow : row ∈ objects.rows)
    (hvalue : row.source = source →
      (StatusItem.mk d operation recorded).value.getD (visibleText row) = visibleText (f row)) :
    ∃ row ∈ objects.rows, d.pk = row.pk ∧ d.source = row.source ∧
      (StatusItem.mk d operation recorded).id = (row.objectClass, row.rpslPk) ∧
      (row.source = source → (StatusItem.mk d operation recorded).value.getD (visibleText row) =
        visibleText (f row)) :=
  ⟨row, hrow, hdict.pk, hdict.source, by simp [StatusItem.id, hdict.objectClass, hdict.rpslPk],
    hvalue⟩

/-- The item of a row records that it became visible. -/
theorem value_becameVisible {row row' : RPSLDatabaseObject} {d : RPSLObjectDict}
    {visibility : Bool × Bool} (hdict : DictOf d row) (htext : row'.objectText = row.objectText)
    (hvisibility : visibility = (row.isVisible, row'.isVisible))
    (hmono : row.isVisible = true → row'.isVisible = true) :
    (StatusItem.mk d .addOrUpdate (DatabaseHandler.becameVisible visibility)).value.getD
      (visibleText row) = visibleText row' := by
  subst hvisibility
  simp only [StatusItem.value, journalChange, visibleText, hdict.objectText, htext]
  cases hold : row.isVisible <;> cases hnew : row'.isVisible <;>
    simp_all [DatabaseHandler.becameVisible]

/-- The item of a row records that it became invisible. -/
theorem value_becameInvisible {row row' : RPSLDatabaseObject} {d : RPSLObjectDict}
    {visibility : Bool × Bool} (hvisibility : visibility = (row.isVisible, row'.isVisible))
    (hhidden : row'.isVisible = false) :
    (StatusItem.mk d .delete (DatabaseHandler.becameInvisible visibility)).value.getD
      (visibleText row) = visibleText row' := by
  subst hvisibility
  simp only [StatusItem.value, journalChange, visibleText, hhidden]
  cases hold : row.isVisible <;> simp [DatabaseHandler.becameInvisible]

/-- The rows after an update of RPKI statuses. -/
def withRpkiStatuses (valid invalid notFound : List Nat) (row : RPSLDatabaseObject) :
    RPSLDatabaseObject :=
  { row with rpkiStatus :=
      if row.pk ∈ notFound then .notFound
      else if row.pk ∈ invalid then .invalid
      else if row.pk ∈ valid then .valid
      else row.rpkiStatus }

theorem rowsMapped_rpkiStatuses (h : DatabaseHandler) (valid invalid notFound : List Nat) :
    RowsMapped h (((h.setRpkiStatus .valid valid).setRpkiStatus .invalid invalid).setRpkiStatus
      .notFound notFound) (withRpkiStatuses valid invalid notFound) := by
  refine ⟨?_, fun _ ↦ rfl, fun _ ↦ rfl⟩
  simp only [DatabaseHandler.setRpkiStatus, DatabaseHandler.updateObjects, KeyedTable.map,
    List.map_map]
  refine List.map_congr_left (fun row _ ↦ ?_)
  simp only [Function.comp_apply, decide_eq_true_eq]
  by_cases hvalid : row.pk ∈ valid <;> by_cases hinvalid : row.pk ∈ invalid <;>
    by_cases hnotFound : row.pk ∈ notFound <;>
      simp [withRpkiStatuses, hvalid, hinvalid, hnotFound]

/-- What an RPKI update is called with: the rows whose status changes. -/
structure RpkiChanges (objects : ObjectTable)
    (nowValid nowInvalid nowNotFound : List (ChangedObjectDict RPKIStatus)) : Prop where
  valid : ChangedRows objects (fun row ↦ row.rpkiStatus)
    (fun row status ↦ { row with rpkiStatus := status }) .valid nowValid
  invalid : ChangedRows objects (fun row ↦ row.rpkiStatus)
    (fun row status ↦ { row with rpkiStatus := status }) .invalid nowInvalid
  notFound : ChangedRows objects (fun row ↦ row.rpkiStatus)
    (fun row status ↦ { row with rpkiStatus := status }) .notFound nowNotFound
  nodup : ((nowValid ++ nowNotFound ++ nowInvalid).map (fun d ↦ d.pk)).Nodup

/-- Every row with a dict gets the status of its dict. -/
theorem RpkiChanges.status {objects : ObjectTable}
    {nowValid nowInvalid nowNotFound : List (ChangedObjectDict RPKIStatus)}
    (hchanges : RpkiChanges objects nowValid nowInvalid nowNotFound) (row : RPSLDatabaseObject) :
    (row.pk ∈ nowValid.map (fun d ↦ d.pk) → withRpkiStatuses (nowValid.map (fun d ↦ d.pk))
      (nowInvalid.map (fun d ↦ d.pk)) (nowNotFound.map (fun d ↦ d.pk)) row =
        { row with rpkiStatus := .valid }) ∧
    (row.pk ∈ nowInvalid.map (fun d ↦ d.pk) → withRpkiStatuses (nowValid.map (fun d ↦ d.pk))
      (nowInvalid.map (fun d ↦ d.pk)) (nowNotFound.map (fun d ↦ d.pk)) row =
        { row with rpkiStatus := .invalid }) ∧
    (row.pk ∈ nowNotFound.map (fun d ↦ d.pk) → withRpkiStatuses (nowValid.map (fun d ↦ d.pk))
      (nowInvalid.map (fun d ↦ d.pk)) (nowNotFound.map (fun d ↦ d.pk)) row =
        { row with rpkiStatus := .notFound }) := by
  have hnodup := hchanges.nodup
  rw [List.map_append, List.map_append, List.nodup_append, List.nodup_append] at hnodup
  obtain ⟨⟨-, -, hfound⟩, -, hrest⟩ := hnodup
  refine ⟨fun hmem ↦ ?_, fun hmem ↦ ?_, fun hmem ↦ ?_⟩
  · have hnotFound : row.pk ∉ nowNotFound.map (fun d ↦ d.pk) := fun h ↦ hfound _ hmem _ h rfl
    have hinvalid : row.pk ∉ nowInvalid.map (fun d ↦ d.pk) :=
      fun h ↦ hrest _ (List.mem_append_left _ hmem) _ h rfl
    unfold withRpkiStatuses
    rw [if_neg hnotFound, if_neg hinvalid, if_pos hmem]
  · have hnotFound : row.pk ∉ nowNotFound.map (fun d ↦ d.pk) :=
      fun h ↦ hrest _ (List.mem_append_right _ h) _ hmem rfl
    unfold withRpkiStatuses
    rw [if_neg hnotFound, if_pos hmem]
  · unfold withRpkiStatuses
    rw [if_pos hmem]

/-- An RPKI status that is visible hides nothing. -/
theorem isVisible_withRpkiStatus {row : RPSLDatabaseObject} {status : RPKIStatus}
    (hstatus : status.isVisible = true) (hrow : row.isVisible = true) :
    RPSLDatabaseObject.isVisible { row with rpkiStatus := status } = true := by
  simp only [RPSLDatabaseObject.isVisible, ObjectColumns.isVisible, objectIsVisible,
    Bool.and_eq_true] at hrow ⊢
  exact ⟨⟨hstatus, hrow.1.2⟩, hrow.2⟩

/-- What a dict says about its row. -/
theorem rpkiVisibility_eq {row : RPSLDatabaseObject} {d : ChangedObjectDict RPKIStatus}
    {status : RPKIStatus} (hold : d.oldStatus = row.rpkiStatus)
    (hdict : d.toRPSLObjectDict = RPSLDatabaseObject.toDict { row with rpkiStatus := status }) :
    DictOf d.toRPSLObjectDict row ∧ DatabaseHandler.rpkiVisibility d =
      (row.isVisible, RPSLDatabaseObject.isVisible { row with rpkiStatus := status }) := by
  refine ⟨⟨?_, ?_, ?_, ?_, ?_⟩, ?_⟩
  · rw [hdict]
    rfl
  · rw [hdict]
    rfl
  · rw [hdict]
    rfl
  · rw [hdict]
    rfl
  · rw [hdict]
    rfl
  · unfold DatabaseHandler.rpkiVisibility
    rw [hold, hdict]
    rfl

/-- Updates of the RPKI status. -/
theorem MirrorInvariant.updateRpkiStatus (hinv : MirrorInvariant s source h more)
    (hkeep : s.keepJournal source = true)
    {nowValid nowInvalid nowNotFound : List (ChangedObjectDict RPKIStatus)}
    (hchanges : RpkiChanges h.working.objects nowValid nowInvalid nowNotFound)
    (hupdate : h.updateRpkiStatus s nowValid nowInvalid nowNotFound = some h') :
    MirrorInvariant s source h' more := by
  obtain ⟨h₂, hvisible, hinvisible⟩ := Option.bind_eq_some_iff.mp hupdate
  have hmapped := rowsMapped_rpkiStatuses h (nowValid.map (fun d ↦ d.pk))
    (nowInvalid.map (fun d ↦ d.pk)) (nowNotFound.map (fun d ↦ d.pk))
  generalize hset : ((h.setRpkiStatus .valid (nowValid.map (fun d ↦ d.pk))).setRpkiStatus .invalid
    (nowInvalid.map (fun d ↦ d.pk))).setRpkiStatus .notFound (nowNotFound.map (fun d ↦ d.pk)) = h₁
    at hvisible hmapped
  have hsame : SameSerials h h₁ := hset ▸ ⟨rfl, rfl, rfl, rfl, rfl, rfl, rfl⟩
  have hfirst := journaled_recordDicts (hsame.journalingEnabled.trans hinv.journaling) hkeep
    hvisible
  have hsecond := journaled_recordDicts (hfirst.journalingEnabled.trans
    (hsame.journalingEnabled.trans hinv.journaling)) hkeep hinvisible
  have hjournaled := hfirst.trans hsecond
  rw [← statusChanges_append] at hjournaled
  have hnextPk : h₁.nextPk = h.nextPk := hset ▸ rfl
  have hbuffer : h₁.rpslUpsertBuffer = h.rpslUpsertBuffer := hset ▸ rfl
  refine (hinv.changeStatuses hsame hjournaled ⟨rfl, rfl, rfl, rfl, rfl, rfl, rfl⟩
    ⟨hjournaled.objects ▸ hmapped.rows, hmapped.key, hmapped.pk⟩ (hjournaled.nextPk.trans hnextPk)
    (hjournaled.buffer.trans hbuffer) ?_ ?_ ?_).1
  · simpa [List.map_append, Function.comp_def] using hchanges.nodup
  · intro i hi
    rcases List.mem_append.mp hi with hi | hi
    · obtain ⟨d, hd, rfl⟩ := List.mem_map.mp hi
      rcases List.mem_append.mp hd with hd | hd
      · obtain ⟨row, hrow, -, hold, hdict⟩ := hchanges.valid d hd
        obtain ⟨hof, hvisibility⟩ := rpkiVisibility_eq hold hdict
        have hstatus := (hchanges.status row).1 (hof.pk ▸ List.mem_map_of_mem hd)
        refine hof.item hrow (fun _ ↦ hstatus ▸ value_becameVisible hof rfl hvisibility ?_)
        exact isVisible_withRpkiStatus rfl
      · obtain ⟨row, hrow, -, hold, hdict⟩ := hchanges.notFound d hd
        obtain ⟨hof, hvisibility⟩ := rpkiVisibility_eq hold hdict
        have hstatus := (hchanges.status row).2.2 (hof.pk ▸ List.mem_map_of_mem hd)
        refine hof.item hrow (fun _ ↦ hstatus ▸ value_becameVisible hof rfl hvisibility ?_)
        exact isVisible_withRpkiStatus rfl
    · obtain ⟨d, hd, rfl⟩ := List.mem_map.mp hi
      obtain ⟨row, hrow, -, hold, hdict⟩ := hchanges.invalid d hd
      obtain ⟨hof, hvisibility⟩ := rpkiVisibility_eq hold hdict
      have hstatus := (hchanges.status row).2.1 (hof.pk ▸ List.mem_map_of_mem hd)
      exact hof.item hrow (fun _ ↦ hstatus ▸ value_becameInvisible hvisibility rfl)
  · intro row hrow hsource hnone
    have hne (dicts : List (ChangedObjectDict RPKIStatus))
        (hsub : dicts ⊆ nowValid ++ nowNotFound ++ nowInvalid) :
        row.pk ∉ dicts.map (fun d ↦ d.pk) := by
      intro hmem
      obtain ⟨d, hd, hpk⟩ := List.mem_map.mp hmem
      rcases List.mem_append.mp (hsub hd) with hd | hd
      · exact hnone _ (List.mem_append_left _ (List.mem_map_of_mem hd)) hpk
      · exact hnone _ (List.mem_append_right _ (List.mem_map_of_mem hd)) hpk
    have hsame : withRpkiStatuses (nowValid.map (fun d ↦ d.pk)) (nowInvalid.map (fun d ↦ d.pk))
        (nowNotFound.map (fun d ↦ d.pk)) row = row := by
      unfold withRpkiStatuses
      rw [if_neg (hne nowNotFound (by simp)), if_neg (hne nowInvalid (by simp)),
        if_neg (hne nowValid (by simp))]
    rw [hsame]

/-- The rows after an update of scope filter statuses. -/
def withScopefilterStatuses (inScope outScopeAs outScopePrefix : List String)
    (row : RPSLDatabaseObject) : RPSLDatabaseObject :=
  { row with scopefilterStatus :=
      if row.rpslPk ∈ outScopePrefix then .outScopePrefix
      else if row.rpslPk ∈ outScopeAs then .outScopeAs
      else if row.rpslPk ∈ inScope then .inScope
      else row.scopefilterStatus }

theorem rowsMapped_scopefilterStatuses (h : DatabaseHandler)
    (inScope outScopeAs outScopePrefix : List String) :
    RowsMapped h (((h.setScopefilterStatus .inScope inScope).setScopefilterStatus .outScopeAs
      outScopeAs).setScopefilterStatus .outScopePrefix outScopePrefix)
      (withScopefilterStatuses inScope outScopeAs outScopePrefix) := by
  refine ⟨?_, fun _ ↦ rfl, fun _ ↦ rfl⟩
  simp only [DatabaseHandler.setScopefilterStatus, DatabaseHandler.updateObjects, KeyedTable.map,
    List.map_map]
  refine List.map_congr_left (fun row _ ↦ ?_)
  simp only [Function.comp_apply, decide_eq_true_eq]
  by_cases hin : row.rpslPk ∈ inScope <;> by_cases has : row.rpslPk ∈ outScopeAs <;>
    by_cases hprefix : row.rpslPk ∈ outScopePrefix <;>
      simp [withScopefilterStatuses, hin, has, hprefix]

/-- What a scope filter update is called with: the rows whose status changes. -/
structure ScopefilterChanges (objects : ObjectTable)
    (nowInScope nowOutScopeAs nowOutScopePrefix : List (ChangedObjectDict ScopeFilterStatus)) :
    Prop where
  inScope : ChangedRows objects (fun row ↦ row.scopefilterStatus)
    (fun row status ↦ { row with scopefilterStatus := status }) .inScope nowInScope
  outScopeAs : ChangedRows objects (fun row ↦ row.scopefilterStatus)
    (fun row status ↦ { row with scopefilterStatus := status }) .outScopeAs nowOutScopeAs
  outScopePrefix : ChangedRows objects (fun row ↦ row.scopefilterStatus)
    (fun row status ↦ { row with scopefilterStatus := status }) .outScopePrefix nowOutScopePrefix
  nodup : ((nowInScope ++ (nowOutScopeAs ++ nowOutScopePrefix)).map (fun d ↦ d.pk)).Nodup

/-- The status that a scope filter update has for a row. -/
def scopefilterTarget (changes : List (ChangedObjectDict ScopeFilterStatus))
    (row : RPSLDatabaseObject) : ScopeFilterStatus :=
  ((changes.find? (fun d ↦ d.pk = row.pk)).map (fun d ↦ d.scopefilterStatus)).getD
    row.scopefilterStatus

/-- Rows of the source that share their primary key with a row whose status changes are as visible
with its status as with their own. -/
def SharedKeysAgree (source : String) (objects : ObjectTable)
    (changes : List (ChangedObjectDict ScopeFilterStatus)) : Prop :=
  ∀ row ∈ objects.rows, row.source = source → ∀ d ∈ changes, d.rpslPk = row.rpslPk →
    objectIsVisible row.rpkiStatus d.scopefilterStatus row.routePreferenceStatus =
      objectIsVisible row.rpkiStatus (scopefilterTarget changes row) row.routePreferenceStatus

/-- What a dict says about its row. -/
theorem scopefilterVisibility_eq {row : RPSLDatabaseObject}
    {d : ChangedObjectDict ScopeFilterStatus} {status : ScopeFilterStatus}
    (hold : d.oldStatus = row.scopefilterStatus)
    (hdict : d.toRPSLObjectDict =
      RPSLDatabaseObject.toDict { row with scopefilterStatus := status }) :
    DictOf d.toRPSLObjectDict row ∧ d.scopefilterStatus = status ∧
      DatabaseHandler.scopefilterVisibility d =
        (row.isVisible, objectIsVisible row.rpkiStatus status row.routePreferenceStatus) := by
  refine ⟨⟨?_, ?_, ?_, ?_, ?_⟩, ?_, ?_⟩
  · rw [hdict]
    rfl
  · rw [hdict]
    rfl
  · rw [hdict]
    rfl
  · rw [hdict]
    rfl
  · rw [hdict]
    rfl
  · rw [hdict]
    rfl
  · unfold DatabaseHandler.scopefilterVisibility
    rw [hold, hdict]
    rfl

/-- Where shared keys agree, rows are as visible as they have to be. -/
theorem ScopefilterChanges.isVisible {objects : ObjectTable} {row : RPSLDatabaseObject}
    {nowInScope nowOutScopeAs nowOutScopePrefix : List (ChangedObjectDict ScopeFilterStatus)}
    (hchanges : ScopefilterChanges objects nowInScope nowOutScopeAs nowOutScopePrefix)
    (hagree : SharedKeysAgree source objects
      (nowInScope ++ (nowOutScopeAs ++ nowOutScopePrefix)))
    (hunique : objects.PksUnique) (hrow : row ∈ objects.rows) (hsource : row.source = source) :
    (withScopefilterStatuses (nowInScope.map (fun d ↦ d.rpslPk))
      (nowOutScopeAs.map (fun d ↦ d.rpslPk)) (nowOutScopePrefix.map (fun d ↦ d.rpslPk))
      row).isVisible = objectIsVisible row.rpkiStatus
        (scopefilterTarget (nowInScope ++ (nowOutScopeAs ++ nowOutScopePrefix)) row)
        row.routePreferenceStatus := by
  have hshared {status : ScopeFilterStatus} {dicts : List (ChangedObjectDict ScopeFilterStatus)}
      (hdicts : ChangedRows objects (fun row ↦ row.scopefilterStatus)
        (fun row status ↦ { row with scopefilterStatus := status }) status dicts)
      (hsub : dicts ⊆ nowInScope ++ (nowOutScopeAs ++ nowOutScopePrefix))
      (hmem : row.rpslPk ∈ dicts.map (fun d ↦ d.rpslPk)) :
      objectIsVisible row.rpkiStatus status row.routePreferenceStatus =
        objectIsVisible row.rpkiStatus
          (scopefilterTarget (nowInScope ++ (nowOutScopeAs ++ nowOutScopePrefix)) row)
          row.routePreferenceStatus := by
    obtain ⟨d, hd, hpk⟩ := List.mem_map.mp hmem
    obtain ⟨row', -, -, hold, hdict⟩ := hdicts d hd
    rw [← hagree row hrow hsource d (hsub hd) hpk, (scopefilterVisibility_eq hold hdict).2.1]
  unfold withScopefilterStatuses RPSLDatabaseObject.isVisible ObjectColumns.isVisible
  dsimp only
  split
  · next hmem => exact hshared hchanges.outScopePrefix (by simp) hmem
  · next hnotPrefix =>
    split
    · next hmem => exact hshared hchanges.outScopeAs (by simp) hmem
    · next hnotAs =>
      split
      · next hmem => exact hshared hchanges.inScope (by simp) hmem
      · next hnotIn =>
        have hother {status : ScopeFilterStatus}
            {dicts : List (ChangedObjectDict ScopeFilterStatus)}
            (hdicts : ChangedRows objects (fun row ↦ row.scopefilterStatus)
              (fun row status ↦ { row with scopefilterStatus := status }) status dicts)
            (hnot : row.rpslPk ∉ dicts.map (fun d ↦ d.rpslPk))
            (d : ChangedObjectDict ScopeFilterStatus) (hd : d ∈ dicts) : d.pk ≠ row.pk := by
          intro hpk
          obtain ⟨row', hrow', -, hold, hdict⟩ := hdicts d hd
          have hof := (scopefilterVisibility_eq hold hdict).1
          have hsame := hunique.eq_of_pk hrow' hrow (hof.pk.symm.trans hpk)
          exact hnot (List.mem_map.mpr ⟨d, hd, hof.rpslPk.trans (hsame ▸ rfl)⟩)
        have hnone : (nowInScope ++ (nowOutScopeAs ++ nowOutScopePrefix)).find?
            (fun d ↦ d.pk = row.pk) = none := by
          rw [List.find?_eq_none]
          intro d hd hpk
          have hpk := of_decide_eq_true hpk
          rcases List.mem_append.mp hd with hd | hd
          · exact hother hchanges.inScope hnotIn d hd hpk
          · rcases List.mem_append.mp hd with hd | hd
            · exact hother hchanges.outScopeAs hnotAs d hd hpk
            · exact hother hchanges.outScopePrefix hnotPrefix d hd hpk
        rw [scopefilterTarget, hnone]
        rfl

/-- The status for a row with a dict is that of the dict. -/
theorem scopefilterTarget_eq {changes : List (ChangedObjectDict ScopeFilterStatus)}
    {row : RPSLDatabaseObject} {d : ChangedObjectDict ScopeFilterStatus}
    (hnodup : (changes.map (fun d ↦ d.pk)).Nodup) (hd : d ∈ changes) (hpk : d.pk = row.pk) :
    scopefilterTarget changes row = d.scopefilterStatus := by
  cases hfind : changes.find? (fun d ↦ d.pk = row.pk) with
  | none => exact absurd (decide_eq_true hpk) (List.find?_eq_none.mp hfind d hd)
  | some d' =>
    have hpk' : d'.pk = row.pk := by simpa using List.find?_some hfind
    have hsame := List.inj_on_of_nodup_map hnodup (List.mem_of_find?_eq_some hfind) hd
      (hpk'.trans hpk.symm)
    rw [scopefilterTarget, hfind, hsame]
    rfl

/-- The status for a row without a dict is its own. -/
theorem scopefilterTarget_of_forall_ne {changes : List (ChangedObjectDict ScopeFilterStatus)}
    {row : RPSLDatabaseObject} (hne : ∀ d ∈ changes, d.pk ≠ row.pk) :
    scopefilterTarget changes row = row.scopefilterStatus := by
  have hnone : changes.find? (fun d ↦ d.pk = row.pk) = none := by
    simpa [List.find?_eq_none] using hne
  rw [scopefilterTarget, hnone]
  rfl

/-- Updates of the scope filter status. -/
theorem MirrorInvariant.updateScopefilterStatus (hinv : MirrorInvariant s source h more)
    (hkeep : s.keepJournal source = true)
    {nowInScope nowOutScopeAs nowOutScopePrefix : List (ChangedObjectDict ScopeFilterStatus)}
    (hchanges : ScopefilterChanges h.working.objects nowInScope nowOutScopeAs nowOutScopePrefix)
    (hagree : SharedKeysAgree source h.working.objects
      (nowInScope ++ (nowOutScopeAs ++ nowOutScopePrefix)))
    (hupdate : h.updateScopefilterStatus s nowInScope nowOutScopeAs nowOutScopePrefix = some h') :
    MirrorInvariant s source h' more := by
  obtain ⟨h₂, hvisible, hinvisible⟩ := Option.bind_eq_some_iff.mp hupdate
  have hmapped := rowsMapped_scopefilterStatuses h (nowInScope.map (fun d ↦ d.rpslPk))
    (nowOutScopeAs.map (fun d ↦ d.rpslPk)) (nowOutScopePrefix.map (fun d ↦ d.rpslPk))
  generalize hset : ((h.setScopefilterStatus .inScope
    (nowInScope.map (fun d ↦ d.rpslPk))).setScopefilterStatus .outScopeAs
    (nowOutScopeAs.map (fun d ↦ d.rpslPk))).setScopefilterStatus .outScopePrefix
    (nowOutScopePrefix.map (fun d ↦ d.rpslPk)) = h₁ at hvisible hmapped
  have hsame : SameSerials h h₁ := hset ▸ ⟨rfl, rfl, rfl, rfl, rfl, rfl, rfl⟩
  have hfirst := journaled_recordDicts (hsame.journalingEnabled.trans hinv.journaling) hkeep
    hvisible
  have hsecond := journaled_recordDicts (hfirst.journalingEnabled.trans
    (hsame.journalingEnabled.trans hinv.journaling)) hkeep hinvisible
  have hjournaled := hfirst.trans hsecond
  rw [← statusChanges_append] at hjournaled
  have hnextPk : h₁.nextPk = h.nextPk := hset ▸ rfl
  have hbuffer : h₁.rpslUpsertBuffer = h.rpslUpsertBuffer := hset ▸ rfl
  -- A row of the source is as visible as its own dict says, even where others share its key.
  have hrowVisible (row : RPSLDatabaseObject) (hrow : row ∈ h.working.objects.rows)
      (hsource : row.source = source) :=
    hchanges.isVisible hagree hinv.unique hrow hsource
  have hitem {row : RPSLDatabaseObject} {d : ChangedObjectDict ScopeFilterStatus}
      {status : ScopeFilterStatus}
      (hd : d ∈ nowInScope ++ (nowOutScopeAs ++ nowOutScopePrefix))
      (hof : DictOf d.toRPSLObjectDict row)
      (hstatus : d.scopefilterStatus = status) (hrow : row ∈ h.working.objects.rows)
      (hsource : row.source = source) :
      objectIsVisible row.rpkiStatus status row.routePreferenceStatus =
        (withScopefilterStatuses (nowInScope.map (fun d ↦ d.rpslPk))
          (nowOutScopeAs.map (fun d ↦ d.rpslPk)) (nowOutScopePrefix.map (fun d ↦ d.rpslPk))
          row).isVisible := by
    rw [hrowVisible row hrow hsource, scopefilterTarget_eq hchanges.nodup hd hof.pk, hstatus]
  refine (hinv.changeStatuses hsame hjournaled ⟨rfl, rfl, rfl, rfl, rfl, rfl, rfl⟩
    ⟨hjournaled.objects ▸ hmapped.rows, hmapped.key, hmapped.pk⟩ (hjournaled.nextPk.trans hnextPk)
    (hjournaled.buffer.trans hbuffer) ?_ ?_ ?_).1
  · simpa [List.map_append, Function.comp_def] using hchanges.nodup
  · intro i hi
    rcases List.mem_append.mp hi with hi | hi
    · obtain ⟨d, hd, rfl⟩ := List.mem_map.mp hi
      obtain ⟨row, hrow, -, hold, hdict⟩ := hchanges.inScope d hd
      obtain ⟨hof, hstatus, hvisibility⟩ := scopefilterVisibility_eq hold hdict
      refine hof.item hrow (fun hsource ↦ ?_)
      have hnow := hitem (List.mem_append_left _ hd) hof hstatus hrow hsource
      refine value_becameVisible hof rfl (hnow ▸ hvisibility) (fun hrowVisible ↦ ?_)
      rw [← hnow]
      simp only [RPSLDatabaseObject.isVisible, ObjectColumns.isVisible, objectIsVisible,
        Bool.and_eq_true] at hrowVisible ⊢
      exact ⟨⟨hrowVisible.1.1, rfl⟩, hrowVisible.2⟩
    · obtain ⟨d, hd, rfl⟩ := List.mem_map.mp hi
      have hmem := List.mem_append_right nowInScope hd
      rcases List.mem_append.mp hd with hd | hd
      · obtain ⟨row, hrow, -, hold, hdict⟩ := hchanges.outScopeAs d hd
        obtain ⟨hof, hstatus, hvisibility⟩ := scopefilterVisibility_eq hold hdict
        refine hof.item hrow (fun hsource ↦ ?_)
        have hnow := hitem hmem hof hstatus hrow hsource
        refine value_becameInvisible (hnow ▸ hvisibility) ?_
        rw [← hnow]
        simp [objectIsVisible, ScopeFilterStatus.isVisible]
      · obtain ⟨row, hrow, -, hold, hdict⟩ := hchanges.outScopePrefix d hd
        obtain ⟨hof, hstatus, hvisibility⟩ := scopefilterVisibility_eq hold hdict
        refine hof.item hrow (fun hsource ↦ ?_)
        have hnow := hitem hmem hof hstatus hrow hsource
        refine value_becameInvisible (hnow ▸ hvisibility) ?_
        rw [← hnow]
        simp [objectIsVisible, ScopeFilterStatus.isVisible]
  · intro row hrow hsource hnone
    have hne : ∀ d ∈ nowInScope ++ (nowOutScopeAs ++ nowOutScopePrefix), d.pk ≠ row.pk := by
      intro d hd
      rcases List.mem_append.mp hd with hd | hd
      · exact hnone _ (List.mem_append_left _ (List.mem_map_of_mem hd))
      · exact hnone _ (List.mem_append_right _ (List.mem_map_of_mem hd))
    have hvisible := hrowVisible row hrow hsource
    rw [scopefilterTarget_of_forall_ne hne] at hvisible
    unfold visibleText
    rw [hvisible]
    rfl

/-- The rows after an update of route preference statuses. -/
def withRoutePreferenceStatuses (visible suppressed : List Nat) (row : RPSLDatabaseObject) :
    RPSLDatabaseObject :=
  { row with routePreferenceStatus :=
      if row.pk ∈ suppressed then .suppressed
      else if row.pk ∈ visible then .visible
      else row.routePreferenceStatus }

theorem rowsMapped_routePreferenceStatuses (h : DatabaseHandler) (visible suppressed : List Nat) :
    RowsMapped h ((h.setRoutePreferenceStatus .visible visible).setRoutePreferenceStatus
      .suppressed suppressed) (withRoutePreferenceStatuses visible suppressed) := by
  refine ⟨?_, fun _ ↦ rfl, fun _ ↦ rfl⟩
  simp only [DatabaseHandler.setRoutePreferenceStatus, DatabaseHandler.updateObjects,
    KeyedTable.map, List.map_map]
  refine List.map_congr_left (fun row _ ↦ ?_)
  simp only [Function.comp_apply, decide_eq_true_eq]
  by_cases hvisible : row.pk ∈ visible <;> by_cases hsuppressed : row.pk ∈ suppressed <;>
    simp [withRoutePreferenceStatuses, hvisible, hsuppressed]

/-- What a route preference update is called with: the rows whose status changes. -/
structure RoutePreferenceChanges (objects : ObjectTable)
    (nowVisible nowSuppressed : List RPSLObjectDict) : Prop where
  visible : ∀ d ∈ nowVisible, ∃ row ∈ objects.rows,
    row.routePreferenceStatus = .suppressed ∧ d = row.toDict
  suppressed : ∀ d ∈ nowSuppressed, ∃ row ∈ objects.rows,
    row.routePreferenceStatus = .visible ∧ d = row.toDict
  nodup : ((nowVisible ++ nowSuppressed).map RPSLObjectDict.pk).Nodup

/-- Updates of the route preference status. -/
theorem MirrorInvariant.updateRoutePreferenceStatus (hinv : MirrorInvariant s source h more)
    (hkeep : s.keepJournal source = true) {nowVisible nowSuppressed : List RPSLObjectDict}
    (hchanges : RoutePreferenceChanges h.working.objects nowVisible nowSuppressed)
    (hupdate : h.updateRoutePreferenceStatus s nowVisible nowSuppressed = some h') :
    MirrorInvariant s source h' more ∧
      (RowlessStart source h.working → RowlessStart source h'.working) := by
  obtain ⟨h₁, hvisible, hupdate⟩ := Option.bind_eq_some_iff.mp hupdate
  obtain ⟨h₂, hsuppressed, hupdate⟩ := Option.bind_eq_some_iff.mp hupdate
  cases hupdate
  have hfirst := journaled_recordDicts hinv.journaling hkeep hvisible
  have hsecond := journaled_recordDicts (hfirst.journalingEnabled.trans hinv.journaling) hkeep
    hsuppressed
  have hjournaled := hfirst.trans hsecond
  rw [← statusChanges_append] at hjournaled
  have hset := rowsMapped_routePreferenceStatuses h₂ (nowVisible.map RPSLObjectDict.pk)
    (nowSuppressed.map RPSLObjectDict.pk)
  have hnodup := hchanges.nodup
  rw [List.map_append, List.nodup_append] at hnodup
  have hdisjoint {pk : Nat} (hmem : pk ∈ nowVisible.map RPSLObjectDict.pk) :
      pk ∉ nowSuppressed.map RPSLObjectDict.pk := fun h ↦ hnodup.2.2 _ hmem _ h rfl
  have hlast : SameSerials h₂ ((h₂.setRoutePreferenceStatus .visible
      (nowVisible.map RPSLObjectDict.pk)).setRoutePreferenceStatus .suppressed
      (nowSuppressed.map RPSLObjectDict.pk)) := ⟨rfl, rfl, rfl, rfl, rfl, rfl, rfl⟩
  refine hinv.changeStatuses ⟨rfl, rfl, rfl, rfl, rfl, rfl, rfl⟩ hjournaled hlast
    ⟨hjournaled.objects ▸ hset.rows, hset.key, hset.pk⟩ hjournaled.nextPk hjournaled.buffer
    ?_ ?_ ?_
  · simpa [List.map_append, Function.comp_def] using hchanges.nodup
  · intro i hi
    rcases List.mem_append.mp hi with hi | hi
    · obtain ⟨d, hd, rfl⟩ := List.mem_map.mp hi
      obtain ⟨row, hrow, hstatus, rfl⟩ := hchanges.visible d hd
      have hmem : row.pk ∈ nowVisible.map RPSLObjectDict.pk := List.mem_map_of_mem hd
      have hrowNow : withRoutePreferenceStatuses (nowVisible.map RPSLObjectDict.pk)
          (nowSuppressed.map RPSLObjectDict.pk) row =
            { row with routePreferenceStatus := .visible } := by
        unfold withRoutePreferenceStatuses
        rw [if_neg (hdisjoint hmem), if_pos hmem]
      refine DictOf.item ⟨rfl, rfl, rfl, rfl, rfl⟩ hrow (fun _ ↦ hrowNow ▸ ?_)
      have hhidden : visibleText row = none := by
        simp [visibleText, RPSLDatabaseObject.isVisible, ObjectColumns.isVisible, objectIsVisible,
          hstatus, RoutePreferenceStatus.isVisible]
      rw [hhidden]
      simp only [StatusItem.value, journalChange, visibleText]
      change _ = if DatabaseHandler.otherwiseVisible row.toDict then some row.objectText else none
      cases DatabaseHandler.otherwiseVisible row.toDict <;> rfl
    · obtain ⟨d, hd, rfl⟩ := List.mem_map.mp hi
      obtain ⟨row, hrow, hstatus, rfl⟩ := hchanges.suppressed d hd
      have hmem : row.pk ∈ nowSuppressed.map RPSLObjectDict.pk := List.mem_map_of_mem hd
      have hrowNow : withRoutePreferenceStatuses (nowVisible.map RPSLObjectDict.pk)
          (nowSuppressed.map RPSLObjectDict.pk) row =
            { row with routePreferenceStatus := .suppressed } := by
        unfold withRoutePreferenceStatuses
        rw [if_pos hmem]
      refine DictOf.item ⟨rfl, rfl, rfl, rfl, rfl⟩ hrow (fun _ ↦ hrowNow ▸ ?_)
      have hhidden : visibleText { row with routePreferenceStatus := .suppressed } = none := by
        simp [visibleText, RPSLDatabaseObject.isVisible, ObjectColumns.isVisible, objectIsVisible,
          RoutePreferenceStatus.isVisible]
      have hvisible : visibleText row =
          if DatabaseHandler.otherwiseVisible row.toDict then some row.objectText else none := by
        unfold visibleText RPSLDatabaseObject.isVisible ObjectColumns.isVisible
        rw [hstatus]
        rfl
      rw [hhidden, hvisible]
      simp only [StatusItem.value, journalChange]
      cases DatabaseHandler.otherwiseVisible row.toDict <;> rfl
  · intro row hrow hsource hnone
    have hne (dicts : List RPSLObjectDict) (hsub : dicts ⊆ nowVisible ++ nowSuppressed) :
        row.pk ∉ dicts.map RPSLObjectDict.pk := by
      intro hmem
      obtain ⟨d, hd, hpk⟩ := List.mem_map.mp hmem
      rcases List.mem_append.mp (hsub hd) with hd | hd
      · exact hnone _ (List.mem_append_left _ (List.mem_map_of_mem hd)) hpk
      · exact hnone _ (List.mem_append_right _ (List.mem_map_of_mem hd)) hpk
    unfold withRoutePreferenceStatuses
    rw [if_neg (hne nowSuppressed (by simp)), if_neg (hne nowVisible (by simp))]

end Statuses

section Deletions

variable {s : Settings} {source : String} {h h' : DatabaseHandler}

/-- Removing a row, and recording that. -/
theorem MirrorInvariant.remove {h₁ h₂ : DatabaseHandler} {row : RPSLDatabaseObject}
    {origin : JournalEntryOrigin} {sourceSerial : Option Nat}
    (hinv : MirrorInvariant s source h (if row.source = source then sourceSerial.toList else []))
    (hkeep : s.keepJournal source = true) (hempty : h.rpslUpsertBuffer = [])
    (hfirst : SameSerials h h₁) (hbuffer : h₁.rpslUpsertBuffer = h.rpslUpsertBuffer)
    (hnextPk : h.nextPk ≤ h₁.nextPk)
    (hsub : h₁.working.objects.rows ⊆ h.working.objects.rows)
    (hunique : h₁.working.objects.PksUnique)
    (hfind : ∀ key, h₁.working.objects.find key =
      if key = row.key then none else h.working.objects.find key)
    (hrecord : h₁.recordOperation s ⟨.delete, row.rpslPk, row.source, row.objectClass,
      row.objectText, origin, sourceSerial⟩ = some h₂)
    (hlast : SameSerials h₂ h') (hobjects : h'.working.objects = h₂.working.objects)
    (hbuffer' : h'.rpslUpsertBuffer = h₂.rpslUpsertBuffer) (hnextPk' : h'.nextPk = h₂.nextPk) :
    MirrorInvariant s source h' [] := by
  have hjournaled := journaled_recordOperation (hfirst.journalingEnabled.trans hinv.journaling)
    hkeep hrecord
  have hpending : pendingSerials source h'.rpslUpsertBuffer = [] := by
    rw [hbuffer', hjournaled.buffer, hbuffer, hempty]
    rfl
  have hobjects' : h'.working.objects = h₁.working.objects := hobjects.trans hjournaled.objects
  refine (hinv.journaled hfirst hjournaled hlast ?_ ?_ ?_ ?_).1
  · have horder := hinv.order
    rw [hempty] at horder
    rw [hpending]
    simpa [pendingSerials] using horder
  · rw [hobjects']
    by_cases hsource : row.source = source
    · rw [if_pos hsource]
      exact replay_delete hsource hfind
    · rw [if_neg hsource, visibleContents_remove hsource hfind]
      rfl
  · rw [hobjects']
    exact hunique
  · intro r hr
    rw [hobjects'] at hr
    rw [hnextPk', hjournaled.nextPk]
    exact Nat.lt_of_lt_of_le (hinv.fresh r (hsub hr)) hnextPk

/-- Deleting an object. -/
theorem MirrorInvariant.delete {origin : JournalEntryOrigin} {a : DatabaseHandler.DeleteArguments}
    {sourceSerial : Option Nat} {protect : Bool}
    (hinv : MirrorInvariant s source h
      (if a.key.any (fun key ↦ key.source = source) then sourceSerial.toList else []))
    (hkeep : s.keepJournal source = true)
    (hnone : SuppressesNone source h.working.objects h.rpslUpsertBuffer)
    (hdelete : h.deleteRpslObject s origin a sourceSerial protect = some h') :
    MirrorInvariant s source h' [] := by
  unfold DatabaseHandler.deleteRpslObject at hdelete
  obtain ⟨h₁, hflush, hdelete⟩ := Option.bind_eq_some_iff.mp hdelete
  obtain ⟨hinv₁, hempty⟩ := hinv.flush hkeep hnone hflush
  split at hdelete
  · cases hdelete
    refine hinv₁.same ⟨rfl, rfl, rfl, rfl, rfl, rfl, rfl⟩ rfl (Nat.le_refl _) ?_
    exact (List.nil_sublist _).append_left _
  · next row hfound =>
    obtain ⟨key, hkey, hrow⟩ := Option.bind_eq_some_iff.mp hfound
    have hrowKey : row.key = key := KeyedTable.find_key hrow
    have hsource : key.source = row.source := hrowKey ▸ rfl
    obtain ⟨h₂, hrecord, hdelete⟩ := Option.bind_eq_some_iff.mp hdelete
    have hserials : MirrorInvariant s source h₁
        (if row.source = source then sourceSerial.toList else []) := by
      simpa [hkey, hsource] using hinv₁
    have hremove (h'' : DatabaseHandler) (hlast : SameSerials h₂ h'')
        (hobjects : h''.working.objects = h₂.working.objects)
        (hbuffer : h''.rpslUpsertBuffer = h₂.rpslUpsertBuffer) (hpk : h''.nextPk = h₂.nextPk) :
        MirrorInvariant s source h'' [] := by
      have hfirst : SameSerials h₁ (h₁.removeObjects (fun r ↦ r.key = row.key)) :=
        ⟨rfl, rfl, rfl, rfl, rfl, rfl, rfl⟩
      refine hserials.remove hkeep hempty hfirst rfl (Nat.le_refl _) ?_ (hinv₁.unique.filter _) ?_
        hrecord hlast hobjects hbuffer hpk
      · exact List.filter_sublist.subset
      · intro key'
        refine (KeyedTable.find_filter _ _ key').trans ?_
        by_cases hsame : key' = row.key
        · rw [if_pos hsame]
          cases hold : h₁.working.objects.find key' with
          | none => rfl
          | some old =>
            have hold := KeyedTable.find_key hold
            simp [Option.filter, hold, hsame]
        · rw [if_neg hsame]
          cases hold : h₁.working.objects.find key' with
          | none => rfl
          | some old =>
            have hold := KeyedTable.find_key hold
            simp [Option.filter, hold, hsame]
    dsimp only at hdelete
    split at hdelete
    · cases hdelete
      exact hremove _ ⟨rfl, rfl, rfl, rfl, rfl, rfl, rfl⟩ rfl rfl rfl
    · cases hdelete
      exact hremove _ ⟨rfl, rfl, rfl, rfl, rfl, rfl, rfl⟩ rfl rfl rfl

/-- Suspending an object. -/
theorem MirrorInvariant.suspend {pk : Nat} (hinv : MirrorInvariant s source h [])
    (hkeep : s.keepJournal source = true)
    (hnone : SuppressesNone source h.working.objects h.rpslUpsertBuffer)
    (hsuspend : h.suspendRpslObject s pk = some h') : MirrorInvariant s source h' [] := by
  unfold DatabaseHandler.suspendRpslObject at hsuspend
  obtain ⟨h₁, hflush, hsuspend⟩ := Option.bind_eq_some_iff.mp hsuspend
  obtain ⟨hinv₁, hempty⟩ := hinv.flush hkeep hnone hflush
  split at hsuspend
  · cases hsuspend
    exact hinv₁
  · next row hrows =>
    obtain ⟨mntners, -, hsuspend⟩ := Option.bind_eq_some_iff.mp hsuspend
    obtain ⟨h₂, hrecord, hsuspend⟩ := Option.bind_eq_some_iff.mp hsuspend
    cases hsuspend
    have hmem : row ∈ h₁.working.objects.rows.filter (fun row ↦ row.pk = pk) :=
      hrows ▸ List.mem_singleton_self row
    obtain ⟨hrow, hpk⟩ := List.mem_filter.mp hmem
    have hpk : row.pk = pk := of_decide_eq_true hpk
    have hserials : MirrorInvariant s source h₁
        (if row.source = source then (none : Option Nat).toList else []) := by
      simpa using hinv₁
    refine hserials.remove hkeep hempty ?_ ?_ ?_ ?_ ?_ ?_ hrecord
      (sameSerials_objectModified ..) rfl rfl rfl
    · exact ⟨rfl, rfl, rfl, rfl, rfl, rfl, rfl⟩
    · rfl
    · exact Nat.le_succ _
    · exact List.filter_sublist.subset
    · exact hinv₁.unique.filter _
    · intro key
      refine (KeyedTable.find_filter _ _ key).trans ?_
      cases hold : h₁.working.objects.find key with
      | none => simp
      | some old =>
        obtain ⟨holdRow, holdKey⟩ := (KeyedTable.find_eq_some_iff _ _ _).mp hold
        by_cases hsame : key = row.key
        · have heq : old = row := List.inj_on_of_nodup_map h₁.working.objects.nodup holdRow hrow
            (holdKey.trans hsame)
          simp [Option.filter, hsame, heq, hpk]
        · have hne : old.pk ≠ pk := by
            intro hold
            have heq := hinv₁.unique.eq_of_pk holdRow hrow (hold.trans hpk.symm)
            exact hsame (heq ▸ holdKey.symm)
          simp [Option.filter, hsame, hne]
  · cases hsuspend

end Deletions

section Transactions

variable {s : Settings} {source : String} {h h' : DatabaseHandler}

/-- The rows that an evaluation of route preferences changes. -/
theorem routePreferenceChanges_of_changedRoutes {objects : ObjectTable} {prefixes : List IP}
    {nowVisible nowSuppressed : List RPSLDatabaseObject} (hunique : objects.PksUnique)
    (hchanged : changedRoutes s objects.rows prefixes = some (nowVisible, nowSuppressed)) :
    RoutePreferenceChanges objects (nowVisible.map RPSLDatabaseObject.toDict)
      (nowSuppressed.map RPSLDatabaseObject.toDict) := by
  obtain ⟨hvisible, hsuppressed⟩ := changedRoutes_status hunique hchanged
  obtain ⟨hsubVisible, hsubSuppressed⟩ := changedRoutes_sublist hchanged
  refine ⟨fun d hd ↦ ?_, fun d hd ↦ ?_, ?_⟩
  · obtain ⟨row, hrow, rfl⟩ := List.mem_map.mp hd
    exact ⟨row, hsubVisible.subset hrow, hvisible row hrow, rfl⟩
  · obtain ⟨row, hrow, rfl⟩ := List.mem_map.mp hd
    exact ⟨row, hsubSuppressed.subset hrow, hsuppressed row hrow, rfl⟩
  · have hpks (rows : List RPSLDatabaseObject) :
        (rows.map RPSLDatabaseObject.toDict).map RPSLObjectDict.pk =
          rows.map RPSLDatabaseObject.pk := by
      rw [List.map_map]
      rfl
    rw [List.map_append, hpks, hpks, List.nodup_append]
    refine ⟨(hsubVisible.map _).nodup hunique, (hsubSuppressed.map _).nodup hunique, ?_⟩
    intro pk hpk pk' hpk' he
    obtain ⟨row, hrow, rfl⟩ := List.mem_map.mp hpk
    obtain ⟨row', hrow', rfl⟩ := List.mem_map.mp hpk'
    have hsame := hunique.eq_of_pk (hsubVisible.subset hrow) (hsubSuppressed.subset hrow') he
    have hstatus := hvisible row hrow
    rw [hsame, hsuppressed row' hrow'] at hstatus
    cases hstatus

/-- Evaluating route preferences before a commit. -/
theorem MirrorInvariant.preCommit (hinv : MirrorInvariant s source h [])
    (hkeep : s.keepJournal source = true) (hempty : h.rpslUpsertBuffer = [])
    (hstart : RowlessStart source h.working) (hcommit : h.preCommit s = some h') :
    MirrorInvariant s source h' [] ∧ RowlessStart source h'.working := by
  unfold DatabaseHandler.preCommit DatabaseHandler.evaluateRoutePreference at hcommit
  dsimp only at hcommit
  split at hcommit
  · cases hcommit
    exact ⟨hinv, hstart⟩
  · split at hcommit
    · cases hcommit
      exact ⟨hinv, hstart⟩
    · obtain ⟨h₁, hflush, hcommit⟩ := Option.bind_eq_some_iff.mp hcommit
      unfold DatabaseHandler.flushRpslObjectWritingBuffer at hflush
      rw [if_pos hempty] at hflush
      cases hflush
      split at hcommit
      · cases hcommit
        exact ⟨hinv, hstart⟩
      · next nowVisible nowSuppressed hchanged =>
        have hchanges := routePreferenceChanges_of_changedRoutes hinv.unique hchanged
        obtain ⟨hinv', hstart'⟩ := hinv.updateRoutePreferenceStatus hkeep hchanges hcommit
        exact ⟨hinv', hstart' hstart⟩

/-- Finalising a transaction gives every source seen a status row. -/
theorem MirrorInvariant.finalise (hinv : MirrorInvariant s source h [])
    (hempty : h.rpslUpsertBuffer = []) :
    MirrorInvariant s source (h.finaliseTransaction s) [] ∧
      RowlessStart source (h.finaliseTransaction s).working := by
  obtain ⟨hframe, hsync, hcolumns⟩ := finaliseTransaction_spec (s := s) h
  have hrow : (h.finaliseTransaction s).working.status.find source = none →
      h.working.status.find source = none ∧ source ∉ h.statusTracker.sourcesSeen := by
    intro hnone
    have hcolumns := hcolumns source
    rw [(Database.serialColumns_eq_none_iff _ _).mpr hnone] at hcolumns
    by_cases hseen : source ∈ h.statusTracker.sourcesSeen
    · simp [hseen] at hcolumns
    · rw [if_neg hseen, eq_comm, Option.map_eq_none_iff,
        Database.serialColumns_eq_none_iff] at hcolumns
      exact ⟨hcolumns, hseen⟩
  have hserials : (h.finaliseTransaction s).working.journal.serials source =
      h.working.journal.serials source := by rw [hframe.journal]
  have horder := hinv.order
  rw [hempty] at horder
  refine ⟨⟨?_, ?_, ?_, ?_, ?_, ?_⟩, ?_⟩
  · exact hframe.journalingEnabled.trans hinv.journaling
  · rw [hframe.journal, hframe.objects]
    exact hinv.replay
  · rw [hframe.buffer, hempty]
    refine horder.congr hserials (fun hnone ↦ (hrow hnone).1) ?_ ?_ (hsync source)
    · rw [hframe.newSerials]
    · rw [hframe.seen]
      exact id
  · rw [hframe.objects]
    exact hinv.unique
  · rw [hframe.objects, hframe.nextPk]
    exact hinv.fresh
  · rw [hframe.committed]
    exact hinv.committed
  · intro hnone hne
    obtain ⟨hnone, hunseen⟩ := hrow hnone
    rw [hserials] at hne ⊢
    rcases horder.rowless hnone hne with hone | hnew
    · exact hone
    · exact absurd (horder.bound hnew).2 hunseen

/-- A commit leaves a journal that leads to the visible objects. -/
theorem MirrorInvariant.commit (hinv : MirrorInvariant s source h [])
    (hkeep : s.keepJournal source = true)
    (hnone : SuppressesNone source h.working.objects h.rpslUpsertBuffer)
    (hcommit : h.commit s = some h') : MirrorInvariant s source h' [] := by
  unfold DatabaseHandler.commit at hcommit
  obtain ⟨h₁, hflush, hcommit⟩ := Option.bind_eq_some_iff.mp hcommit
  obtain ⟨h₂, hroas, hcommit⟩ := Option.bind_eq_some_iff.mp hcommit
  obtain ⟨roas, rfl⟩ := DatabaseHandler.flushRoaWritingBuffer_eq_some hroas
  obtain ⟨h₃, hpre, hcommit⟩ := Option.bind_eq_some_iff.mp hcommit
  cases hcommit
  obtain ⟨hinv₁, hempty⟩ := hinv.flush hkeep hnone hflush
  have hinv₂ : MirrorInvariant s source
      { h₁ with working := { h₁.working with roas }, roaInsertBuffer := [] } [] :=
    hinv₁.same ⟨rfl, rfl, rfl, rfl, rfl, rfl, rfl⟩ rfl (Nat.le_refl _) (List.Sublist.refl _)
  obtain ⟨hinv₃, hstart⟩ := hinv₂.finalise hempty
  have hframe := (finaliseTransaction_spec (s := s)
    { h₁ with working := { h₁.working with roas }, roaInsertBuffer := [] }).1
  rw [if_pos hinv₃.journaling] at hpre
  obtain ⟨hinv₄, hstart'⟩ := hinv₃.preCommit hkeep (hframe.buffer.trans hempty) hstart hpre
  have hsorted := hinv₄.order.sorted
  refine ⟨hinv₄.journaling, hinv₄.replay, ⟨hsorted, fun hne ↦ absurd rfl hne, ?_, fun _ ↦ ?_⟩,
    hinv₄.unique, hinv₄.fresh, ?_⟩
  · exact fun hnone hne ↦ Or.inl (hstart' hnone hne)
  · simpa [DatabaseHandler.startTransaction, pendingSerials] using hsorted
  · exact (mirroredContents_eq hsorted).trans hinv₄.replay

end Transactions

end Irrd.Storage
