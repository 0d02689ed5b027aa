import Irrd.Storage.ObjectWrites
import Irrd.Storage.RecordedOperations

/-!
# Buffered writing

Upserts wait in a buffer, which is flushed by its size, by queries, by removals and by a second
write to an object in it. This compares runs of a handler, for any size, with writing objects one
at a time.
-/

namespace Irrd.Storage

open Irrd.Base Irrd.Conf Irrd.Rpsl

/-- The calls that write or read objects. -/
inductive WriteCall
  | upsertRpslObject (o : RPSLObject) (origin : JournalEntryOrigin)
      (sourceSerial forcedCreatedValue : Option Nat)
  | deleteRpslObject (origin : JournalEntryOrigin) (a : DatabaseHandler.DeleteArguments)
      (sourceSerial : Option Nat) (protectRpslName : Bool)
  | suspendRpslObject (pk : Nat)
  | executeQuery

namespace DatabaseHandler

variable (s : Settings) (h : DatabaseHandler)

/-- Flush where the buffer is longer than a limit. -/
def flushIfLonger (limit : Nat) : Option DatabaseHandler :=
  if limit < h.rpslUpsertBuffer.length then h.flushRpslObjectWritingBuffer s else some h

/-- `upsert_rpsl_object` with a limit for the size of the buffer. -/
def upsertWithLimit (limit : Nat) (o : RPSLObject) (origin : JournalEntryOrigin)
    (rpslGuaranteedNoExisting : Bool) (sourceSerial forcedCreatedValue : Option Nat) :
    Option DatabaseHandler := do
  let h := { h with
    rpslGuaranteedNoExisting := h.rpslGuaranteedNoExisting && rpslGuaranteedNoExisting }
  let h ← h.flushIfSeen s o
  (h.bufferUpsert o origin sourceSerial forcedCreatedValue).flushIfLonger s limit

theorem upsertRpslObject_eq (o : RPSLObject) (origin : JournalEntryOrigin) (guaranteed : Bool)
    (sourceSerial created : Option Nat) :
    h.upsertRpslObject s o origin guaranteed sourceSerial created =
      h.upsertWithLimit s maxRecordsBufferBeforeInsert o origin guaranteed sourceSerial created :=
  rfl

/-- A call, at a time. Upserts come without the guarantee that the object is new. -/
def call (limit now : Nat) : WriteCall → Option DatabaseHandler
  | .upsertRpslObject o origin sourceSerial created =>
    { h with now }.upsertWithLimit s limit o origin false sourceSerial created
  | .deleteRpslObject origin a sourceSerial protect =>
    { h with now }.deleteRpslObject s origin a sourceSerial protect
  | .suspendRpslObject pk => { h with now }.suspendRpslObject s pk
  | .executeQuery => { h with now }.flushRpslObjectWritingBuffer s

end DatabaseHandler

/-- Objects that are written one at a time: the rows, with the next row key and the operations
on them, in order. -/
structure SequentialStore where
  objects : ObjectTable
  nextPk : Nat
  operations : List Operation

namespace SequentialStore

variable (t : SequentialStore)

/-- The row for an upsert. -/
def newRow (now : Nat) (b : BufferedUpsert) : RPSLDatabaseObject :=
  { b.columns with pk := t.nextPk, created := b.created.getD now }

/-- Write one object. A row with the same key keeps its row key. -/
def write (now : Nat) (b : BufferedUpsert) : SequentialStore where
  objects := DatabaseHandler.upsertRow t.objects (t.newRow now b)
  nextPk := t.nextPk + 1
  operations := t.operations ++ flushedOperations [b]

/-- Remove rows. -/
def remove (rows : List RPSLDatabaseObject) (origin : JournalEntryOrigin)
    (sourceSerial : Option Nat) : SequentialStore :=
  { t with
    objects := t.objects.filter (fun row ↦ row ∉ rows)
    operations := t.operations ++
      rows.map (fun row ↦ deleteOperation row origin sourceSerial) }

/-- The effect of a call at a time, given the columns that are written for an object then. A
suspended row takes a row key. -/
def call (columns : RPSLObject → ObjectColumns) (now : Nat) : WriteCall → SequentialStore
  | .upsertRpslObject o origin sourceSerial created =>
    t.write now ⟨columns o, created, origin, sourceSerial⟩
  | .deleteRpslObject origin a sourceSerial _ =>
    t.remove (a.key.bind t.objects.find).toList origin sourceSerial
  | .suspendRpslObject pk =>
    let rows := t.objects.rows.filter (fun row ↦ row.pk = pk)
    { t.remove rows .suspension none with nextPk := t.nextPk + rows.length }
  | .executeQuery => t

end SequentialStore

section Contents

/-- A row without its creation time. -/
def RPSLDatabaseObject.contents (row : RPSLDatabaseObject) : ObjectColumns × Nat :=
  (row.toObjectColumns, row.pk)

/-- Rows without their creation times. -/
def ObjectTable.contents (t : ObjectTable) : List (ObjectColumns × Nat) :=
  t.rows.map RPSLDatabaseObject.contents

/-- Replace the columns under a key, or add them with a new row key. -/
def upsertContents (rows : List (ObjectColumns × Nat)) (new : ObjectColumns × Nat) :
    List (ObjectColumns × Nat) :=
  if new.1.key ∈ rows.map (fun row ↦ row.1.key) then
    rows.map (fun row ↦ if row.1.key = new.1.key then (new.1, row.2) else row)
  else rows ++ [new]

variable {t t' : ObjectTable}

theorem contents_keys (t : ObjectTable) :
    t.contents.map (fun row ↦ row.1.key) = t.rows.map RPSLDatabaseObject.key := by
  rw [ObjectTable.contents, List.map_map]
  rfl

theorem contents_upsertRow (t : ObjectTable) (row : RPSLDatabaseObject) :
    ObjectTable.contents (DatabaseHandler.upsertRow t row) =
      upsertContents t.contents row.contents := by
  unfold DatabaseHandler.upsertRow KeyedTable.upsert upsertContents
  rw [contents_keys]
  split
  · next u hu =>
    obtain ⟨hnone, hrows⟩ := KeyedTable.append_eq_some hu
    have hnew : row.key ∉ t.rows.map RPSLDatabaseObject.key := by
      intro hmem
      obtain ⟨old, hold, hkey⟩ := List.mem_map.mp hmem
      exact (KeyedTable.find_eq_none_iff t row.key).mp hnone old hold hkey
    refine Eq.trans ?_ (if_neg hnew).symm
    rw [ObjectTable.contents, hrows, List.map_append]
    rfl
  · next htaken =>
    obtain ⟨old, hold⟩ := (KeyedTable.append_eq_none_iff t row).mp htaken
    have hmem : row.key ∈ t.rows.map RPSLDatabaseObject.key :=
      List.mem_map.mpr ⟨old, KeyedTable.find_mem hold, KeyedTable.find_key hold⟩
    refine Eq.trans ?_ (if_pos hmem).symm
    unfold ObjectTable.contents KeyedTable.map
    rw [List.map_map, List.map_map]
    refine List.map_congr_left (fun r _ ↦ ?_)
    show (if r.key = row.key then ({ row with pk := r.pk } : RPSLDatabaseObject) else r).contents =
      if r.key = row.key then (row.toObjectColumns, r.pk) else r.contents
    split <;> rfl

/-- Tables with the same contents find the same rows. -/
theorem find_of_contents (hsame : t.contents = t'.contents) (key : ObjectKey) :
    (t.find key).map RPSLDatabaseObject.contents =
      (t'.find key).map RPSLDatabaseObject.contents := by
  have hfound : t.contents.find? (fun row ↦ row.1.key = key) =
      t'.contents.find? (fun row ↦ row.1.key = key) := by rw [hsame]
  unfold ObjectTable.contents at hfound
  rw [List.find?_map, List.find?_map] at hfound
  exact hfound

/-- Removing rows of a table. -/
theorem contents_remove (t : ObjectTable) {rows : List RPSLDatabaseObject}
    (hsub : rows ⊆ t.rows) :
    (t.rows.filter (fun row ↦ row ∉ rows)).map RPSLDatabaseObject.contents =
      t.contents.filter (fun row ↦ row.1.key ∉ rows.map RPSLDatabaseObject.key) := by
  rw [ObjectTable.contents, List.filter_map]
  congr 1
  refine List.filter_congr (fun row hrow ↦ ?_)
  have hkey : row ∈ rows ↔ row.key ∈ rows.map RPSLDatabaseObject.key := by
    refine ⟨List.mem_map_of_mem, fun hmem ↦ ?_⟩
    obtain ⟨other, hother, hsame⟩ := List.mem_map.mp hmem
    rwa [← List.inj_on_of_nodup_map t.nodup (hsub hother) hrow hsame]
  exact decide_eq_decide.mpr (not_congr hkey)

end Contents

section Flushing

variable {s : Settings} {h h' : DatabaseHandler}

/-- The pending rows, with the row keys that they would get. -/
def DatabaseHandler.pendingRows (h : DatabaseHandler) : List (ObjectColumns × Nat) :=
  h.rpslUpsertBuffer.mapIdx (fun i b ↦ (b.columns, h.nextPk + i))

/-- The contents of the objects once the pending upserts are written. -/
def DatabaseHandler.pendingContents (h : DatabaseHandler) : List (ObjectColumns × Nat) :=
  h.pendingRows.foldl upsertContents h.working.objects.contents

/-- No upsert of the buffer lacks a forced creation time if the first one has one. -/
def UniformCreated (buffer : List BufferedUpsert) : Prop :=
  (∃ b ∈ buffer.head?, b.created ≠ none) → ∀ b ∈ buffer, b.created ≠ none

theorem contents_foldl_upsertRow (rows : List RPSLDatabaseObject) (t : ObjectTable) :
    ObjectTable.contents (rows.foldl DatabaseHandler.upsertRow t) =
      (rows.map RPSLDatabaseObject.contents).foldl upsertContents t.contents := by
  induction rows generalizing t with
  | nil => rfl
  | cons row rows ih => rw [List.foldl_cons, ih, contents_upsertRow, List.map_cons, List.foldl_cons]

/-- The statement that writes the buffer succeeds exactly if it has no key twice, and no creation
time is missing. -/
theorem writeObjects_isSome_iff (hguaranteed : h.rpslGuaranteedNoExisting = false) :
    h.writeObjects.isSome ↔ UniformCreated h.rpslUpsertBuffer ∧
      (h.rpslUpsertBuffer.map (fun b ↦ b.columns.key)).Nodup := by
  have hforced : (h.rpslUpsertBuffer.head?.bind BufferedUpsert.created).isSome ∧
      h.rpslUpsertBuffer.any (fun b ↦ b.created.isNone) ↔ ¬ UniformCreated h.rpslUpsertBuffer := by
    unfold UniformCreated
    cases h.rpslUpsertBuffer with
    | nil => simp
    | cons b buffer =>
      by_cases hcreated : b.created = none <;> simp [Option.isSome_iff_ne_none, hcreated]
  simp only [DatabaseHandler.writeObjects]
  by_cases hmixed : UniformCreated h.rpslUpsertBuffer
  · rw [if_neg (fun hboth ↦ hforced.mp hboth hmixed), hguaranteed]
    by_cases hnodup : (h.rpslUpsertBuffer.map (fun b ↦ b.columns.key)).Nodup
    · simp [hmixed, hnodup]
    · simp [hnodup]
  · rw [if_pos (hforced.mpr hmixed)]
    simp [hmixed]

theorem writeObjects_contents (hguaranteed : h.rpslGuaranteedNoExisting = false)
    (hwrite : h.writeObjects = some h') :
    h'.working.objects.contents = h.pendingContents ∧
      h'.nextPk = h.nextPk + h.rpslUpsertBuffer.length ∧ h'.rpslGuaranteedNoExisting = false := by
  simp only [DatabaseHandler.writeObjects, hguaranteed] at hwrite
  split at hwrite
  · cases hwrite
  · simp only [Bool.false_eq_true, if_false] at hwrite
    split at hwrite
    · cases hwrite
      refine ⟨?_, rfl, rfl⟩
      rw [contents_foldl_upsertRow]
      unfold DatabaseHandler.pendingContents DatabaseHandler.pendingRows
      congr 1
      refine List.ext_getElem (by simp) (fun i hi hi' ↦ ?_)
      simp only [List.getElem_map, List.getElem_mapIdx, DatabaseHandler.proposedRow]
      split <;> rfl
    · cases hwrite

/-- A flush writes the pending rows. -/
theorem flush_contents (hguaranteed : h.rpslUpsertBuffer ≠ [] → h.rpslGuaranteedNoExisting = false)
    (hflush : h.flushRpslObjectWritingBuffer s = some h') :
    h'.working.objects.contents = h.pendingContents ∧
      h'.nextPk = h.nextPk + h.rpslUpsertBuffer.length ∧
      h'.rpslGuaranteedNoExisting = h.rpslGuaranteedNoExisting := by
  unfold DatabaseHandler.flushRpslObjectWritingBuffer at hflush
  split at hflush
  · next hempty =>
    cases hflush
    simp [DatabaseHandler.pendingContents, DatabaseHandler.pendingRows, hempty]
  · next hpending =>
    obtain ⟨h₁, hwrite, hflush⟩ := Option.bind_eq_some_iff.mp hflush
    obtain ⟨h₂, hrecord, hflush⟩ := Option.bind_eq_some_iff.mp hflush
    cases hflush
    obtain ⟨hobjects, -, hnextPk, hsame⟩ := recordUpserts_frame hrecord
    obtain ⟨hcontents, hpk, hfalse⟩ := writeObjects_contents (hguaranteed hpending) hwrite
    refine ⟨(congrArg ObjectTable.contents hobjects).trans hcontents, hnextPk.trans hpk, ?_⟩
    exact hsame.trans (hfalse.trans (hguaranteed hpending).symm)

end Flushing

section Journaling

/-- The operation that a journal entry shows. -/
def RPSLDatabaseJournal.toOperation (e : RPSLDatabaseJournal) : Operation :=
  ⟨e.operation, e.rpslPk, e.source, e.objectClass, e.objectText, e.origin, none⟩

/-- What a journal shows of operations: those of sources that keep one. -/
def journalOperations (s : Settings) (journaling : Bool) (ops : List Operation) : List Operation :=
  (ops.filter (fun op ↦ journaling && s.keepJournal op.source)).map
    (fun op ↦ { op with sourceSerial := none })

/-- Between two handlers, the journal got entries for these operations, in order. -/
structure OperationsJournaled (s : Settings) (h h' : DatabaseHandler) (ops : List Operation) :
    Prop where
  journal : ∃ entries, h'.working.journal.rows = h.working.journal.rows ++ entries ∧
    entries.map RPSLDatabaseJournal.toOperation = journalOperations s h.journalingEnabled ops
  journalingEnabled : h'.journalingEnabled = h.journalingEnabled

variable {s : Settings} {h h' h'' : DatabaseHandler} {ops more : List Operation}

theorem OperationsJournaled.refl : OperationsJournaled s h h [] := ⟨⟨[], by simp, rfl⟩, rfl⟩

theorem OperationsJournaled.trans (hfirst : OperationsJournaled s h h' ops)
    (hsecond : OperationsJournaled s h' h'' more) : OperationsJournaled s h h'' (ops ++ more) := by
  obtain ⟨first, hrows, hops⟩ := hfirst.journal
  obtain ⟨second, hrows', hops'⟩ := hsecond.journal
  refine ⟨⟨first ++ second, ?_, ?_⟩, hsecond.journalingEnabled.trans hfirst.journalingEnabled⟩
  · rw [hrows', hrows, List.append_assoc]
  · rw [hfirst.journalingEnabled] at hops'
    rw [List.map_append, hops, hops', journalOperations, journalOperations, journalOperations,
      List.filter_append, List.map_append]

theorem RecordedOperations.journaled (hrecorded : RecordedOperations s h ops h') :
    OperationsJournaled s h h' ops := by
  induction hrecorded with
  | refl => exact .refl
  | same _ hsame ih =>
    obtain ⟨entries, hrows, hops⟩ := ih.journal
    refine ⟨⟨entries, ?_, hops⟩, hsame.journalingEnabled.trans ih.journalingEnabled⟩
    rw [hsame.journal]
    exact hrows
  | record op _ hop ih =>
    refine ih.trans ?_
    obtain ⟨hframe, hcases⟩ := recordOperation_eq_some hop
    rcases hcases with ⟨hskipped, rfl⟩ | ⟨hkept, serial, -, hinserted⟩
    · exact ⟨⟨[], by simp [DatabaseHandler.seeSource], by simp [journalOperations, hskipped]⟩,
        hframe.journalingEnabled⟩
    · obtain ⟨e, hesource, -, hepk, heclass, heop, hetext, heorigin, -, hrows, -⟩ :=
        hinserted.entry
      refine ⟨⟨[e], hrows, ?_⟩, hframe.journalingEnabled⟩
      simp [journalOperations, hkept, RPSLDatabaseJournal.toOperation, hesource, hepk, heclass,
        heop, hetext, heorigin]

end Journaling

/-- What identifies a pending upsert in `_rpsl_pk_source_seen`. -/
def BufferedUpsert.pkSource (b : BufferedUpsert) : String :=
  b.columns.rpslPk ++ "-" ++ b.columns.source

/-- A handler and the objects written one at a time: with the pending upserts written, the handler
has the same objects, and its journal shows the operations that are not pending. -/
structure BufferedView (s : Settings) (h₀ h : DatabaseHandler) (t : SequentialStore) : Prop where
  contents : h.pendingContents = t.objects.contents
  nextPk : t.nextPk = h.nextPk + h.rpslUpsertBuffer.length
  recorded : ∃ ops, OperationsJournaled s h₀ h ops ∧
    t.operations = ops ++ flushedOperations h.rpslUpsertBuffer
  guaranteed : h.rpslUpsertBuffer ≠ [] → h.rpslGuaranteedNoExisting = false
  seen : ∀ b ∈ h.rpslUpsertBuffer, b.pkSource ∈ h.rpslPkSourceSeen
  distinct : (h.rpslUpsertBuffer.map BufferedUpsert.pkSource).Nodup

section Views

variable {s : Settings} {h₀ h h' : DatabaseHandler} {t : SequentialStore}

/-- Without pending upserts, the objects are the same. -/
theorem BufferedView.contents_eq (hview : BufferedView s h₀ h t)
    (hempty : h.rpslUpsertBuffer = []) :
    h.working.objects.contents = t.objects.contents := by
  rw [← hview.contents, DatabaseHandler.pendingContents, DatabaseHandler.pendingRows, hempty]
  rfl

/-- Changes of the handler that the objects and the buffer do not depend on. -/
theorem BufferedView.congr (hview : BufferedView s h₀ h t) (hworking : h'.working = h.working)
    (hnextPk : h'.nextPk = h.nextPk) (hbuffer : h'.rpslUpsertBuffer = h.rpslUpsertBuffer)
    (hseen : h'.rpslPkSourceSeen = h.rpslPkSourceSeen)
    (hjournaling : h'.journalingEnabled = h.journalingEnabled)
    (hguaranteed : h.rpslUpsertBuffer ≠ [] → h'.rpslGuaranteedNoExisting = false) :
    BufferedView s h₀ h' t := by
  obtain ⟨ops, hjournaled, hops⟩ := hview.recorded
  refine ⟨?_, ?_, ⟨ops, ⟨hworking ▸ hjournaled.journal, hjournaling.trans
    hjournaled.journalingEnabled⟩, hbuffer ▸ hops⟩, hbuffer ▸ hguaranteed, ?_, ?_⟩
  · unfold DatabaseHandler.pendingContents DatabaseHandler.pendingRows
    rw [hworking, hnextPk, hbuffer]
    exact hview.contents
  · rw [hnextPk, hbuffer]
    exact hview.nextPk
  · rw [hbuffer, hseen]
    exact hview.seen
  · rw [hbuffer]
    exact hview.distinct

/-- The buffer has no key twice. -/
theorem BufferedView.nodup (hview : BufferedView s h₀ h t) :
    (h.rpslUpsertBuffer.map (fun b ↦ b.columns.key)).Nodup := by
  rw [List.Nodup, List.pairwise_map]
  refine (List.pairwise_map.mp hview.distinct).imp (fun hne hkey ↦ hne ?_)
  rw [BufferedUpsert.pkSource, BufferedUpsert.pkSource]
  have hpk := congrArg ObjectKey.rpslPk hkey
  have hsource := congrArg ObjectKey.source hkey
  simp only [ObjectColumns.key] at hpk hsource
  rw [hpk, hsource]

theorem BufferedView.flush (hview : BufferedView s h₀ h t)
    (hflush : h.flushRpslObjectWritingBuffer s = some h') :
    BufferedView s h₀ h' t ∧ h'.rpslUpsertBuffer = [] ∧
      h'.rpslGuaranteedNoExisting = h.rpslGuaranteedNoExisting := by
  obtain ⟨hcontents, hnextPk, hguaranteed⟩ := flush_contents hview.guaranteed hflush
  obtain ⟨hempty, -⟩ := flush_pending hflush
  obtain ⟨ops, hjournaled, hops⟩ := hview.recorded
  refine ⟨⟨?_, ?_, ⟨t.operations, ?_, ?_⟩, ?_, ?_, ?_⟩, hempty, hguaranteed⟩
  · rw [DatabaseHandler.pendingContents, DatabaseHandler.pendingRows, hempty, ← hview.contents,
      ← hcontents]
    rfl
  · rw [hempty, hnextPk, hview.nextPk]
    rfl
  · rw [hops]
    exact hjournaled.trans (recordedOperations_flush hflush).journaled
  · simp [hempty, flushedOperations]
  · exact fun hne ↦ absurd hempty hne
  · simp [hempty]
  · simp [hempty]

/-- An upsert is added to the buffer, where its object is not pending. -/
theorem BufferedView.bufferUpsert {o : RPSLObject} {origin : JournalEntryOrigin}
    {sourceSerial created : Option Nat} (hview : BufferedView s h₀ h t)
    (hguaranteed : h.rpslGuaranteedNoExisting = false)
    (hnew : ∀ b ∈ h.rpslUpsertBuffer, b.pkSource ≠ DatabaseHandler.rpslPkSource o) :
    BufferedView s h₀ (h.bufferUpsert o origin sourceSerial created)
      (t.write h.now ⟨h.objectColumns o, created, origin, sourceSerial⟩) := by
  obtain ⟨ops, hjournaled, hops⟩ := hview.recorded
  refine ⟨?_, ?_, ⟨ops, ⟨hjournaled.journal, hjournaled.journalingEnabled⟩, ?_⟩,
    fun _ ↦ hguaranteed, ?_, ?_⟩
  · have hrows : (h.bufferUpsert o origin sourceSerial created).pendingRows =
        h.pendingRows ++ [(h.objectColumns o, h.nextPk + h.rpslUpsertBuffer.length)] := by
      unfold DatabaseHandler.pendingRows DatabaseHandler.bufferUpsert
      exact List.mapIdx_concat
    rw [DatabaseHandler.pendingContents, hrows, List.foldl_append, SequentialStore.write,
      contents_upsertRow, ← hview.contents, ← hview.nextPk]
    rfl
  · simp only [SequentialStore.write, DatabaseHandler.bufferUpsert, DatabaseHandler.objectModified,
      List.length_append, List.length_singleton, hview.nextPk]
    omega
  · simp only [SequentialStore.write, DatabaseHandler.bufferUpsert, DatabaseHandler.objectModified,
      hops, flushedOperations, List.filter_append, List.map_append, List.append_assoc]
  · intro b hb
    rcases List.mem_append.mp hb with hb | hb
    · exact List.mem_insert_of_mem (hview.seen b hb)
    · rw [List.mem_singleton.mp hb]
      exact List.mem_insert_self
  · simp only [DatabaseHandler.bufferUpsert, DatabaseHandler.objectModified, List.map_append,
      List.nodup_append]
    refine ⟨hview.distinct, List.nodup_singleton _, fun pk hpk pk' hpk' ↦ ?_⟩
    obtain ⟨b, hb, rfl⟩ := List.mem_map.mp hpk
    rw [List.mem_singleton.mp hpk']
    exact hnew b hb

/-- An upsert. -/
theorem BufferedView.upsert {limit : Nat} {o : RPSLObject} {origin : JournalEntryOrigin}
    {sourceSerial created : Option Nat} (hview : BufferedView s h₀ h t)
    (hupsert : h.upsertWithLimit s limit o origin false sourceSerial created = some h') :
    BufferedView s h₀ h' (t.write h.now ⟨h.objectColumns o, created, origin, sourceSerial⟩) := by
  obtain ⟨h₁, hseen, hfull⟩ := Option.bind_eq_some_iff.mp hupsert
  have hstart : BufferedView s h₀
      { h with rpslGuaranteedNoExisting := h.rpslGuaranteedNoExisting && false } t :=
    hview.congr rfl rfl rfl rfl rfl (fun _ ↦ Bool.and_false _)
  have hpending : BufferedView s h₀ h₁ t ∧ h₁.rpslGuaranteedNoExisting = false ∧
      (∀ b ∈ h₁.rpslUpsertBuffer, b.pkSource ≠ DatabaseHandler.rpslPkSource o) ∧
      h₁.now = h.now := by
    unfold DatabaseHandler.flushIfSeen at hseen
    split at hseen
    · obtain ⟨hview₁, hempty, hguaranteed⟩ := hstart.flush hseen
      obtain ⟨entries, hadded⟩ := (recorded_flush hseen).entries
      refine ⟨hview₁, hguaranteed.trans (Bool.and_false _), fun b hb ↦ ?_, hadded.now⟩
      rw [hempty] at hb
      cases hb
    · next hunseen =>
      cases hseen
      exact ⟨hstart, Bool.and_false _, fun b hb hsame ↦ hunseen (hsame ▸ hview.seen b hb), rfl⟩
  obtain ⟨hview₁, hguaranteed, hnew, hnow⟩ := hpending
  have hbuffered : BufferedView s h₀ (h₁.bufferUpsert o origin sourceSerial created)
      (t.write h₁.now ⟨h₁.objectColumns o, created, origin, sourceSerial⟩) :=
    hview₁.bufferUpsert hguaranteed hnew
  have hcolumns : h₁.objectColumns o = h.objectColumns o := by
    unfold DatabaseHandler.objectColumns
    rw [hnow]
  rw [hnow, hcolumns] at hbuffered
  unfold DatabaseHandler.flushIfLonger at hfull
  split at hfull
  · exact (hbuffered.flush hfull).1
  · cases hfull
    exact hbuffered

/-- Rows that are the same but for their creation times are deleted by the same operations. -/
theorem deleteOperations_of_contents {rows rows' : List RPSLDatabaseObject}
    {origin : JournalEntryOrigin} {sourceSerial : Option Nat}
    (hsame : rows.map RPSLDatabaseObject.contents = rows'.map RPSLDatabaseObject.contents) :
    rows.map (fun row ↦ deleteOperation row origin sourceSerial) =
      rows'.map (fun row ↦ deleteOperation row origin sourceSerial) := by
  have hops := congrArg (List.map (fun c : ObjectColumns × Nat ↦ (⟨.delete, c.1.rpslPk, c.1.source,
    c.1.objectClass, c.1.objectText, origin, sourceSerial⟩ : Operation))) hsame
  rwa [List.map_map, List.map_map] at hops

/-- Removing rows. -/
theorem BufferedView.remove {h₁ : DatabaseHandler} {rows rows' : List RPSLDatabaseObject}
    {origin : JournalEntryOrigin} {sourceSerial : Option Nat}
    (hview : BufferedView s h₀ h₁ t) (hempty : h₁.rpslUpsertBuffer = [])
    (hremoved : RowsRemoved s h h₁ h' rows origin sourceSerial)
    (hrows : rows ⊆ h₁.working.objects.rows) (hrows' : rows' ⊆ t.objects.rows)
    (hsame : rows.map RPSLDatabaseObject.contents = rows'.map RPSLDatabaseObject.contents) :
    BufferedView s h₀ h' { t.remove rows' origin sourceSerial with nextPk := h'.nextPk } := by
  obtain ⟨ops, hjournaled, hops⟩ := hview.recorded
  have hops : t.operations = ops := by simpa [hempty, flushedOperations] using hops
  have hkeys : rows.map RPSLDatabaseObject.key = rows'.map RPSLDatabaseObject.key := by
    have hmap := congrArg (List.map (fun c : ObjectColumns × Nat ↦ c.1.key)) hsame
    rwa [List.map_map, List.map_map] at hmap
  refine ⟨?_, ?_, ⟨ops ++ rows.map (fun row ↦ deleteOperation row origin sourceSerial),
    hjournaled.trans hremoved.recorded.journaled, ?_⟩, ?_, ?_, ?_⟩
  · have hcontents : h'.pendingContents = h'.working.objects.contents := by
      rw [DatabaseHandler.pendingContents, DatabaseHandler.pendingRows, hremoved.buffer]
      rfl
    rw [hcontents, ObjectTable.contents, hremoved.objects, contents_remove _ hrows, hkeys,
      hview.contents_eq hempty]
    exact (contents_remove _ hrows').symm
  · simp [hremoved.buffer]
  · simp [SequentialStore.remove, hremoved.buffer, flushedOperations, hops,
      deleteOperations_of_contents hsame]
  · exact fun hne ↦ absurd hremoved.buffer hne
  · simp [hremoved.buffer]
  · simp [hremoved.buffer]

theorem found_subset (t : ObjectTable) (key : Option ObjectKey) :
    (key.bind t.find).toList ⊆ t.rows := by
  intro row hrow
  obtain ⟨k, -, hfind⟩ := Option.bind_eq_some_iff.mp (Option.mem_toList.mp hrow)
  exact KeyedTable.find_mem hfind

/-- A deletion finds the same row. -/
theorem BufferedView.found (hview : BufferedView s h₀ h t) (hempty : h.rpslUpsertBuffer = [])
    (key : Option ObjectKey) :
    (key.bind h.working.objects.find).toList.map RPSLDatabaseObject.contents =
      (key.bind t.objects.find).toList.map RPSLDatabaseObject.contents := by
  rw [← Option.toList_map, ← Option.toList_map]
  cases key with
  | none => rfl
  | some key => exact congrArg Option.toList (find_of_contents (hview.contents_eq hempty) key)

/-- A suspension finds the same row. -/
theorem BufferedView.foundByPk (hview : BufferedView s h₀ h t) (hempty : h.rpslUpsertBuffer = [])
    (pk : Nat) :
    (h.working.objects.rows.filter (fun row ↦ row.pk = pk)).map RPSLDatabaseObject.contents =
      (t.objects.rows.filter (fun row ↦ row.pk = pk)).map RPSLDatabaseObject.contents := by
  have hfilter := congrArg (List.filter (fun c : ObjectColumns × Nat ↦ c.2 = pk))
    (hview.contents_eq hempty)
  unfold ObjectTable.contents at hfilter
  rwa [List.filter_map, List.filter_map] at hfilter

/-- Every call has the effect that it has where nothing is buffered. -/
theorem BufferedView.call {limit now : Nat} {c : WriteCall} (hview : BufferedView s h₀ h t)
    (hcall : h.call s limit now c = some h') :
    BufferedView s h₀ h' (t.call { h with now }.objectColumns now c) := by
  have hnow : BufferedView s h₀ { h with now } t :=
    hview.congr rfl rfl rfl rfl rfl hview.guaranteed
  cases c with
  | upsertRpslObject o origin sourceSerial created => exact hnow.upsert hcall
  | executeQuery => exact (hnow.flush hcall).1
  | deleteRpslObject origin a sourceSerial protect =>
    obtain ⟨h₁, hremoved, hnextPk⟩ := rowsRemoved_delete hcall
    obtain ⟨hview₁, hempty, -⟩ := hnow.flush hremoved.flush
    have hpk : h'.nextPk = t.nextPk := by
      rw [hnextPk, hview₁.nextPk, hempty]
      rfl
    have hresult := hview₁.remove hempty hremoved (found_subset _ _) (found_subset t.objects a.key)
      (hview₁.found hempty a.key)
    rwa [hpk] at hresult
  | suspendRpslObject pk =>
    obtain ⟨h₁, hremoved, hnextPk⟩ := rowsRemoved_suspend hcall
    obtain ⟨hview₁, hempty, -⟩ := hnow.flush hremoved.flush
    have hrows := hview₁.foundByPk hempty pk
    have hpk : h'.nextPk = t.nextPk + (t.objects.rows.filter (fun row ↦ row.pk = pk)).length := by
      have hlength := congrArg List.length hrows
      rw [List.length_map, List.length_map] at hlength
      rw [hnextPk, hview₁.nextPk, hempty, hlength]
      rfl
    have hresult := hview₁.remove hempty hremoved List.filter_sublist.subset
      List.filter_sublist.subset hrows
    rwa [hpk] at hresult

end Views

section Commit

variable {s : Settings} {h₀ h h' : DatabaseHandler} {t : SequentialStore}

/-- A row without its creation time and route preference status. -/
def RPSLDatabaseObject.unevaluated (row : RPSLDatabaseObject) : ObjectColumns × Nat :=
  ({ row.toObjectColumns with routePreferenceStatus := .visible }, row.pk)

/-- Setting route preference statuses changes nothing else. -/
theorem unevaluated_setRoutePreferenceStatus (h : DatabaseHandler) (status : RoutePreferenceStatus)
    (pks : List Nat) :
    (h.setRoutePreferenceStatus status pks).working.objects.rows.map
      RPSLDatabaseObject.unevaluated =
        h.working.objects.rows.map RPSLDatabaseObject.unevaluated := by
  unfold DatabaseHandler.setRoutePreferenceStatus DatabaseHandler.updateObjects KeyedTable.map
  rw [List.map_map]
  refine List.map_congr_left (fun row _ ↦ ?_)
  simp only [Function.comp_apply]
  split <;> rfl

/-- The evaluation before a commit only changes route preference statuses, and nothing where no
source has a preference. -/
theorem preCommit_unevaluated (hempty : h.rpslUpsertBuffer = []) (hpre : h.preCommit s = some h') :
    h'.working.objects.rows.map RPSLDatabaseObject.unevaluated =
        h.working.objects.rows.map RPSLDatabaseObject.unevaluated ∧
      ((∀ rows prefixes, Routepref.changedRoutes s rows prefixes = none) →
        h'.working = h.working) := by
  unfold DatabaseHandler.preCommit DatabaseHandler.evaluateRoutePreference
    DatabaseHandler.flushRpslObjectWritingBuffer at hpre
  rw [if_pos hempty] at hpre
  dsimp only at hpre
  split at hpre
  · cases hpre
    exact ⟨rfl, fun _ ↦ rfl⟩
  · split at hpre
    · cases hpre
      exact ⟨rfl, fun _ ↦ rfl⟩
    · simp only [Option.bind_eq_bind, Option.bind_some] at hpre
      split at hpre
      · cases hpre
        exact ⟨rfl, fun _ ↦ rfl⟩
      · next nowVisible nowSuppressed hchanged =>
        obtain ⟨h₁, hvisible, hpre⟩ := Option.bind_eq_some_iff.mp hpre
        obtain ⟨h₂, hsuppressed, hpre⟩ := Option.bind_eq_some_iff.mp hpre
        cases hpre
        refine ⟨?_, fun hnone ↦ ?_⟩
        · rw [unevaluated_setRoutePreferenceStatus, unevaluated_setRoutePreferenceStatus,
            (recordDicts_frame hsuppressed).2, (recordDicts_frame hvisible).2]
        · rw [hnone] at hchanged
          cases hchanged

/-- A commit evaluates route preferences where the objects written one at a time are. -/
structure EvaluatedCommit (s : Settings) (h₀ h h₃ h₄ h' : DatabaseHandler) (t : SequentialStore) :
    Prop where
  contents : h₃.working.objects.contents = t.objects.contents
  journaled : OperationsJournaled s h₀ h₃ t.operations
  buffer : h₃.rpslUpsertBuffer = []
  changed : h₃.changedObjectsTracker = h.changedObjectsTracker
  preCommit : h₃.preCommit s = some h₄
  committed : h'.committed = h₄.working

theorem BufferedView.evaluatedCommit (hview : BufferedView s h₀ h t)
    (hcommit : h.commit s = some h') : ∃ h₃ h₄, EvaluatedCommit s h₀ h h₃ h₄ h' t := by
  obtain ⟨h₁, h₂, h₃, h₄, hparts⟩ := commit_parts hcommit
  obtain ⟨hview₁, hempty, -⟩ := hview.flush hparts.flush
  obtain ⟨hframe, -⟩ := finaliseTransaction_spec (s := s) h₂
  obtain ⟨ops, hjournaled, hops⟩ := hview₁.recorded
  have hops : t.operations = ops := by simpa [hempty, flushedOperations] using hops
  have hobjects : h₃.working.objects = h₁.working.objects := by
    rw [hparts.finalise]
    exact hframe.objects.trans hparts.objects
  have hjournal : h₃.working.journal = h₁.working.journal := by
    rw [hparts.finalise]
    exact hframe.journal.trans hparts.roas.journal
  have hjournaling : h₃.journalingEnabled = h₁.journalingEnabled := by
    rw [hparts.finalise]
    exact hframe.journalingEnabled.trans hparts.roas.journalingEnabled
  refine ⟨h₃, h₄, ?_, ⟨?_, hjournaling.trans hjournaled.journalingEnabled⟩, ?_, ?_,
    hparts.preCommit, ?_⟩
  · rw [hobjects]
    exact hview₁.contents_eq hempty
  · rw [hjournal, hops]
    exact hjournaled.journal
  · rw [hparts.finalise]
    exact hframe.buffer.trans hparts.buffer
  · rw [hparts.finalise]
    exact hframe.changed.trans hparts.changed
  · rw [hparts.result]
    rfl

/-- What is committed: the evaluation of route preferences in a database that has the objects
written one at a time, and entries for the operations on them. -/
structure CommittedWrites (s : Settings) (h₀ h h' : DatabaseHandler) (t : SequentialStore) :
    Prop where
  evaluated : ∃ h₃ h₄, EvaluatedCommit s h₀ h h₃ h₄ h' t
  objects : h'.committed.objects.rows.map RPSLDatabaseObject.unevaluated =
    t.objects.rows.map RPSLDatabaseObject.unevaluated
  journal : ∃ entries evaluations, h'.committed.journal.rows =
      h₀.working.journal.rows ++ entries ++ evaluations ∧
    entries.map RPSLDatabaseJournal.toOperation =
      journalOperations s h₀.journalingEnabled t.operations
  unpreferred : (∀ rows prefixes, Routepref.changedRoutes s rows prefixes = none) →
    h'.committed.objects.contents = t.objects.contents

theorem BufferedView.commit (hview : BufferedView s h₀ h t) (hcommit : h.commit s = some h') :
    CommittedWrites s h₀ h h' t := by
  obtain ⟨h₃, h₄, hevaluated⟩ := hview.evaluatedCommit hcommit
  obtain ⟨hunevaluated, hnone⟩ := preCommit_unevaluated hevaluated.buffer hevaluated.preCommit
  obtain ⟨more, hpre⟩ := recordedOperations_preCommit hevaluated.preCommit
  refine ⟨⟨h₃, h₄, hevaluated⟩, ?_, ?_, fun hunpreferred ↦ ?_⟩
  · have hrows := congrArg (List.map (fun c : ObjectColumns × Nat ↦
      (({ c.1 with routePreferenceStatus := .visible } : ObjectColumns), c.2)))
      hevaluated.contents
    unfold ObjectTable.contents at hrows
    rw [List.map_map, List.map_map] at hrows
    rw [hevaluated.committed]
    exact hunevaluated.trans hrows
  · obtain ⟨entries, hrows, hentries⟩ := hevaluated.journaled.journal
    obtain ⟨evaluations, hmore, -⟩ := hpre.journaled.journal
    exact ⟨entries, evaluations, by rw [hevaluated.committed, hmore, hrows], hentries⟩
  · rw [hevaluated.committed, hnone hunpreferred]
    exact hevaluated.contents

end Commit

/-- A handler, beside the objects written one at a time. -/
structure WriteRun where
  handler : DatabaseHandler
  store : SequentialStore

/-- One call, at a time. -/
def writeStep (s : Settings) (limit : Nat) (t : WriteRun) (a : Nat × WriteCall) :
    Option WriteRun :=
  (t.handler.call s limit a.1 a.2).map (fun h ↦
    ⟨h, t.store.call { t.handler with now := a.1 }.objectColumns a.1 a.2⟩)

/-- A handler without pending upserts. -/
structure InitialWrites (t : WriteRun) : Prop where
  buffer : t.handler.rpslUpsertBuffer = []
  store : t.store = ⟨t.handler.working.objects, t.handler.nextPk, []⟩

section Run

variable {s : Settings} {limit now : Nat} {initial t : WriteRun}

theorem InitialWrites.view (hinitial : InitialWrites initial) :
    BufferedView s initial.handler initial.handler initial.store := by
  rw [hinitial.store]
  refine ⟨?_, ?_, ⟨[], .refl, ?_⟩, fun hne ↦ absurd hinitial.buffer hne, ?_, ?_⟩
  · rw [DatabaseHandler.pendingContents, DatabaseHandler.pendingRows, hinitial.buffer]
    rfl
  · simp [hinitial.buffer]
  · simp [hinitial.buffer, flushedOperations]
  · simp [hinitial.buffer]
  · simp [hinitial.buffer]

theorem view_of_reaches (hinitial : InitialWrites initial)
    (hreach : Reaches (writeStep s limit) (fun _ _ ↦ True) initial t) :
    BufferedView s initial.handler t.handler t.store :=
  hreach.invariant (P := fun t ↦ BufferedView s initial.handler t.handler t.store) (by
    intro t u a hview _ hstep
    obtain ⟨h, hcall, rfl⟩ := Option.map_eq_some_iff.mp hstep
    exact hview.call hcall) hinitial.view

/-- In every state of a run, for any limit of the buffer: the pending upserts have no key twice;
the statement that writes them succeeds exactly if they have forced creation times throughout or
the first has none; queries observe the objects written one at a time; and so does a commit. -/
theorem writes_of_reaches (hinitial : InitialWrites initial)
    (hreach : Reaches (writeStep s limit) (fun _ _ ↦ True) initial t) :
    (t.handler.rpslUpsertBuffer.map (fun b ↦ b.columns.key)).Nodup ∧
      (t.handler.rpslUpsertBuffer ≠ [] →
        (t.handler.writeObjects.isSome ↔ UniformCreated t.handler.rpslUpsertBuffer)) ∧
      (∀ now h, t.handler.call s limit now .executeQuery = some h →
        h.working.objects.contents = t.store.objects.contents) ∧
      ∀ now h, { t.handler with now }.commit s = some h →
        CommittedWrites s initial.handler { t.handler with now } h t.store := by
  have hview := view_of_reaches hinitial hreach
  refine ⟨hview.nodup, fun hne ↦ ?_, fun now h hquery ↦ ?_, fun now h hcommit ↦ ?_⟩
  · rw [writeObjects_isSome_iff (hview.guaranteed hne)]
    exact and_iff_left hview.nodup
  · have hnow : BufferedView s initial.handler { t.handler with now } t.store :=
      hview.congr rfl rfl rfl rfl rfl hview.guaranteed
    obtain ⟨hflushed, hempty, -⟩ := hnow.flush hquery
    exact hflushed.contents_eq hempty
  · have hnow : BufferedView s initial.handler { t.handler with now } t.store :=
      hview.congr rfl rfl rfl rfl rfl hview.guaranteed
    exact hnow.commit hcommit

end Run

section Examples

/-- The run after one more call. -/
def WriteRun.next (t : WriteRun) (limit : Nat) (a : Nat × WriteCall)
    (hstep : (writeStep localSettings limit t a).isSome) : WriteRun :=
  (writeStep localSettings limit t a).get hstep

theorem WriteRun.step_next (t : WriteRun) (limit : Nat) (a : Nat × WriteCall)
    (hstep : (writeStep localSettings limit t a).isSome) :
    writeStep localSettings limit t a = some (t.next limit a hstep) := (Option.some_get hstep).symm

/-- A new handler. -/
def newWriteRun : WriteRun := ⟨newHandler, ⟨.empty, 0, []⟩⟩

/-- Restore an object with its creation time. -/
def restoreCall (nicHdl : String) (created : Nat) : WriteCall :=
  .upsertRpslObject (personObject nicHdl) .suspension none (some created)

/-- Create an object. -/
def createCall (nicHdl : String) : WriteCall :=
  .upsertRpslObject (personObject nicHdl) .authChange none none

/-- One restored object. -/
def restoredRun : WriteRun :=
  newWriteRun.next DatabaseHandler.maxRecordsBufferBeforeInsert (5, restoreCall "A" 3) rfl

theorem writes_restoredRun :
    (restoredRun.handler.rpslUpsertBuffer.map (fun b ↦ b.columns.key)).Nodup ∧
      (restoredRun.handler.rpslUpsertBuffer ≠ [] → (restoredRun.handler.writeObjects.isSome ↔
        UniformCreated restoredRun.handler.rpslUpsertBuffer)) ∧
      (∀ now h, restoredRun.handler.call localSettings DatabaseHandler.maxRecordsBufferBeforeInsert
          now .executeQuery = some h →
        h.working.objects.contents = restoredRun.store.objects.contents) ∧
      ∀ now h, { restoredRun.handler with now }.commit localSettings = some h →
        CommittedWrites localSettings newHandler { restoredRun.handler with now } h
          restoredRun.store := by
  have hinitial : InitialWrites newWriteRun := ⟨rfl, rfl⟩
  refine writes_of_reaches hinitial ?_
  exact (Reaches.refl newWriteRun).tail (a := (5, restoreCall "A" 3)) trivial
    (WriteRun.step_next _ _ _ rfl)

/-- A restored object and a new one. -/
def mixedRun : WriteRun :=
  restoredRun.next DatabaseHandler.maxRecordsBufferBeforeInsert (6, createCall "B") rfl

/-- The same calls, where every upsert is written at once. -/
def unbufferedRun : WriteRun :=
  (newWriteRun.next 0 (5, restoreCall "A" 3) rfl).next 0 (6, createCall "B") rfl

/-- A restored object and a new one cannot be written together. -/
theorem commit_mixedRun :
    InitialWrites newWriteRun ∧
      Reaches (writeStep localSettings DatabaseHandler.maxRecordsBufferBeforeInsert)
        (fun _ _ ↦ True) newWriteRun mixedRun ∧
      Reaches (writeStep localSettings 0) (fun _ _ ↦ True) newWriteRun unbufferedRun ∧
      mixedRun.handler.commit localSettings = none ∧
      (unbufferedRun.handler.commit localSettings).isSome := by
  refine ⟨⟨rfl, rfl⟩, ?_, ?_, rfl, rfl⟩
  · refine Reaches.tail (t := restoredRun) (a := (6, createCall "B")) ?_ trivial
      (WriteRun.step_next _ _ _ rfl)
    exact (Reaches.refl newWriteRun).tail (a := (5, restoreCall "A" 3)) trivial
      (WriteRun.step_next _ _ _ rfl)
  · refine Reaches.tail (a := (6, createCall "B")) ?_ trivial (WriteRun.step_next _ _ _ rfl)
    exact (Reaches.refl newWriteRun).tail (a := (5, restoreCall "A" 3)) trivial
      (WriteRun.step_next _ _ _ rfl)

end Examples

end Irrd.Storage
