import Irrd.Storage.HandlerRun

/-!
# Recorded operations

Which operations each function of the handler records, in order, and what the journal shows of
them.
-/

namespace Irrd.Storage

open Irrd.Base Irrd.Conf Irrd.Rpsl

/-- The second handler is the first after recording these operations in order, with changes in
between that serials do not depend on. -/
inductive RecordedOperations (s : Settings) (h : DatabaseHandler) :
    List Operation → DatabaseHandler → Prop
  | refl : RecordedOperations s h [] h
  | same {ops : List Operation} {h₁ h₂ : DatabaseHandler} :
    RecordedOperations s h ops h₁ → SameSerials h₁ h₂ → RecordedOperations s h ops h₂
  | record {ops : List Operation} {h₁ h₂ : DatabaseHandler} (op : Operation) :
    RecordedOperations s h ops h₁ → h₁.recordOperation s op = some h₂ →
      RecordedOperations s h (ops ++ [op]) h₂

/-- The operation that a flush records for a pending upsert. -/
def BufferedUpsert.toOperation (b : BufferedUpsert) : Operation :=
  ⟨.addOrUpdate, b.columns.rpslPk, b.columns.source, b.columns.objectClass, b.columns.objectText,
    b.origin, b.sourceSerial⟩

/-- The operations that a flush records: those of visible objects. -/
def flushedOperations (buffer : List BufferedUpsert) : List Operation :=
  (buffer.filter (fun b ↦ b.columns.isVisible)).map BufferedUpsert.toOperation

/-- The operation that a status update records for a dict. -/
def dictOperation (operation : DatabaseOperation) (origin : JournalEntryOrigin)
    (d : RPSLObjectDict) : Operation :=
  ⟨operation, d.rpslPk, d.source, d.objectClass, d.objectText, origin, none⟩

/-- The operation that a deletion or suspension records for a row. -/
def deleteOperation (row : RPSLDatabaseObject) (origin : JournalEntryOrigin)
    (sourceSerial : Option Nat) : Operation :=
  ⟨.delete, row.rpslPk, row.source, row.objectClass, row.objectText, origin, sourceSerial⟩

namespace RecordedOperations

variable {s : Settings} {h h₁ h₂ : DatabaseHandler} {ops more : List Operation}

theorem of_same (hsame : SameSerials h h₁) : RecordedOperations s h [] h₁ := .same .refl hsame

theorem of_record {op : Operation} (hop : h.recordOperation s op = some h₁) :
    RecordedOperations s h [op] h₁ := .record op .refl hop

theorem trans (hfirst : RecordedOperations s h ops h₁) (hsecond : RecordedOperations s h₁ more h₂) :
    RecordedOperations s h (ops ++ more) h₂ := by
  induction hsecond with
  | refl => rwa [List.append_nil]
  | same _ hsame ih => exact .same ih hsame
  | record op _ hop ih =>
    rw [← List.append_assoc]
    exact .record op ih hop

theorem after (hrecorded : RecordedOperations s h₁ ops h₂) (hsame : SameSerials h h₁) :
    RecordedOperations s h ops h₂ := (of_same hsame).trans hrecorded

/-- Recording the operations of one item after the other. -/
theorem of_foldlM {A : Type} {f : DatabaseHandler → A → Option DatabaseHandler}
    {g : A → List Operation} {items : List A}
    (hf : ∀ {a b : DatabaseHandler} {item}, f a item = some b → RecordedOperations s a (g item) b)
    (hfold : items.foldlM f h = some h₁) : RecordedOperations s h (items.flatMap g) h₁ := by
  induction items generalizing h with
  | nil =>
    cases hfold
    exact .refl
  | cons item items ih =>
    rw [List.foldlM_cons] at hfold
    obtain ⟨h', hitem, hfold⟩ := Option.bind_eq_some_iff.mp hfold
    rw [List.flatMap_cons]
    exact (hf hitem).trans (ih hfold)

end RecordedOperations

section Operations

variable {s : Settings} {h h' : DatabaseHandler}

/-- Items that are skipped or lead to one operation. -/
theorem flatMap_ite_eq_map_filter {A : Type} (items : List A) (p : A → Bool) (g : A → Operation) :
    items.flatMap (fun item ↦ if p item then [g item] else []) = (items.filter p).map g := by
  induction items with
  | nil => rfl
  | cons item items ih =>
    rw [List.flatMap_cons, ih]
    cases hitem : p item <;> simp [hitem]

/-- Recording pending upserts. -/
theorem recordedOperations_upserts {buffer : List BufferedUpsert}
    (hrecord : buffer.foldlM (DatabaseHandler.recordUpsert s) h = some h') :
    RecordedOperations s h (flushedOperations buffer) h' := by
  unfold flushedOperations
  rw [← flatMap_ite_eq_map_filter]
  refine RecordedOperations.of_foldlM (fun {a b item} hitem ↦ ?_) hrecord
  simp only [DatabaseHandler.recordUpsert] at hitem
  split at hitem
  · next hvisible =>
    rw [if_pos hvisible]
    exact .of_record hitem
  · next hhidden =>
    rw [if_neg hhidden]
    cases hitem
    exact .refl

theorem recordedOperations_flush (hflush : h.flushRpslObjectWritingBuffer s = some h') :
    RecordedOperations s h (flushedOperations h.rpslUpsertBuffer) h' := by
  unfold DatabaseHandler.flushRpslObjectWritingBuffer at hflush
  split at hflush
  · next hempty =>
    cases hflush
    rw [hempty]
    exact .refl
  · obtain ⟨h₁, hwrite, hflush⟩ := Option.bind_eq_some_iff.mp hflush
    obtain ⟨h₂, hrecord, hflush⟩ := Option.bind_eq_some_iff.mp hflush
    cases hflush
    exact .same ((recordedOperations_upserts hrecord).after (sameSerials_writeObjects hwrite))
      ⟨rfl, rfl, rfl, rfl, rfl, rfl, rfl⟩

theorem recordedOperations_dicts {A : Type} {operation : DatabaseOperation}
    {origin : JournalEntryOrigin} {dict : A → RPSLObjectDict} {qualifies : A → Bool}
    {items : List A} (hdicts : h.recordDicts s operation origin dict qualifies items = some h') :
    RecordedOperations s h
      ((items.filter qualifies).map (fun item ↦ dictOperation operation origin (dict item)))
        h' := by
  rw [← flatMap_ite_eq_map_filter]
  refine RecordedOperations.of_foldlM (fun {a b item} hitem ↦ ?_) hdicts
  dsimp only at hitem
  split at hitem
  · next hqualifies =>
    obtain ⟨c, hop, rfl⟩ := Option.map_eq_some_iff.mp hitem
    rw [if_pos hqualifies]
    exact .same (.of_record hop) (sameSerials_objectModified ..)
  · next hqualifies =>
    rw [if_neg hqualifies]
    cases hitem
    exact .refl

theorem mem_flushedOperations {buffer : List BufferedUpsert} {op : Operation}
    (hop : op ∈ flushedOperations buffer) : ∃ b ∈ buffer, op = b.toOperation := by
  obtain ⟨b, hb, rfl⟩ := List.mem_map.mp hop
  exact ⟨b, (List.mem_filter.mp hb).1, rfl⟩

/-- An upsert records pending upserts, possibly itself, and leaves some of these pending. -/
theorem recordedOperations_upsert {o : RPSLObject} {origin : JournalEntryOrigin}
    {guaranteed : Bool} {sourceSerial created : Option Nat}
    (hupsert : h.upsertRpslObject s o origin guaranteed sourceSerial created = some h') :
    ∃ ops, RecordedOperations s h ops h' ∧
      (∀ op ∈ ops, ∃ b ∈ h.rpslUpsertBuffer ++
        [⟨h.objectColumns o, created, origin, sourceSerial⟩], op = b.toOperation) ∧
      ∀ b ∈ h'.rpslUpsertBuffer,
        b ∈ h.rpslUpsertBuffer ++ [⟨h.objectColumns o, created, origin, sourceSerial⟩] := by
  obtain ⟨h₁, hseen, hfull⟩ := Option.bind_eq_some_iff.mp hupsert
  have hfirst : ∃ ops, RecordedOperations s h ops h₁ ∧
      (∀ op ∈ ops, ∃ b ∈ h.rpslUpsertBuffer, op = b.toOperation) ∧
      (∀ b ∈ h₁.rpslUpsertBuffer, b ∈ h.rpslUpsertBuffer) := by
    unfold DatabaseHandler.flushIfSeen at hseen
    split at hseen
    · refine ⟨_, .after (recordedOperations_flush hseen) ⟨rfl, rfl, rfl, rfl, rfl, rfl, rfl⟩,
        fun op hop ↦ mem_flushedOperations hop, ?_⟩
      rw [(flush_objects hseen).2.1]
      exact fun b hb ↦ (List.not_mem_nil hb).elim
    · cases hseen
      exact ⟨[], .of_same ⟨rfl, rfl, rfl, rfl, rfl, rfl, rfl⟩,
        fun op hop ↦ (List.not_mem_nil hop).elim, fun b hb ↦ hb⟩
  obtain ⟨ops, hrecorded, hops, hbuffer⟩ := hfirst
  have hnow : h₁.objectColumns o = h.objectColumns o := by
    have hframe := recorded_flushIfSeen hseen
    obtain ⟨entries, hadded⟩ := hframe.entries
    unfold DatabaseHandler.objectColumns
    rw [hadded.now]
  have hentries : ∀ b ∈ (h₁.bufferUpsert o origin sourceSerial created).rpslUpsertBuffer,
      b ∈ h.rpslUpsertBuffer ++ [⟨h.objectColumns o, created, origin, sourceSerial⟩] := by
    intro b hb
    rcases List.mem_append.mp hb with hb | hb
    · exact List.mem_append_left _ (hbuffer b hb)
    · rw [hnow] at hb
      exact List.mem_append_right _ hb
  have hold : ∀ op ∈ ops, ∃ b ∈ h.rpslUpsertBuffer ++
      [⟨h.objectColumns o, created, origin, sourceSerial⟩], op = b.toOperation := by
    intro op hop
    obtain ⟨b, hb, hopb⟩ := hops op hop
    exact ⟨b, List.mem_append_left _ hb, hopb⟩
  have hbuffered : SameSerials h₁ (h₁.bufferUpsert o origin sourceSerial created) :=
    ⟨rfl, rfl, rfl, rfl, rfl, rfl, rfl⟩
  unfold DatabaseHandler.flushIfFull at hfull
  split at hfull
  · refine ⟨_, hrecorded.trans (.after (recordedOperations_flush hfull) hbuffered), ?_, ?_⟩
    · intro op hop
      rcases List.mem_append.mp hop with hop | hop
      · exact hold op hop
      · obtain ⟨b, hb, hopb⟩ := mem_flushedOperations hop
        exact ⟨b, hentries b hb, hopb⟩
    · rw [(flush_objects hfull).2.1]
      exact fun b hb ↦ (List.not_mem_nil hb).elim
  · cases hfull
    exact ⟨ops, .same hrecorded hbuffered, hold, hentries⟩

/-- What a flush leaves of pending upserts. -/
theorem flush_pending (hflush : h.flushRpslObjectWritingBuffer s = some h') :
    h'.rpslUpsertBuffer = [] ∧
      h'.rpslPkSourceSeen = if h.rpslUpsertBuffer = [] then h.rpslPkSourceSeen else [] := by
  unfold DatabaseHandler.flushRpslObjectWritingBuffer at hflush
  split at hflush
  · next hempty =>
    cases hflush
    exact ⟨hempty, by rw [if_pos hempty]⟩
  · next hpending =>
    obtain ⟨h₁, -, hflush⟩ := Option.bind_eq_some_iff.mp hflush
    obtain ⟨h₂, -, hflush⟩ := Option.bind_eq_some_iff.mp hflush
    cases hflush
    exact ⟨rfl, by rw [if_neg hpending]⟩

/-- Between two handlers, the prefixes of these routes were added to those to evaluate, except
where only their route preference changed. -/
structure PrefixesTracked (h h' : DatabaseHandler) (origin : Option JournalEntryOrigin)
    (objects : List ObjectColumns) : Prop where
  subset : h.changedObjectsTracker.filterPrefixes ⊆
    h'.changedObjectsTracker.filterPrefixes
  tracked : origin ≠ some .routePreference → ∀ c ∈ objects,
    c.objectClass ∈ rpkiRelevantObjectClasses → c.source ≠ rpkiIrrPseudoSource →
      ∀ p ∈ c.ipPrefix, p ∈ h'.changedObjectsTracker.filterPrefixes

theorem PrefixesTracked.none {origin : Option JournalEntryOrigin}
    (hsame : h'.changedObjectsTracker = h.changedObjectsTracker) :
    PrefixesTracked h h' origin [] :=
  ⟨by rw [hsame]; exact List.Subset.refl _, fun _ c hc ↦ (List.not_mem_nil hc).elim⟩

theorem PrefixesTracked.of_eq {h₁ h₂ : DatabaseHandler} {origin : Option JournalEntryOrigin}
    {objects : List ObjectColumns} (htracked : PrefixesTracked h h' origin objects)
    (hbefore : h.changedObjectsTracker = h₁.changedObjectsTracker)
    (hafter : h₂.changedObjectsTracker = h'.changedObjectsTracker) :
    PrefixesTracked h₁ h₂ origin objects :=
  ⟨hbefore ▸ hafter ▸ htracked.subset, hafter ▸ htracked.tracked⟩

theorem prefixesTracked_objectModified (h : DatabaseHandler) (c : ObjectColumns)
    {changed : Option ChangedPrefix} (hchanged : changed.map ChangedPrefix.network = c.ipPrefix)
    (origin : Option JournalEntryOrigin) :
    PrefixesTracked h (h.objectModified c.objectClass c.source changed origin) origin [c] := by
  unfold DatabaseHandler.objectModified
  refine ⟨List.map_subset _ (fun p hp ↦ ?_), fun horigin other hother hclass hsource p hp ↦ ?_⟩
  · dsimp only
    split
    · split
      · exact List.mem_insert_of_mem hp
      · exact hp
    · exact hp
  · rw [List.mem_singleton.mp hother] at hclass hsource hp
    obtain ⟨entry, hentry, rfl⟩ := Option.map_eq_some_iff.mp (hchanged.trans hp)
    simp only [SessionChangedObjectsTracker.filterPrefixes, hentry]
    rw [if_pos ⟨hclass, horigin, hsource⟩]
    exact List.mem_map_of_mem List.mem_insert_self

/-- The text of a prefix column stands for the prefix. -/
theorem map_network_ofColumn (prefixColumn : Option Utils.IP) :
    (prefixColumn.map ChangedPrefix.ofColumn).map ChangedPrefix.network = prefixColumn := by
  cases prefixColumn <;> rfl

/-- What removing rows and recording that does: the pending upserts are written first. -/
structure RowsRemoved (s : Settings) (h h₁ h' : DatabaseHandler) (rows : List RPSLDatabaseObject)
    (origin : JournalEntryOrigin) (sourceSerial : Option Nat) : Prop where
  flush : h.flushRpslObjectWritingBuffer s = some h₁
  recorded : RecordedOperations s h₁
    (rows.map (fun row ↦ deleteOperation row origin sourceSerial)) h'
  objects : h'.working.objects.rows = h₁.working.objects.rows.filter (fun r ↦ r ∉ rows)
  buffer : h'.rpslUpsertBuffer = []
  pending : h'.rpslPkSourceSeen = h₁.rpslPkSourceSeen
  guaranteed : h'.rpslGuaranteedNoExisting = h₁.rpslGuaranteedNoExisting
  nextPk : h₁.nextPk ≤ h'.nextPk
  tracked : PrefixesTracked h₁ h' (some origin) (rows.map RPSLDatabaseObject.toObjectColumns)

theorem RowsRemoved.all {h₁ : DatabaseHandler} {rows : List RPSLDatabaseObject}
    {origin : JournalEntryOrigin} {sourceSerial : Option Nat}
    (hremoved : RowsRemoved s h h₁ h' rows origin sourceSerial) :
    RecordedOperations s h (flushedOperations h.rpslUpsertBuffer ++
      rows.map (fun row ↦ deleteOperation row origin sourceSerial)) h' :=
  (recordedOperations_flush hremoved.flush).trans hremoved.recorded

/-- A deletion removes the row that is found. -/
theorem rowsRemoved_delete {origin : JournalEntryOrigin}
    {a : DatabaseHandler.DeleteArguments} {sourceSerial : Option Nat} {protect : Bool}
    (hdelete : h.deleteRpslObject s origin a sourceSerial protect = some h') :
    ∃ h₁, RowsRemoved s h h₁ h' (a.key.bind h₁.working.objects.find).toList origin
      sourceSerial ∧ h'.nextPk = h₁.nextPk := by
  unfold DatabaseHandler.deleteRpslObject at hdelete
  obtain ⟨h₁, hflush, hdelete⟩ := Option.bind_eq_some_iff.mp hdelete
  have hbuffer := (flush_pending hflush).1
  refine ⟨h₁, ?_⟩
  split at hdelete
  · next hnone =>
    cases hdelete
    rw [hnone]
    exact ⟨⟨hflush, .refl, by simp, hbuffer, rfl, rfl, Nat.le_refl _, .none rfl⟩, rfl⟩
  · next row hfound =>
    rw [hfound]
    obtain ⟨key, -, hfind⟩ := Option.bind_eq_some_iff.mp hfound
    have hrow := KeyedTable.find_mem hfind
    obtain ⟨h₂, hop, hdelete⟩ := Option.bind_eq_some_iff.mp hdelete
    have hframe := (recordOperation_eq_some hop).1
    have hrecorded : RecordedOperations s h₁ [deleteOperation row origin sourceSerial] h₂ :=
      .after (.of_record hop) ⟨rfl, rfl, rfl, rfl, rfl, rfl, rfl⟩
    have hobjects : h₂.working.objects.rows =
        h₁.working.objects.rows.filter (fun r ↦ r ∉ [row]) := by
      rw [hframe.objects]
      refine List.filter_congr (fun r hr ↦ ?_)
      have hsame : r.key = row.key ↔ r = row :=
        ⟨List.inj_on_of_nodup_map h₁.working.objects.nodup hr hrow, fun he ↦ he ▸ rfl⟩
      simp [hsame]
    have hresult (h'' : DatabaseHandler) (hsame : SameSerials h₂ h'')
        (hrows : h''.working.objects = h₂.working.objects)
        (hpending : h''.rpslUpsertBuffer = h₂.rpslUpsertBuffer ∧
          h''.rpslPkSourceSeen = h₂.rpslPkSourceSeen ∧
          h''.rpslGuaranteedNoExisting = h₂.rpslGuaranteedNoExisting ∧ h''.nextPk = h₂.nextPk)
        (hchanged : h''.changedObjectsTracker = (h₂.objectModified row.objectClass row.source
          (row.ipPrefix.map .ofColumn) (some origin)).changedObjectsTracker) :
        RowsRemoved s h h₁ h'' (some row).toList origin sourceSerial ∧ h''.nextPk = h₁.nextPk := by
      obtain ⟨hb, hseen, hguaranteed, hpk⟩ := hpending
      have htracked := prefixesTracked_objectModified h₂ row.toObjectColumns
        (map_network_ofColumn row.ipPrefix) (some origin)
      have hnextPk : h''.nextPk = h₁.nextPk := hpk.trans hframe.nextPk
      exact ⟨⟨hflush, .same hrecorded hsame, hrows ▸ hobjects,
        hb.trans (hframe.buffer.trans hbuffer),
        hseen.trans hframe.pending, hguaranteed.trans hframe.guaranteed, Nat.le_of_eq hnextPk.symm,
        htracked.of_eq hframe.changed hchanged⟩, hnextPk⟩
    dsimp only at hdelete
    split at hdelete
    · cases hdelete
      exact hresult _ ⟨rfl, rfl, rfl, rfl, rfl, rfl, rfl⟩ rfl ⟨rfl, rfl, rfl, rfl⟩ rfl
    · cases hdelete
      exact hresult _ ⟨rfl, rfl, rfl, rfl, rfl, rfl, rfl⟩ rfl ⟨rfl, rfl, rfl, rfl⟩ rfl

/-- A suspension removes the row that is found, and the suspended row takes a row key. -/
theorem rowsRemoved_suspend {pk : Nat} (hsuspend : h.suspendRpslObject s pk = some h') :
    ∃ h₁, RowsRemoved s h h₁ h' (h₁.working.objects.rows.filter (fun row ↦ row.pk = pk))
      .suspension none ∧ h'.nextPk =
        h₁.nextPk + (h₁.working.objects.rows.filter (fun row ↦ row.pk = pk)).length := by
  unfold DatabaseHandler.suspendRpslObject at hsuspend
  obtain ⟨h₁, hflush, hsuspend⟩ := Option.bind_eq_some_iff.mp hsuspend
  have hbuffer := (flush_pending hflush).1
  have hobjects : h₁.working.objects.rows.filter (fun row ↦ !(decide (row.pk = pk))) =
      h₁.working.objects.rows.filter
        (fun r ↦ r ∉ h₁.working.objects.rows.filter (fun row ↦ row.pk = pk)) := by
    refine List.filter_congr (fun r hr ↦ ?_)
    simp [hr]
  refine ⟨h₁, ?_⟩
  split at hsuspend
  · next hnone =>
    cases hsuspend
    rw [hnone]
    exact ⟨⟨hflush, .refl, by simp, hbuffer, rfl, rfl, Nat.le_refl _, .none rfl⟩, rfl⟩
  · next row hrow =>
    rw [hrow] at hobjects ⊢
    obtain ⟨mntners, -, hsuspend⟩ := Option.bind_eq_some_iff.mp hsuspend
    obtain ⟨h₂, hop, hsuspend⟩ := Option.bind_eq_some_iff.mp hsuspend
    cases hsuspend
    have hframe := (recordOperation_eq_some hop).1
    refine ⟨⟨hflush, .same (.after (.of_record hop) ⟨rfl, rfl, rfl, rfl, rfl, rfl, rfl⟩)
      (sameSerials_objectModified ..), ?_, hframe.buffer.trans hbuffer, hframe.pending,
      hframe.guaranteed, hframe.nextPk ▸ Nat.le_succ _, ?_⟩, hframe.nextPk⟩
    · exact (congrArg KeyedTable.rows hframe.objects).trans hobjects
    · exact (prefixesTracked_objectModified _ row.toObjectColumns (map_network_ofColumn _) _).of_eq
        hframe.changed rfl
  · cases hsuspend

/-- Updates of the route preference record nothing from the NRTM source. -/
theorem recordedOperations_updateRoutePreferenceStatus
    {nowVisible nowSuppressed : List RPSLObjectDict}
    (hupdate : h.updateRoutePreferenceStatus s nowVisible nowSuppressed = some h') :
    RecordedOperations s h
      ((nowVisible.filter DatabaseHandler.otherwiseVisible).map
          (dictOperation .addOrUpdate .routePreference) ++
        (nowSuppressed.filter DatabaseHandler.otherwiseVisible).map
          (dictOperation .delete .routePreference)) h' := by
  obtain ⟨h₁, hvisible, hupdate⟩ := Option.bind_eq_some_iff.mp hupdate
  obtain ⟨h₂, hsuppressed, hupdate⟩ := Option.bind_eq_some_iff.mp hupdate
  cases hupdate
  exact (((recordedOperations_dicts hvisible).trans (recordedOperations_dicts hsuppressed)).same
    (sameSerials_updateObjects _ _ _ _)).same (sameSerials_updateObjects _ _ _ _)

theorem recordedOperations_evaluateRoutePreference {prefixes : List Utils.IP}
    (heval : h.evaluateRoutePreference s prefixes = some h') :
    ∃ ops, RecordedOperations s h ops h' := by
  unfold DatabaseHandler.evaluateRoutePreference at heval
  split at heval
  · cases heval
    exact ⟨[], .refl⟩
  · obtain ⟨h₁, hflush, heval⟩ := Option.bind_eq_some_iff.mp heval
    have hflushed := recordedOperations_flush hflush
    split at heval
    · cases heval
      exact ⟨_, hflushed⟩
    · exact ⟨_, hflushed.trans (recordedOperations_updateRoutePreferenceStatus heval)⟩

theorem recordedOperations_preCommit (hpre : h.preCommit s = some h') :
    ∃ ops, RecordedOperations s h ops h' := by
  unfold DatabaseHandler.preCommit at hpre
  dsimp only at hpre
  split at hpre
  · cases hpre
    exact ⟨[], .refl⟩
  · exact recordedOperations_evaluateRoutePreference hpre

end Operations

section Numbering

variable {s : Settings} {source : String} {h h' : DatabaseHandler} {op : Operation}

/-- A source numbers its entries itself, above those of its journal. -/
structure NumbersEntries (s : Settings) (source : String) (h : DatabaseHandler) : Prop where
  own : h.isSerialSynchronised s source = false
  above : ∀ serial, h.serialFor s source none = some serial →
    ∀ n ∈ h.working.journal.serials source, n < serial

theorem NumbersEntries.serialFor_eq (hnumbers : NumbersEntries s source h)
    (sourceSerial : Option Nat) :
    h.serialFor s source sourceSerial = h.serialFor s source none := by
  unfold DatabaseHandler.serialFor
  simp [hnumbers.own]

/-- A source that numbers its entries itself has a next serial. -/
theorem NumbersEntries.exists_serial (hnumbers : NumbersEntries s source h) :
    ∃ serial, h.serialFor s source none = some serial := by
  unfold DatabaseHandler.serialFor
  simp only [hnumbers.own, Bool.false_eq_true, if_false]
  split <;> exact ⟨_, rfl⟩

theorem NumbersEntries.same (hnumbers : NumbersEntries s source h) (hsame : SameSerials h h') :
    NumbersEntries s source h' := by
  obtain ⟨hown, habove⟩ := hnumbers
  have hsync : h'.isSerialSynchronised s source = h.isSerialSynchronised s source := by
    unfold DatabaseHandler.isSerialSynchronised Database.isSerialSynchronised
    rw [hsame.tracker, hsame.status]
  have hserial : h'.serialFor s source none = h.serialFor s source none := by
    unfold DatabaseHandler.serialFor Database.nextSerial
    rw [hsync, hsame.tracker, hsame.status, hsame.journal]
  refine ⟨hsync.trans hown, ?_⟩
  rw [hserial, hsame.journal]
  exact habove

/-- Recording an operation keeps the next serial above the others. -/
theorem NumbersEntries.record (hnumbers : NumbersEntries s source h)
    (hrecord : h.recordOperation s op = some h') : NumbersEntries s source h' := by
  obtain ⟨hframe, hcases⟩ := recordOperation_eq_some hrecord
  refine ⟨(hframe.synchronised source).trans hnumbers.own, ?_⟩
  rcases hcases with ⟨-, rfl⟩ | ⟨-, serial, hserial, hinserted⟩
  · exact hnumbers.above
  · intro next hnext n hn
    have hsync := (hframe.synchronised source).trans hnumbers.own
    rw [hinserted.serials source] at hn
    unfold DatabaseHandler.serialFor at hnext
    rw [hsync, hinserted.newSerials] at hnext
    by_cases hop : op.source = source
    · subst hop
      rw [Function.update_self, List.max?_cons] at hnext
      have hnext :
          (h.statusTracker.newSerialsPerSource op.source).max?.elim serial (max serial) + 1 =
          next := Option.some_inj.mp hnext
      have hle : serial ≤ (h.statusTracker.newSerialsPerSource op.source).max?.elim serial
          (max serial) := by
        cases (h.statusTracker.newSerialsPerSource op.source).max? with
        | none => exact Nat.le_refl serial
        | some m => exact Nat.le_max_left serial m
      rw [if_pos rfl] at hn
      rcases List.mem_append.mp hn with hn | hn
      · have hlt := hnumbers.above serial (hnumbers.serialFor_eq op.sourceSerial ▸ hserial) n hn
        omega
      · rw [List.mem_singleton.mp hn]
        omega
    · rw [Function.update_of_ne (Ne.symm hop)] at hnext
      rw [if_neg hop, List.append_nil] at hn
      refine hnumbers.above next ?_ n hn
      unfold DatabaseHandler.serialFor
      rw [hnumbers.own]
      have hserials := hinserted.serials source
      rw [if_neg hop, List.append_nil] at hserials
      unfold Database.nextSerial at hnext ⊢
      rw [hinserted.status, hserials] at hnext
      exact hnext

/-- Without journaling, every operation is recorded, and only its source is seen. -/
theorem recordOperation_unjournaled (hjournaling : h.journalingEnabled = false) (op : Operation) :
    h.recordOperation s op = some (h.seeSource op.source) := by
  unfold DatabaseHandler.recordOperation
  dsimp only
  apply if_neg
  simp [DatabaseHandler.seeSource, hjournaling]

/-- A source that numbers its entries itself can record every operation. -/
theorem recordOperation_isSome (op : Operation)
    (hnumbers : s.keepJournal op.source = true → NumbersEntries s op.source h) :
    (h.recordOperation s op).isSome = true := by
  unfold DatabaseHandler.recordOperation
  dsimp only
  split
  · next hjournaling =>
    have hnumbers := hnumbers (Bool.and_eq_true_iff.mp hjournaling).2
    obtain ⟨serial, hserial⟩ := hnumbers.exists_serial
    have hsee : (h.seeSource op.source).serialFor s op.source op.sourceSerial = some serial :=
      (hnumbers.serialFor_eq op.sourceSerial).trans hserial
    rw [hsee]
    unfold DatabaseHandler.insertJournal
    rw [Option.isSome_map, Option.isSome_iff_ne_none, Ne, KeyedTable.append_eq_none_iff]
    rintro ⟨e, he⟩
    have hkey := KeyedTable.find_key he
    have hmem : serial ∈ h.working.journal.serials op.source :=
      List.mem_map.mpr ⟨e, List.mem_filter.mpr
        ⟨KeyedTable.find_mem he, decide_eq_true (congrArg Prod.fst hkey)⟩, congrArg Prod.snd hkey⟩
    exact Nat.lt_irrefl serial (hnumbers.above serial hserial serial hmem)
  · rfl

/-- All dicts can be recorded where every source with a journal numbers its entries itself. -/
theorem recordDicts_isSome {A : Type} (operation : DatabaseOperation)
    (origin : JournalEntryOrigin) (dict : A → RPSLObjectDict) (qualifies : A → Bool)
    (items : List A)
    (hnumbers : ∀ source, s.keepJournal source = true → NumbersEntries s source h) :
    ∃ h', h.recordDicts s operation origin dict qualifies items = some h' ∧
      ∀ source, s.keepJournal source = true → NumbersEntries s source h' := by
  unfold DatabaseHandler.recordDicts
  induction items generalizing h with
  | nil => exact ⟨h, rfl, hnumbers⟩
  | cons item items ih =>
    rw [List.foldlM_cons]
    by_cases hqualifies : qualifies item = true
    · obtain ⟨h₁, hop⟩ := Option.isSome_iff_exists.mp (recordOperation_isSome
        (dictOperation operation origin (dict item)) (hnumbers _))
      have hrest := ih (h := h₁.objectModified (dict item).objectClass (dict item).source
        ((dict item).ipPrefix.map .ofColumn) (some origin)) (fun source hkeep ↦
          ((hnumbers source hkeep).record hop).same (sameSerials_objectModified ..))
      simp only [dictOperation] at hop
      simp only [hqualifies, if_true, hop, Option.map_some, Option.bind_eq_bind, Option.bind_some]
      exact hrest
    · simp only [hqualifies, Bool.false_eq_true, if_false, Option.bind_eq_bind, Option.bind_some]
      exact ih hnumbers

end Numbering

end Irrd.Storage
