import Mathlib.Data.List.Sort
import Irrd.Base.KeyedLog
import Irrd.Storage.ObjectWrites

/-!
# Replaying the journal

What a mirror gets when it replays the journal of a source in serial order, compared with the
objects of the source that are visible: how recorded operations extend the journal, in which
order, and what each kind of write does to both sides.
-/

namespace Irrd.Storage

open Irrd.Base Irrd.Conf Irrd.Routepref Irrd.Rpsl

/-- The change of one object of a source, by class and primary key, that an operation tells. -/
def journalChange (operation : DatabaseOperation) (objectClass rpslPk objectText : String) :
    Change (String × String) String where
  key := (objectClass, rpslPk)
  value :=
    match operation with
    | .addOrUpdate => some objectText
    | .delete => none

/-- The change that a journal entry tells. -/
def RPSLDatabaseJournal.change (e : RPSLDatabaseJournal) : Change (String × String) String :=
  journalChange e.operation e.objectClass e.rpslPk e.objectText

/-- The change that a recorded operation tells. -/
def Operation.change (op : Operation) : Change (String × String) String :=
  journalChange op.operation op.objectClass op.rpslPk op.objectText

/-- The changes of a source in the order they were written. -/
def JournalTable.changes (t : JournalTable) (source : String) :
    List (Change (String × String) String) :=
  (t.ofSource source).map RPSLDatabaseJournal.change

/-- What a mirror has that replays the journal of a source from empty, in serial order. -/
def mirroredContents (db : Database) (source : String) : Contents (String × String) String :=
  replay (fun _ ↦ none) (((db.journal.ofSource source).insertionSort
    (fun e e' ↦ e.serialNrtm ≤ e'.serialNrtm)).map RPSLDatabaseJournal.change)

/-- The visible objects of a source with their texts. -/
def visibleContents (t : ObjectTable) (source : String) : Contents (String × String) String :=
  fun (objectClass, rpslPk) ↦
    ((t.find ⟨rpslPk, source, objectClass⟩).filter RPSLDatabaseObject.isVisible).map
      (fun row ↦ row.objectText)

/-- In increasing serial order, the order of writing is the order of serials. -/
theorem mirroredContents_eq {db : Database} {source : String}
    (hsorted : (db.journal.serials source).Pairwise (· < ·)) :
    mirroredContents db source = replay (fun _ ↦ none) (db.journal.changes source) := by
  have hpairwise : (db.journal.ofSource source).Pairwise
      (fun e e' ↦ e.serialNrtm ≤ e'.serialNrtm) :=
    (List.pairwise_map.mp hsorted).imp Nat.le_of_lt
  unfold mirroredContents JournalTable.changes
  rw [hpairwise.insertionSort_eq]

section Order

/-- The serials of a source increase in the order of writing, and so will those that pending
operations bring from the NRTM source. -/
structure JournalOrder (s : Settings) (source : String) (h : DatabaseHandler)
    (pending : List Nat) : Prop where
  sorted : (h.working.journal.serials source).Pairwise (· < ·)
  bound : h.statusTracker.newSerialsPerSource source ≠ [] →
    (h.statusTracker.newSerialsPerSource source).max? =
      (h.working.journal.serials source).max? ∧ source ∈ h.statusTracker.sourcesSeen
  rowless : h.working.status.find source = none → h.working.journal.serials source ≠ [] →
    1 ∈ h.working.journal.serials source ∨ h.statusTracker.newSerialsPerSource source ≠ []
  pending : h.isSerialSynchronised s source = true →
    (h.working.journal.serials source ++ pending).Pairwise (· < ·)

/-- The journal of a source without a status row begins with serial 1. -/
def RowlessStart (source : String) (db : Database) : Prop :=
  db.status.find source = none → db.journal.serials source ≠ [] → 1 ∈ db.journal.serials source

variable {s : Settings} {source : String} {h h' : DatabaseHandler} {op : Operation}
  {pending : List Nat}

/-- What the order says depends on the serials, the status row and the tracker. -/
theorem JournalOrder.congr (horder : JournalOrder s source h pending)
    (hserials : h'.working.journal.serials source = h.working.journal.serials source)
    (hrow : h'.working.status.find source = none → h.working.status.find source = none)
    (hnew : h'.statusTracker.newSerialsPerSource source =
      h.statusTracker.newSerialsPerSource source)
    (hseen : source ∈ h.statusTracker.sourcesSeen → source ∈ h'.statusTracker.sourcesSeen)
    (hsync : h'.isSerialSynchronised s source = h.isSerialSynchronised s source) :
    JournalOrder s source h' pending := by
  refine ⟨?_, ?_, ?_, ?_⟩
  · rw [hserials]
    exact horder.sorted
  · rw [hserials, hnew]
    intro hne
    obtain ⟨hmax, hmem⟩ := horder.bound hne
    exact ⟨hmax, hseen hmem⟩
  · rw [hserials, hnew]
    exact fun hnone ↦ horder.rowless (hrow hnone)
  · rw [hserials, hsync]
    exact horder.pending

/-- Fewer pending serials. -/
theorem JournalOrder.mono {fewer : List Nat} (horder : JournalOrder s source h pending)
    (hfewer : fewer.Sublist pending) : JournalOrder s source h fewer :=
  ⟨horder.sorted, horder.bound, horder.rowless, fun hsync ↦
    (horder.pending hsync).sublist (hfewer.append_left _)⟩

/-- The newest serial of a sorted list is its maximum. -/
theorem max?_concat_of_lt {serials : List Nat} {n : Nat} (hlt : ∀ m ∈ serials, m < n) :
    (serials ++ [n]).max? = some n := by
  rw [List.max?_eq_some_iff]
  refine ⟨List.mem_append_right _ List.mem_cons_self, fun k hk ↦ ?_⟩
  rcases List.mem_append.mp hk with hk | hk
  · exact Nat.le_of_lt (hlt k hk)
  · exact Nat.le_of_eq (List.mem_singleton.mp hk)

/-- The next serial of a source is above all others. -/
theorem JournalOrder.serialFor {sourceSerial : Option Nat} {serial : Nat}
    (horder : JournalOrder s source h (sourceSerial.toList ++ pending))
    (hserial : h.serialFor s source sourceSerial = some serial)
    (hfresh : serial ∉ h.working.journal.serials source) :
    ∀ n ∈ h.working.journal.serials source, n < serial := by
  intro n hn
  have hne := List.ne_nil_of_mem hn
  unfold DatabaseHandler.serialFor at hserial
  split at hserial
  · next hsync =>
    subst hserial
    have hpairwise := horder.pending hsync
    rw [List.pairwise_append] at hpairwise
    exact hpairwise.2.2 n hn serial (by simp)
  · by_cases htransaction : h.statusTracker.newSerialsPerSource source = []
    · rw [htransaction] at hserial
      have hnext : h.working.nextSerial source = serial := Option.some_inj.mp hserial
      unfold Database.nextSerial at hnext
      split at hnext
      · next hnone =>
        rcases horder.rowless hnone hne with hone | hnew
        · exact absurd (hnext ▸ hone) hfresh
        · exact absurd htransaction hnew
      · cases hmax : (h.working.journal.serials source).max? with
        | none => exact absurd (List.max?_eq_none_iff.mp hmax) hne
        | some m =>
          rw [hmax] at hnext
          have hle := (List.max?_eq_some_iff.mp hmax).2 n hn
          have hm : m + 1 = serial := hnext
          omega
    · rw [(horder.bound htransaction).1] at hserial
      cases hmax : (h.working.journal.serials source).max? with
      | none => exact absurd (List.max?_eq_none_iff.mp hmax) hne
      | some m =>
        rw [hmax] at hserial
        have hle := (List.max?_eq_some_iff.mp hmax).2 n hn
        have hm : m + 1 = serial := Option.some_inj.mp hserial
        omega

/-- The first serial of a source without a status row is 1, unless the NRTM source gives it. -/
theorem RowlessStart.serialFor {serial : Nat} (hstart : RowlessStart source h.working)
    (horder : JournalOrder s source h [])
    (hserial : h.serialFor s source none = some serial) :
    h.working.status.find source = none →
      1 ∈ h.working.journal.serials source ++ [serial] := by
  intro hnone
  by_cases hempty : h.working.journal.serials source = []
  · have htransaction : h.statusTracker.newSerialsPerSource source = [] := by
      by_contra hne
      have hmax := (horder.bound hne).1
      rw [hempty] at hmax
      exact hne (List.max?_eq_none_iff.mp hmax)
    unfold DatabaseHandler.serialFor at hserial
    split at hserial
    · cases hserial
    · rw [htransaction] at hserial
      have hnext : h.working.nextSerial source = serial := Option.some_inj.mp hserial
      unfold Database.nextSerial at hnext
      rw [hnone] at hnext
      simp [← hnext]
  · exact List.mem_append_left _ (hstart hnone hempty)

end Order

section Recording

/-- A step from one handler to another that only writes to the journal: the changes of a source
that it adds, and the serials of the NRTM source that they bring. -/
structure Journaled (s : Settings) (source : String) (h h' : DatabaseHandler)
    (changes : List (Change (String × String) String)) (serials : List Nat) : Prop where
  changes : h'.working.journal.changes source = h.working.journal.changes source ++ changes
  order : ∀ pending, JournalOrder s source h (serials ++ pending) →
    JournalOrder s source h' pending
  rowless : serials = [] → JournalOrder s source h [] → RowlessStart source h.working →
    RowlessStart source h'.working
  objects : h'.working.objects = h.working.objects
  committed : h'.committed = h.committed
  journalingEnabled : h'.journalingEnabled = h.journalingEnabled
  nextPk : h'.nextPk = h.nextPk
  buffer : h'.rpslUpsertBuffer = h.rpslUpsertBuffer

variable {s : Settings} {source : String} {h h' : DatabaseHandler} {op : Operation}

/-- Nothing that the journal of the source depends on differs. -/
theorem Journaled.of_eq (hworking : h'.working = h.working)
    (hnew : h'.statusTracker.newSerialsPerSource source =
      h.statusTracker.newSerialsPerSource source)
    (hseen : source ∈ h.statusTracker.sourcesSeen → source ∈ h'.statusTracker.sourcesSeen)
    (hsync : h'.isSerialSynchronised s source = h.isSerialSynchronised s source)
    (hcommitted : h'.committed = h.committed)
    (hjournaling : h'.journalingEnabled = h.journalingEnabled) (hpk : h'.nextPk = h.nextPk)
    (hbuffer : h'.rpslUpsertBuffer = h.rpslUpsertBuffer) : Journaled s source h h' [] [] := by
  refine ⟨by simp [hworking], fun pending horder ↦ ?_, fun _ _ hstart ↦ hworking ▸ hstart,
    by rw [hworking], hcommitted, hjournaling, hpk, hbuffer⟩
  exact horder.congr (by rw [hworking]) (hworking ▸ id) hnew hseen hsync

theorem Journaled.refl : Journaled s source h h [] [] :=
  .of_eq rfl rfl id rfl rfl rfl rfl rfl

theorem Journaled.trans {h'' : DatabaseHandler}
    {first second : List (Change (String × String) String)} {serials more : List Nat}
    (hfirst : Journaled s source h h' first serials)
    (hsecond : Journaled s source h' h'' second more) :
    Journaled s source h h'' (first ++ second) (serials ++ more) := by
  refine ⟨?_, fun pending horder ↦ ?_, fun hnil horder hstart ↦ ?_,
    hsecond.objects.trans hfirst.objects, hsecond.committed.trans hfirst.committed,
    hsecond.journalingEnabled.trans hfirst.journalingEnabled, hsecond.nextPk.trans hfirst.nextPk,
    hsecond.buffer.trans hfirst.buffer⟩
  · rw [hsecond.changes, hfirst.changes, List.append_assoc]
  · rw [List.append_assoc] at horder
    exact hsecond.order pending (hfirst.order _ horder)
  · obtain ⟨rfl, rfl⟩ := List.append_eq_nil_iff.mp hnil
    exact hsecond.rowless rfl (hfirst.order [] horder) (hfirst.rowless rfl horder hstart)

/-- Recording an operation adds its change, if it is one of the source. -/
theorem journaled_recordOperation (hjournaling : h.journalingEnabled = true)
    (hkeep : s.keepJournal source = true) (hrecord : h.recordOperation s op = some h') :
    Journaled s source h h' (if op.source = source then [op.change] else [])
      (if op.source = source then op.sourceSerial.toList else []) := by
  obtain ⟨hframe, hcases⟩ := recordOperation_eq_some hrecord
  have hsync := hframe.synchronised source
  rcases hcases with ⟨hdisabled, rfl⟩ | ⟨-, serial, hserial, hinserted⟩
  · have hop : op.source ≠ source := by
      rintro rfl
      simp [hjournaling, hkeep] at hdisabled
    rw [if_neg hop, if_neg hop]
    exact .of_eq rfl rfl List.mem_insert_of_mem hsync rfl rfl rfl rfl
  · have hserials := hinserted.serials source
    obtain ⟨e, hesource, heserial, hepk, heclass, heop, hetext, -, -, hrows, -⟩ := hinserted.entry
    have hchanges : h'.working.journal.changes source = h.working.journal.changes source ++
        (if op.source = source then [op.change] else []) := by
      unfold JournalTable.changes JournalTable.ofSource
      rw [hrows, List.filter_append, List.map_append]
      by_cases hop : op.source = source
      · simp [hesource, hop, RPSLDatabaseJournal.change, Operation.change, hepk, heclass, heop,
          hetext]
      · simp [hesource, hop]
    by_cases hop : op.source = source
    · rw [if_pos hop] at hserials
      subst hop
      have hnew : h'.statusTracker.newSerialsPerSource op.source =
          serial :: h.statusTracker.newSerialsPerSource op.source := by
        rw [hinserted.newSerials, Function.update_self]
      refine ⟨hchanges, fun pending horder ↦ ?_, fun hnil horder hstart ↦ ?_, hinserted.objects,
        hframe.committed, hframe.journalingEnabled, hframe.nextPk, hframe.buffer⟩
      · rw [if_pos rfl] at horder
        have habove := horder.serialFor hserial hinserted.fresh
        refine ⟨?_, fun _ ↦ ⟨?_, hframe.seen ▸ List.mem_insert_self⟩, fun _ _ ↦ Or.inr ?_,
          fun hsynced ↦ ?_⟩
        · rw [hserials, List.pairwise_append]
          exact ⟨horder.sorted, List.pairwise_singleton _ _, fun n hn m hm ↦
            List.mem_singleton.mp hm ▸ habove n hn⟩
        · rw [hnew, hserials, max?_concat_of_lt habove]
          by_cases htransaction : h.statusTracker.newSerialsPerSource op.source = []
          · rw [htransaction]
            rfl
          · obtain ⟨hmax, -⟩ := horder.bound htransaction
            cases hjournal : (h.working.journal.serials op.source).max? with
            | none =>
              rw [hjournal] at hmax
              exact absurd (List.max?_eq_none_iff.mp hmax) htransaction
            | some m =>
              have hlt := habove m (List.max?_eq_some_iff.mp hjournal).1
              rw [List.max?_cons, hmax, hjournal]
              simp only [Option.elim_some]
              rw [Nat.max_eq_left (Nat.le_of_lt hlt)]
        · rw [hnew]
          exact List.cons_ne_nil _ _
        · rw [hsync] at hsynced
          have hpairwise := horder.pending hsynced
          unfold DatabaseHandler.serialFor at hserial
          rw [if_pos hsynced] at hserial
          rw [hserial] at hpairwise
          rw [hserials, List.append_assoc]
          exact hpairwise
      · rw [if_pos rfl] at hnil
        have hnone : op.sourceSerial = none := by simpa using hnil
        rw [hnone] at hserial
        intro hrow _
        rw [hinserted.status] at hrow
        rw [hserials]
        exact hstart.serialFor horder hserial hrow
    · rw [if_neg hop, List.append_nil] at hserials
      rw [if_neg hop] at hchanges ⊢
      rw [if_neg hop]
      refine ⟨hchanges, fun pending horder ↦ ?_, fun _ _ hstart ↦ ?_, hinserted.objects,
        hframe.committed, hframe.journalingEnabled, hframe.nextPk, hframe.buffer⟩
      · refine horder.congr hserials (by rw [hinserted.status]; exact id) ?_ ?_ hsync
        · rw [hinserted.newSerials, Function.update_of_ne (Ne.symm hop)]
        · rw [hframe.seen]
          exact List.mem_insert_of_mem
      · unfold RowlessStart
        rw [hserials, hinserted.status]
        exact hstart

/-- An object dict whose status changed, with the operation for it, if it is recorded. -/
structure StatusItem where
  dict : RPSLObjectDict
  operation : DatabaseOperation
  recorded : Bool

/-- The object within its source. -/
def StatusItem.id (i : StatusItem) : String × String := (i.dict.objectClass, i.dict.rpslPk)

/-- What the item sets its object to. -/
def StatusItem.value (i : StatusItem) : Option (Option String) :=
  if i.recorded then
    some (journalChange i.operation i.dict.objectClass i.dict.rpslPk i.dict.objectText).value
  else none

/-- The changes of a source that recording items adds. -/
def statusChanges (source : String) (items : List StatusItem) :
    List (Change (String × String) String) :=
  (items.filter (fun i ↦ i.dict.source = source)).filterMap
    (fun i ↦ i.value.map (Change.mk i.id))

theorem statusChanges_append (items more : List StatusItem) :
    statusChanges source (items ++ more) =
      statusChanges source items ++ statusChanges source more := by
  simp [statusChanges]

/-- Recording dicts adds the changes of those that qualify. -/
theorem journaled_recordDicts {A : Type} {operation : DatabaseOperation}
    {origin : JournalEntryOrigin} {dict : A → RPSLObjectDict} {qualifies : A → Bool}
    {items : List A} (hjournaling : h.journalingEnabled = true)
    (hkeep : s.keepJournal source = true)
    (hrecord : h.recordDicts s operation origin dict qualifies items = some h') :
    Journaled s source h h'
      (statusChanges source (items.map (fun i ↦ ⟨dict i, operation, qualifies i⟩))) [] := by
  unfold DatabaseHandler.recordDicts at hrecord
  induction items generalizing h with
  | nil =>
    cases hrecord
    exact .refl
  | cons item items ih =>
    rw [List.foldlM_cons] at hrecord
    obtain ⟨h₁, hfirst, hrest⟩ := Option.bind_eq_some_iff.mp hrecord
    rw [List.map_cons, ← List.singleton_append, statusChanges_append]
    have hstep : Journaled s source h h₁
        (statusChanges source [⟨dict item, operation, qualifies item⟩]) [] := by
      dsimp only at hfirst
      split at hfirst
      · next hqualifies =>
        obtain ⟨h₂, hrecord, rfl⟩ := Option.map_eq_some_iff.mp hfirst
        have hmodified : Journaled s source h₂ (h₂.objectModified (dict item).objectClass
            (dict item).source ((dict item).ipPrefix.map .ofColumn) (some origin)) [] [] :=
          .of_eq rfl rfl id rfl rfl rfl rfl rfl
        have hjournaled := (journaled_recordOperation hjournaling hkeep hrecord).trans hmodified
        by_cases hsource : (dict item).source = source
        · simpa [statusChanges, StatusItem.value, StatusItem.id, hsource, hqualifies,
            Operation.change, journalChange] using hjournaled
        · simpa [statusChanges, hsource] using hjournaled
      · next hqualifies =>
        cases hfirst
        have hnone : statusChanges source [⟨dict item, operation, qualifies item⟩] = [] := by
          by_cases hsource : (dict item).source = source <;>
            simp [statusChanges, StatusItem.value, hsource, hqualifies]
        rw [hnone]
        exact .refl
    exact hstep.trans (ih (hstep.journalingEnabled.trans hjournaling) hrest)

/-- What a pending upsert sets its object to. -/
def BufferedUpsert.value (b : BufferedUpsert) : Option (Option String) :=
  if b.columns.isVisible then some (some b.columns.objectText) else none

/-- The changes of a source that recording pending upserts adds. -/
def upsertChanges (source : String) (buffer : List BufferedUpsert) :
    List (Change (String × String) String) :=
  (buffer.filter (fun b ↦ b.columns.source = source)).filterMap
    (fun b ↦ b.value.map (Change.mk (b.columns.objectClass, b.columns.rpslPk)))

/-- The serials that pending upserts of a source bring from the NRTM source. -/
def pendingSerials (source : String) (buffer : List BufferedUpsert) : List Nat :=
  (buffer.filter (fun b ↦ b.columns.source = source ∧ b.columns.isVisible)).flatMap
    (fun b ↦ b.sourceSerial.toList)

theorem upsertChanges_append (buffer more : List BufferedUpsert) :
    upsertChanges source (buffer ++ more) =
      upsertChanges source buffer ++ upsertChanges source more := by
  simp [upsertChanges]

theorem pendingSerials_append (buffer more : List BufferedUpsert) :
    pendingSerials source (buffer ++ more) =
      pendingSerials source buffer ++ pendingSerials source more := by
  simp [pendingSerials]

theorem pendingSerials_singleton (b : BufferedUpsert) :
    pendingSerials source [b] =
      if b.columns.source = source ∧ b.columns.isVisible = true then b.sourceSerial.toList
      else [] := by
  unfold pendingSerials
  by_cases hb : b.columns.source = source ∧ b.columns.isVisible = true <;> simp [hb]

/-- Recording pending upserts adds the changes of those that are visible. -/
theorem journaled_recordUpserts {buffer : List BufferedUpsert}
    (hjournaling : h.journalingEnabled = true) (hkeep : s.keepJournal source = true)
    (hrecord : buffer.foldlM (DatabaseHandler.recordUpsert s) h = some h') :
    Journaled s source h h' (upsertChanges source buffer) (pendingSerials source buffer) := by
  induction buffer generalizing h with
  | nil =>
    cases hrecord
    exact .refl
  | cons b buffer ih =>
    rw [List.foldlM_cons] at hrecord
    obtain ⟨h₁, hfirst, hrest⟩ := Option.bind_eq_some_iff.mp hrecord
    rw [← List.singleton_append, upsertChanges_append, pendingSerials_append]
    have hstep : Journaled s source h h₁ (upsertChanges source [b])
        (pendingSerials source [b]) := by
      simp only [DatabaseHandler.recordUpsert] at hfirst
      split at hfirst
      · next hvisible =>
        have hjournaled := journaled_recordOperation hjournaling hkeep hfirst
        by_cases hsource : b.columns.source = source
        · simpa [upsertChanges, pendingSerials, BufferedUpsert.value, hsource, hvisible,
            Operation.change, journalChange] using hjournaled
        · simpa [upsertChanges, pendingSerials, hsource] using hjournaled
      · next hhidden =>
        cases hfirst
        by_cases hsource : b.columns.source = source
        · simpa [upsertChanges, pendingSerials, BufferedUpsert.value, hsource, hhidden] using
            Journaled.refl
        · simpa [upsertChanges, pendingSerials, hsource] using Journaled.refl
    exact hstep.trans (ih (hstep.journalingEnabled.trans hjournaling) hrest)

end Recording

section Effects

variable {source : String} {objects objects' : ObjectTable}

/-- The text of an object, if it is visible. -/
def visibleText (row : RPSLDatabaseObject) : Option String :=
  if row.isVisible then some row.objectText else none

theorem visibleContents_apply (objectClass rpslPk : String) :
    visibleContents objects source (objectClass, rpslPk) =
      (objects.find ⟨rpslPk, source, objectClass⟩).bind visibleText := by
  unfold visibleContents visibleText
  dsimp only
  cases objects.find ⟨rpslPk, source, objectClass⟩ with
  | none => rfl
  | some row => cases hvisible : row.isVisible <;> simp [Option.filter, hvisible]

/-- Status items with the effect of a change of the rows bring a mirror to the visible objects
after it. -/
theorem replay_statusChanges {items : List StatusItem}
    {f : RPSLDatabaseObject → RPSLDatabaseObject} (hunique : objects.PksUnique)
    (hfind : ∀ key, objects'.find key = (objects.find key).map f)
    (hnodup : (items.map (fun i ↦ i.dict.pk)).Nodup)
    (hitems : ∀ i ∈ items, ∃ row ∈ objects.rows, i.dict.pk = row.pk ∧ i.dict.source = row.source ∧
      i.id = (row.objectClass, row.rpslPk) ∧
      (row.source = source → i.value.getD (visibleText row) = visibleText (f row)))
    (hothers : ∀ row ∈ objects.rows, row.source = source →
      (∀ i ∈ items, i.dict.pk ≠ row.pk) → visibleText (f row) = visibleText row) :
    replay (visibleContents objects source) (statusChanges source items) =
      visibleContents objects' source := by
  funext ⟨objectClass, rpslPk⟩
  -- Two items of the source with the same object would have the same row.
  have hkeys : ((items.filter (fun i ↦ i.dict.source = source)).map StatusItem.id).Nodup := by
    have hpairwise : (items.filter (fun i ↦ i.dict.source = source)).Pairwise
        (fun i j ↦ i.dict.pk ≠ j.dict.pk) := (List.pairwise_map.mp hnodup).filter _
    refine List.pairwise_map.mpr (hpairwise.imp_of_mem (fun {i j} hi hj hne hid ↦ hne ?_))
    obtain ⟨hi, hisource⟩ := List.mem_filter.mp hi
    obtain ⟨hj, hjsource⟩ := List.mem_filter.mp hj
    obtain ⟨row, hrow, hipk, hirow, hiid, -⟩ := hitems i hi
    obtain ⟨row', hrow', hjpk, hjrow, hjid, -⟩ := hitems j hj
    have hkey : row.key = row'.key := by
      have hid := hiid.symm.trans (hid.trans hjid)
      have hsources : row.source = row'.source := hirow.symm.trans
        ((of_decide_eq_true hisource).trans ((of_decide_eq_true hjsource).symm.trans hjrow))
      simp only [RPSLDatabaseObject.key, ObjectColumns.key, (Prod.mk.inj hid).1,
        (Prod.mk.inj hid).2, hsources]
    rw [hipk, hjpk, List.inj_on_of_nodup_map objects.nodup hrow hrow' hkey]
  rw [statusChanges, replay_batch _ _ StatusItem.id StatusItem.value hkeys, visibleContents_apply,
    visibleContents_apply, hfind]
  cases hitem : (items.filter (fun i ↦ i.dict.source = source)).find?
      (fun i ↦ i.id = (objectClass, rpslPk)) with
  | some i =>
    have hid : i.id = (objectClass, rpslPk) := by simpa using List.find?_some hitem
    obtain ⟨hi, hisource⟩ := List.mem_filter.mp (List.mem_of_find?_eq_some hitem)
    obtain ⟨row, hrow, -, hirow, hiid, hvalue⟩ := hitems i hi
    have hsource : row.source = source := hirow.symm.trans (of_decide_eq_true hisource)
    have hrowid := hiid.symm.trans hid
    have hkey : row.key = ⟨rpslPk, source, objectClass⟩ := by
      simp only [RPSLDatabaseObject.key, ObjectColumns.key, (Prod.mk.inj hrowid).1,
        (Prod.mk.inj hrowid).2, hsource]
    rw [(objects.find_eq_some_iff _ row).mpr ⟨hrow, hkey⟩]
    exact hvalue hsource
  | none =>
    cases hrow : objects.find ⟨rpslPk, source, objectClass⟩ with
    | none => rfl
    | some row =>
      obtain ⟨hmem, hkey⟩ := (objects.find_eq_some_iff _ row).mp hrow
      have hcolumns : row.rpslPk = rpslPk ∧ row.source = source ∧
          row.objectClass = objectClass := by
        simpa [RPSLDatabaseObject.key, ObjectColumns.key] using hkey
      refine (hothers row hmem hcolumns.2.1 (fun i hi hpk ↦ ?_)).symm
      obtain ⟨row', hrow', hipk, hirow, hiid, -⟩ := hitems i hi
      have hsame := hunique.eq_of_pk hrow' hmem (hipk.symm.trans hpk)
      subst hsame
      have hnone := List.find?_eq_none.mp hitem i
        (List.mem_filter.mpr ⟨hi, decide_eq_true (hirow.trans hcolumns.2.1)⟩)
      exact hnone (by simp [hiid, hcolumns.1, hcolumns.2.2])

/-- Writing and recording pending upserts brings a mirror to the visible objects after it, unless
a suppressed upsert replaces a visible row. -/
theorem replay_upsertChanges {buffer : List BufferedUpsert}
    (hnodup : (buffer.map (fun b ↦ b.columns.key)).Nodup)
    (hfind : ∀ key, (objects'.find key).map RPSLDatabaseObject.toObjectColumns =
      ((buffer.find? (fun b ↦ b.columns.key = key)).map BufferedUpsert.columns).or
        ((objects.find key).map RPSLDatabaseObject.toObjectColumns))
    (hhidden : ∀ b ∈ buffer, b.columns.source = source → b.columns.isVisible = false →
      ∀ row ∈ objects.find b.columns.key, row.isVisible = false) :
    replay (visibleContents objects source) (upsertChanges source buffer) =
      visibleContents objects' source := by
  funext ⟨objectClass, rpslPk⟩
  have hkeys : ((buffer.filter (fun b ↦ b.columns.source = source)).map
      (fun b ↦ (b.columns.objectClass, b.columns.rpslPk))).Nodup := by
    have hpairwise : (buffer.filter (fun b ↦ b.columns.source = source)).Pairwise
        (fun b b' ↦ b.columns.key ≠ b'.columns.key) := (List.pairwise_map.mp hnodup).filter _
    refine List.pairwise_map.mpr (hpairwise.imp_of_mem (fun {b b'} hb hb' hne hid ↦ hne ?_))
    have hsource := of_decide_eq_true (List.mem_filter.mp hb).2
    have hsource' := of_decide_eq_true (List.mem_filter.mp hb').2
    simp only [ObjectColumns.key, (Prod.mk.inj hid).1, (Prod.mk.inj hid).2, hsource, hsource']
  have htext (row : RPSLDatabaseObject) (c : ObjectColumns) (hc : row.toObjectColumns = c) :
      visibleText row = if c.isVisible then some c.objectText else none := by
    subst hc
    rfl
  have hsame (b : BufferedUpsert) : (b.columns.source = source ∧
      (b.columns.objectClass, b.columns.rpslPk) = (objectClass, rpslPk)) ↔
        b.columns.key = ⟨rpslPk, source, objectClass⟩ := by
    simp only [ObjectColumns.key, Prod.mk.injEq, ObjectKey.mk.injEq]
    tauto
  have hpending : (buffer.filter (fun b ↦ b.columns.source = source)).find?
      (fun b ↦ (b.columns.objectClass, b.columns.rpslPk) = (objectClass, rpslPk)) =
        buffer.find? (fun b ↦ b.columns.key = ⟨rpslPk, source, objectClass⟩) := by
    rw [List.find?_filter]
    simp only [decide_eq_true_eq, hsame]
  have hcolumns := hfind ⟨rpslPk, source, objectClass⟩
  rw [upsertChanges, replay_batch _ _ (fun b : BufferedUpsert ↦
    (b.columns.objectClass, b.columns.rpslPk)) BufferedUpsert.value hkeys, hpending,
    visibleContents_apply, visibleContents_apply]
  cases hb : buffer.find? (fun b ↦ b.columns.key = ⟨rpslPk, source, objectClass⟩) with
  | none =>
    rw [hb, Option.map_none, Option.none_or] at hcolumns
    cases hold : objects.find ⟨rpslPk, source, objectClass⟩ with
    | none =>
      rw [hold, Option.map_none, Option.map_eq_none_iff] at hcolumns
      rw [hcolumns]
      rfl
    | some row =>
      rw [hold, Option.map_some, Option.map_eq_some_iff] at hcolumns
      obtain ⟨row', hnew, hc⟩ := hcolumns
      rw [hnew]
      exact (htext row' _ hc).symm
  | some b =>
    rw [hb, Option.map_some, Option.some_or, Option.map_eq_some_iff] at hcolumns
    obtain ⟨row', hnew, hc⟩ := hcolumns
    have hkey : b.columns.key = ⟨rpslPk, source, objectClass⟩ := by simpa using List.find?_some hb
    rw [hnew]
    simp only [Option.bind_some, htext row' _ hc, BufferedUpsert.value]
    cases hvisible : b.columns.isVisible with
    | true => simp
    | false =>
      have hsource : b.columns.source = source := congrArg ObjectKey.source hkey
      have hold := hhidden b (List.mem_of_find?_eq_some hb) hsource hvisible
      rw [hkey] at hold
      simp only [Bool.false_eq_true, if_false, Option.getD_none]
      cases hrow : objects.find ⟨rpslPk, source, objectClass⟩ with
      | none => rfl
      | some row => simp [visibleText, hold row hrow]

/-- Removing a row and recording its deletion. -/
theorem replay_delete {row : RPSLDatabaseObject} (hsource : row.source = source)
    (hfind : ∀ key, objects'.find key = if key = row.key then none else objects.find key) :
    replay (visibleContents objects source)
        [journalChange .delete row.objectClass row.rpslPk row.objectText] =
      visibleContents objects' source := by
  funext ⟨objectClass, rpslPk⟩
  simp only [replay_cons, replay_nil, Change.apply, journalChange]
  rw [visibleContents_apply, hfind]
  by_cases hkey : (⟨rpslPk, source, objectClass⟩ : ObjectKey) = row.key
  · have hid : (objectClass, rpslPk) = (row.objectClass, row.rpslPk) := by
      simp only [RPSLDatabaseObject.key, ObjectColumns.key, ObjectKey.mk.injEq] at hkey
      rw [hkey.1, hkey.2.2]
    rw [if_pos hkey, hid, Function.update_self]
    rfl
  · have hid : (objectClass, rpslPk) ≠ (row.objectClass, row.rpslPk) := by
      intro hid
      apply hkey
      simp only [RPSLDatabaseObject.key, ObjectColumns.key, (Prod.mk.inj hid).1,
        (Prod.mk.inj hid).2, hsource]
    rw [if_neg hkey, Function.update_of_ne hid, visibleContents_apply]

/-- Removing a row of another source. -/
theorem visibleContents_remove {row : RPSLDatabaseObject} (hsource : row.source ≠ source)
    (hfind : ∀ key, objects'.find key = if key = row.key then none else objects.find key) :
    visibleContents objects' source = visibleContents objects source := by
  funext ⟨objectClass, rpslPk⟩
  rw [visibleContents_apply, visibleContents_apply, hfind, if_neg]
  intro hkey
  exact hsource (congrArg ObjectKey.source hkey).symm

end Effects

end Irrd.Storage
