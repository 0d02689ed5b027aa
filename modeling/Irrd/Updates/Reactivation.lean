import Irrd.Updates.Suspension
import Irrd.Utils.Lines

/-!
# Reactivation

Reactivating a maintainer parses the texts of suspended objects again and writes them back. Source:
`irrd/updates/suspension.py`. The parser is a parameter; it raises where it has no result.
-/

namespace Irrd.Updates

open Irrd.Base Irrd.Conf Irrd.Mirroring Irrd.Rpsl Irrd.Scopefilter Irrd.Storage Irrd.Utils

section Reactivate

variable (s : Settings) (v : ScopeFilterValidator) (parse : String → Option RPSLObject)
  (source mntner : String)

/-- `pk_exists`, `irrd/updates/suspension.py:117–120`, after the flush. -/
def pkExists (h : DatabaseHandler) (pk rpslObjectClass : String) : Bool :=
  h.working.objects.rows.any (fun row ↦
    row.source = source ∧ row.rpslPk = pk ∧ row.objectClass = rpslObjectClass)

/-- The loop of `reactivate_for_mntner`: the handler, the row keys of restored rows, the restored
objects and the messages about those that were not. -/
structure ReactivationLoop where
  handler : DatabaseHandler
  restoredRowPks : List Nat
  restoredObjects : List RPSLObject
  infoMessages : List String

/-- What is said about an object that is not restored. -/
def skippedMessage (o : RPSLObject) : String :=
  s!"Skipping restore of object {o.rpslObjectClass}/{o.pk}/{o.source} - " ++
    "an object already exists with the same key"

/-- One row, `irrd/updates/suspension.py:152–177`. The query for existing objects flushes the
buffer. -/
def restoreRow (t : ReactivationLoop) (result : RPSLDatabaseObjectSuspended) :
    Option ReactivationLoop :=
  if result.pk ∈ t.restoredRowPks then some t
  else do
    let o ← parse result.objectText
    let h ← t.handler.flushRpslObjectWritingBuffer s
    if pkExists source h o.pk o.rpslObjectClass then
      return { t with handler := h, infoMessages := t.infoMessages ++ [skippedMessage o] }
    else
      let o := withSingleStatuses s v h.working.roas.rows o.asParsed
      let h ← h.upsertRpslObject s o .suspension false none (some result.originalCreated)
      return ⟨h, t.restoredRowPks ++ [result.pk], t.restoredObjects ++ [o], t.infoMessages⟩

/-- `reactivate_for_mntner`, `irrd/updates/suspension.py:86–180`. -/
def reactivateForMntner (authoritative : String → Bool)
    (rowOrder : RowOrder RPSLDatabaseObjectSuspended) (h : DatabaseHandler) :
    Option (DatabaseHandler × List RPSLObject × List String) :=
  if authoritative source then do
    let h ← h.flushRpslObjectWritingBuffer s
    if pkExists source h mntner "mntner" then none
    else
      let suspended := h.working.suspended.filter (fun row ↦ row.source = source)
      let mntnerResults := rowOrder.order (suspended.filter (fun row ↦
        row.objectClass = "mntner" ∧ row.rpslPk = mntner))
      if mntnerResults = [] then none
      else
        let results := mntnerResults ++
          rowOrder.order (suspended.filter (fun row ↦ mntner ∈ row.mntners))
        let t ← results.foldlM (restoreRow s v parse source) ⟨h, [], [], []⟩
        let h ← t.handler.deleteSuspendedRpslObjects s t.restoredRowPks
        return (h, t.restoredObjects, t.infoMessages)
  else none

end Reactivate

section Restoring

variable {s : Settings} {h : DatabaseHandler}

/-- What an upsert of one object with a creation time does, once it is flushed. -/
structure ObjectRestored (s : Settings) (h h' : DatabaseHandler) (o : RPSLObject) (created : Nat) :
    Prop where
  objects : h'.working.objects = DatabaseHandler.upsertRow h.working.objects
    { h.objectColumns o with pk := h.nextPk, created }
  suspended : h'.working.suspended = h.working.suspended
  buffer : h'.rpslUpsertBuffer = []
  now : h'.now = h.now
  numbers : ∀ source, NumbersEntries s source h → NumbersEntries s source h'

/-- The buffer with one entry. -/
structure Pending (h h₁ : DatabaseHandler) (b : BufferedUpsert) : Prop where
  buffer : h₁.rpslUpsertBuffer = [b]
  guaranteed : h₁.rpslGuaranteedNoExisting = false
  same : SameSerials h h₁
  objects : h₁.working.objects = h.working.objects
  suspended : h₁.working.suspended = h.working.suspended
  nextPk : h₁.nextPk = h.nextPk

/-- An upsert into an empty buffer. -/
theorem upsertRpslObject_pending (o : RPSLObject) (created : Nat)
    (hbuffer : h.rpslUpsertBuffer = []) :
    ∃ h₁, h.upsertRpslObject s o .suspension false none (some created) = some h₁ ∧
      Pending h h₁ ⟨h.objectColumns o, some created, .suspension, none⟩ := by
  unfold DatabaseHandler.upsertRpslObject DatabaseHandler.flushIfSeen
    DatabaseHandler.flushRpslObjectWritingBuffer DatabaseHandler.flushIfFull
  simp only [hbuffer, if_true, ite_self, Option.bind_eq_bind, Option.bind_some]
  rw [if_neg (by show ¬ 15000 < 1; omega)]
  exact ⟨_, rfl, rfl, Bool.and_false _, ⟨rfl, rfl, rfl, rfl, rfl, rfl, rfl⟩, rfl, rfl, rfl⟩

/-- The statement that writes one entry with a creation time. -/
theorem Pending.writeObjects {h₁ : DatabaseHandler} {b : BufferedUpsert} (hpending : Pending h h₁ b)
    {created : Nat} (hcreated : b.created = some created) :
    ∃ h₂, h₁.writeObjects = some h₂ ∧ SameSerials h₁ h₂ ∧
      h₂.working.objects = DatabaseHandler.upsertRow h.working.objects
        { b.columns with pk := h.nextPk, created } ∧
      h₂.working.suspended = h.working.suspended := by
  have hrow : h₁.proposedRow b h₁.nextPk = { b.columns with pk := h.nextPk, created } := by
    unfold DatabaseHandler.proposedRow
    rw [hcreated, hpending.nextPk]
    rfl
  simp only [DatabaseHandler.writeObjects, hpending.buffer, hpending.guaranteed]
  simp only [List.head?_cons, Option.bind_some, hcreated, Option.isSome_some, List.any_cons,
    Option.isNone_some, List.any_nil, Bool.or_self, Bool.false_eq_true, and_false, if_false,
    if_true, List.mapIdx_cons, List.mapIdx_nil, Nat.add_zero, hrow, List.foldl_cons, List.foldl_nil]
  rw [List.map_singleton, if_pos (List.nodup_singleton _)]
  exact ⟨_, rfl, ⟨rfl, rfl, rfl, rfl, rfl, rfl, rfl⟩,
    congrArg (DatabaseHandler.upsertRow · _) hpending.objects, hpending.suspended⟩

/-- An upsert with a creation time, into an empty buffer. -/
theorem upsertRpslObject_spec (o : RPSLObject) (created : Nat) (hbuffer : h.rpslUpsertBuffer = [])
    (hnumbers : s.keepJournal o.source = true → NumbersEntries s o.source h) :
    ∃ h₁ h₂, h.upsertRpslObject s o .suspension false none (some created) = some h₁ ∧
      h₁.flushRpslObjectWritingBuffer s = some h₂ ∧ ObjectRestored s h h₂ o created := by
  obtain ⟨h₁, hupsert, hpending⟩ := upsertRpslObject_pending (s := s) o created hbuffer
  obtain ⟨h₂, hwrite, hsame, hobjects, hsuspended⟩ := hpending.writeObjects rfl
  have hall : ∀ source, NumbersEntries s source h → NumbersEntries s source h₂ :=
    fun source hsource ↦ (hsource.same hpending.same).same hsame
  obtain ⟨h₃, hrecord⟩ : ∃ h₃, h₂.recordUpsert s
      ⟨h.objectColumns o, some created, .suspension, none⟩ = some h₃ := by
    unfold DatabaseHandler.recordUpsert
    dsimp only
    split
    · exact Option.isSome_iff_exists.mp (recordOperation_isSome _
        (fun hkeep ↦ hall _ (hnumbers hkeep)))
    · exact ⟨h₂, rfl⟩
  have hrecorded : h₃.working.objects = h₂.working.objects ∧
      h₃.working.suspended = h₂.working.suspended ∧ h₃.now = h₂.now ∧
      ∀ source, NumbersEntries s source h₂ → NumbersEntries s source h₃ := by
    unfold DatabaseHandler.recordUpsert at hrecord
    dsimp only at hrecord
    split at hrecord
    · have hframe := (recordOperation_eq_some hrecord).1
      exact ⟨hframe.objects, suspended_recordOperation hrecord, hframe.now,
        fun source hsource ↦ hsource.record hrecord⟩
    · cases hrecord
      exact ⟨rfl, rfl, rfl, fun _ h ↦ h⟩
  have hflush : h₁.flushRpslObjectWritingBuffer s =
      some { h₃ with rpslPkSourceSeen := [], rpslUpsertBuffer := [] } := by
    unfold DatabaseHandler.flushRpslObjectWritingBuffer
    rw [hpending.buffer, if_neg (List.cons_ne_nil _ _), hwrite]
    simp only [Option.bind_eq_bind, Option.bind_some, List.foldlM_cons, hrecord, List.foldlM_nil]
    rfl
  refine ⟨h₁, _, hupsert, hflush, ?_, ?_, rfl, ?_, ?_⟩
  · exact hrecorded.1.trans hobjects
  · exact hrecorded.2.1.trans hsuspended
  · exact hrecorded.2.2.1.trans (hsame.now.trans hpending.same.now)
  · exact fun source hsource ↦ (hrecorded.2.2.2 source (hall source hsource)).same
      ⟨rfl, rfl, rfl, rfl, rfl, rfl, rfl⟩

end Restoring

section Loop

/-- The key of a suspended object. -/
def suspendedKey (result : RPSLDatabaseObjectSuspended) : ObjectKey :=
  ⟨result.rpslPk, result.source, result.objectClass⟩

/-- The text under a key, apart from times of last modification, and its creation time. -/
def textAt (t : ObjectTable) (key : ObjectKey) : Option (List Char × Nat) :=
  (t.find key).map (fun row ↦ (removeLastModified row.objectText.toList, row.created))

theorem textAt_upsertRow (t : ObjectTable) (row : RPSLDatabaseObject) (key : ObjectKey) :
    textAt (DatabaseHandler.upsertRow t row) key =
      if row.key = key then some (removeLastModified row.objectText.toList, row.created)
      else textAt t key :=
  map_find_upsertRow (fun row ↦ (removeLastModified row.objectText.toList, row.created))
    (fun _ _ ↦ rfl) t row key

/-- A stored text parses to an object of the same class and key, which renders to the same text. -/
def Reparses (parse : String → Option RPSLObject) (text : String) (key : ObjectKey) : Prop :=
  ∃ o, parse text = some o ∧ (⟨o.pk, o.source, o.rpslObjectClass⟩ : ObjectKey) = key ∧
    ∀ now, removeLastModified (o.renderRpslText now).toList = removeLastModified text.toList

/-- The tables after some suspended objects have been restored. -/
structure RestoredTables (s : Settings) (source : String) (h₁ : DatabaseHandler)
    (done : List RPSLDatabaseObjectSuspended) (h : DatabaseHandler) : Prop where
  restored : ∀ r ∈ done, textAt h.working.objects (suspendedKey r) =
    some (removeLastModified r.objectText.toList, r.originalCreated)
  others : ∀ key, (∀ r ∈ done, suspendedKey r ≠ key) →
    textAt h.working.objects key = textAt h₁.working.objects key
  suspended : h.working.suspended = h₁.working.suspended
  buffer : h.rpslUpsertBuffer = []
  numbers : s.keepJournal source = true → NumbersEntries s source h

/-- What holds while the loop runs: what is pending can be flushed, and nothing is skipped. -/
structure Restoring (s : Settings) (source : String) (h₁ : DatabaseHandler)
    (done : List RPSLDatabaseObjectSuspended) (t : ReactivationLoop) : Prop where
  flushed : ∃ h, t.handler.flushRpslObjectWritingBuffer s = some h ∧
    RestoredTables s source h₁ done h
  restoredRowPks : ∀ pk, pk ∈ t.restoredRowPks ↔ ∃ r ∈ done, r.pk = pk
  infoMessages : t.infoMessages = []

/-- Suspended objects that can be restored together. -/
structure Restorable (parse : String → Option RPSLObject) (source : String) (h₁ : DatabaseHandler)
    (results : List RPSLDatabaseObjectSuspended) : Prop where
  source : ∀ r ∈ results, r.source = source
  reparses : ∀ r ∈ results, Reparses parse r.objectText (suspendedKey r)
  absent : ∀ r ∈ results, h₁.working.objects.find (suspendedKey r) = none
  keys : ∀ r ∈ results, ∀ r' ∈ results, suspendedKey r = suspendedKey r' → r = r'
  pks : ∀ r ∈ results, ∀ r' ∈ results, r.pk = r'.pk → r = r'

variable {s : Settings} {v : ScopeFilterValidator} {parse : String → Option RPSLObject}
  {source : String} {h₁ : DatabaseHandler} {results done : List RPSLDatabaseObjectSuspended}
  {t : ReactivationLoop} {r : RPSLDatabaseObjectSuspended}

/-- Each object is restored unless it already was. -/
theorem Restoring.step (hinv : Restoring s source h₁ done t)
    (hrestorable : Restorable parse source h₁ results) (hdone : ∀ r' ∈ done, r' ∈ results)
    (hr : r ∈ results) :
    ∃ t', restoreRow s v parse source t r = some t' ∧
      Restoring s source h₁ (done ++ [r]) t' := by
  unfold restoreRow
  by_cases hpk : r.pk ∈ t.restoredRowPks
  · rw [if_pos hpk]
    obtain ⟨r', hr', hsame⟩ := (hinv.restoredRowPks r.pk).mp hpk
    obtain rfl := hrestorable.pks r' (hdone r' hr') r hr hsame
    have hmem (a : RPSLDatabaseObjectSuspended) : a ∈ done ++ [r'] ↔ a ∈ done := by
      rw [List.mem_append, List.mem_singleton]
      exact ⟨fun h ↦ h.elim id (fun h ↦ h ▸ hr'), Or.inl⟩
    obtain ⟨h, hflush, htables⟩ := hinv.flushed
    refine ⟨t, rfl, ⟨h, hflush, ⟨fun a ha ↦ htables.restored a ((hmem a).mp ha),
      fun key hkey ↦ htables.others key (fun a ha ↦ hkey a ((hmem a).mpr ha)), htables.suspended,
      htables.buffer, htables.numbers⟩⟩, fun pk ↦ ?_, hinv.infoMessages⟩
    simp only [hinv.restoredRowPks pk, hmem]
  rw [if_neg hpk]
  obtain ⟨h, hflush, htables⟩ := hinv.flushed
  obtain ⟨o, hparse, hkey, htext⟩ := hrestorable.reparses r hr
  have hnew : ∀ r' ∈ done, suspendedKey r' ≠ suspendedKey r := by
    intro r' hr' hsame
    obtain rfl := hrestorable.keys r' (hdone r' hr') r hr hsame
    exact hpk ((hinv.restoredRowPks _).mpr ⟨r', hr', rfl⟩)
  have habsent : h.working.objects.find (suspendedKey r) = none := by
    have hnone := htables.others (suspendedKey r) hnew
    unfold textAt at hnone
    rw [hrestorable.absent r hr] at hnone
    exact Option.map_eq_none_iff.mp hnone
  have hsourceO : o.source = source :=
    (congrArg ObjectKey.source hkey).trans (hrestorable.source r hr)
  have hpkExists : pkExists source h o.pk o.rpslObjectClass = false := by
    unfold pkExists
    rw [List.any_eq_false]
    intro row hrow hsame
    obtain ⟨hsource, hrowPk, hclass⟩ := of_decide_eq_true hsame
    refine (KeyedTable.find_eq_none_iff h.working.objects (suspendedKey r)).mp habsent row hrow ?_
    rw [← hkey]
    show (⟨row.rpslPk, row.source, row.objectClass⟩ : ObjectKey) = _
    rw [hrowPk, hsource, hclass, hsourceO]
  obtain ⟨h₂, h₃, hupsert, hflush', hspec⟩ := upsertRpslObject_spec (s := s) (h := h)
    (withSingleStatuses s v h.working.roas.rows o.asParsed) r.originalCreated htables.buffer
    (fun hkeep ↦ hsourceO ▸ htables.numbers (hsourceO ▸ hkeep))
  simp only [hparse, hflush, Option.bind_eq_bind, Option.bind_some, hpkExists, Bool.false_eq_true,
    if_false, hupsert]
  have hfind (key : ObjectKey) : textAt h₃.working.objects key =
      if suspendedKey r = key then some (removeLastModified r.objectText.toList, r.originalCreated)
      else textAt h.working.objects key := by
    rw [hspec.objects, textAt_upsertRow, ← hkey, ← htext h.now]
    rfl
  refine ⟨_, rfl, ⟨h₃, hflush', ⟨fun a ha ↦ ?_, fun key hne ↦ ?_,
    hspec.suspended.trans htables.suspended, hspec.buffer,
    fun hkeep ↦ hspec.numbers source (htables.numbers hkeep)⟩⟩, fun pk ↦ ?_, hinv.infoMessages⟩
  · rcases List.mem_append.mp ha with ha | ha
    · rw [hfind, if_neg (hnew a ha).symm]
      exact htables.restored a ha
    · rw [hfind, List.mem_singleton.mp ha, if_pos rfl]
  · rw [hfind, if_neg (hne r (List.mem_append_right _ (List.mem_singleton_self r)))]
    exact htables.others key (fun a ha ↦ hne a (List.mem_append_left _ ha))
  · rw [List.mem_append, hinv.restoredRowPks pk, List.mem_singleton]
    simp only [List.mem_append, List.mem_singleton, or_and_right, exists_or, exists_eq_left]
    exact or_congr_right eq_comm

/-- The loop over suspended objects that can be restored together. -/
theorem Restoring.run {rest : List RPSLDatabaseObjectSuspended}
    (hinv : Restoring s source h₁ done t) (hrestorable : Restorable parse source h₁ results)
    (hdone : ∀ r ∈ done, r ∈ results) (hrest : ∀ r ∈ rest, r ∈ results) :
    ∃ t', rest.foldlM (restoreRow s v parse source) t = some t' ∧
      Restoring s source h₁ (done ++ rest) t' := by
  induction rest generalizing done t with
  | nil => exact ⟨t, rfl, by rwa [List.append_nil]⟩
  | cons r rest ih =>
    obtain ⟨t₁, hstep, hinv₁⟩ := hinv.step (v := v) hrestorable hdone (hrest r List.mem_cons_self)
    obtain ⟨t', hrun, hinv'⟩ := ih hinv₁ (by
      intro a ha
      rcases List.mem_append.mp ha with ha | ha
      · exact hdone a ha
      · exact hrest a (List.mem_singleton.mp ha ▸ List.mem_cons_self))
      (fun a ha ↦ hrest a (List.mem_cons_of_mem r ha))
    refine ⟨t', ?_, by rwa [List.append_assoc] at hinv'⟩
    rw [List.foldlM_cons, hstep]
    exact hrun

end Loop

section RoundTrip

variable {s : Settings} {v : ScopeFilterValidator} {parse : String → Option RPSLObject}
  {source mntner : String} {authoritative : String → Bool} {h h₀ h₁ : DatabaseHandler}
  {rowOrder : RowOrder RPSLDatabaseObject} {suspended done : List RPSLDatabaseObject}
  {t t' : SuspensionLoop}

/-- A loop that succeeds has found a list of mntners in each of its rows. -/
theorem mntBy_isSome_of_foldlM {rows : List RPSLDatabaseObject}
    (hrun : rows.foldlM (suspendRow s source mntner) t = some t')
    (hsuspended : ∀ row ∈ t.suspended, (row.parsedData.lookup "mnt-by").isSome) :
    ∀ row ∈ rows, (row.parsedData.lookup "mnt-by").isSome := by
  induction rows generalizing t with
  | nil => simp
  | cons row rows ih =>
    rw [List.foldlM_cons] at hrun
    obtain ⟨t₁, hstep, hrest⟩ := Option.bind_eq_some_iff.mp hrun
    have hboth : (row.parsedData.lookup "mnt-by").isSome ∧
        ∀ r ∈ t₁.suspended, (r.parsedData.lookup "mnt-by").isSome := by
      unfold suspendRow at hstep
      split at hstep
      · next hmem =>
        cases hstep
        exact ⟨hsuspended row hmem, hsuspended⟩
      · obtain ⟨mntners, hmntners, hstep⟩ := Option.bind_eq_some_iff.mp hstep
        have hrow : (row.parsedData.lookup "mnt-by").isSome := hmntners ▸ rfl
        refine ⟨hrow, ?_⟩
        dsimp only at hstep
        split at hstep
        · cases hstep
          exact hsuspended
        · obtain ⟨handler, -, hstep⟩ := Option.bind_eq_some_iff.mp hstep
          cases hstep
          intro r hr
          rcases List.mem_append.mp hr with hr | hr
          · exact hsuspended r hr
          · exact List.mem_singleton.mp hr ▸ hrow
    intro r hr
    rcases List.mem_cons.mp hr with rfl | hr
    · exact hboth.1
    · exact ih hrest hboth.2 r hr

/-- What a suspension that succeeds has found. -/
theorem suspendable_of_suspendForMntner (hflush : h.flushRpslObjectWritingBuffer s = some h₀)
    (hunique : h₀.working.objects.PksUnique)
    (hnumbers : s.keepJournal source = true → NumbersEntries s source h₀)
    (hsuspend : suspendForMntner s source mntner authoritative rowOrder h = some (h₁, suspended)) :
    authoritative source = true ∧ Suspendable s source mntner h₀ := by
  unfold suspendForMntner at hsuspend
  split at hsuspend
  · next hauth =>
    rw [hflush] at hsuspend
    simp only [Option.bind_eq_bind, Option.bind_some] at hsuspend
    split at hsuspend
    · cases hsuspend
    · next hfound =>
      obtain ⟨t, hrun, -⟩ := Option.bind_eq_some_iff.mp hsuspend
      refine ⟨hauth, (flush_pending hflush).1, hunique, hnumbers, ?_, fun row hrow hmntner ↦ ?_⟩
      · obtain ⟨row, hrow⟩ := List.exists_mem_of_ne_nil _ hfound
        exact List.any_eq_true.mpr ⟨row, List.mem_filter.mp hrow⟩
      · exact mntBy_isSome_of_foldlM hrun (by simp) row
          (List.mem_append_right _ (List.mem_filter.mpr ⟨hrow, hmntner⟩))
  · cases hsuspend

/-- A row that has been moved to the suspended store. -/
def IsMoved (h₀ : DatabaseHandler) (t : SuspensionLoop) (r : RPSLDatabaseObjectSuspended) : Prop :=
  ∃ i row, t.suspended[i]? = some row ∧ r = suspendedRow h₀.now (h₀.nextPk + i) row

/-- The suspended store after a suspension. -/
theorem LoopInvariant.mem_suspendedStore (hinv : LoopInvariant s source mntner h₀ done t)
    (r : RPSLDatabaseObjectSuspended) :
    r ∈ t.handler.working.suspended ↔ r ∈ h₀.working.suspended ∨ IsMoved h₀ t r := by
  rw [hinv.moved, List.mem_append]
  refine or_congr_right ?_
  rw [List.mem_mapIdx]
  constructor
  · rintro ⟨i, hi, rfl⟩
    exact ⟨i, t.suspended[i], List.getElem?_eq_getElem hi, rfl⟩
  · rintro ⟨i, row, hrow, rfl⟩
    obtain ⟨hi, rfl⟩ := List.getElem?_eq_some_iff.mp hrow
    exact ⟨i, hi, rfl⟩

/-- The objects after a suspension. -/
theorem LoopInvariant.objects_eq (hinv : LoopInvariant s source mntner h₀ done t) :
    t.handler.working.objects =
      h₀.working.objects.filter (fun row ↦ decide (row ∉ t.suspended)) := by
  apply KeyedTable.ext
  exact hinv.objects

/-- A moved row keeps its key, text and creation time, and is no longer in its table. -/
theorem LoopInvariant.moved_row (hinv : LoopInvariant s source mntner h₀ done t)
    (hqueried : Queried source mntner h₀.working.objects.rows done)
    {r : RPSLDatabaseObjectSuspended} (hr : IsMoved h₀ t r) :
    ∃ row ∈ t.suspended, h₀.working.objects.find (suspendedKey r) = some row ∧
      (isMaintainedBy source mntner row = true ∨ isMntner source mntner row = true) ∧
      r.source = source ∧ r.objectText = row.objectText ∧ r.originalCreated = row.created ∧
      r.mntners = mntBy row := by
  obtain ⟨i, row, hrow, rfl⟩ := hr
  have hmem := List.mem_of_getElem? hrow
  obtain ⟨hstored, hfound⟩ := (hqueried.mem_iff row).mp (hinv.within row hmem)
  refine ⟨row, hmem, (KeyedTable.mem_rows_iff _ _).mp hstored, hfound, ?_, rfl, rfl, rfl⟩
  rcases hfound with hmaintained | hmntner
  · exact (of_decide_eq_true hmaintained).1
  · exact (of_decide_eq_true hmntner).2.1

/-- Moved rows have their own keys. -/
theorem LoopInvariant.moved_injective (hinv : LoopInvariant s source mntner h₀ done t)
    (hqueried : Queried source mntner h₀.working.objects.rows done)
    {r r' : RPSLDatabaseObjectSuspended} (hr : IsMoved h₀ t r) (hr' : IsMoved h₀ t r') :
    (suspendedKey r = suspendedKey r' → r = r') ∧ (r.pk = r'.pk → r = r') := by
  obtain ⟨i, row, hrow, rfl⟩ := hr
  obtain ⟨i', row', hrow', rfl⟩ := hr'
  constructor
  · intro hkey
    have hstored := ((hqueried.mem_iff row).mp (hinv.within row (List.mem_of_getElem? hrow))).1
    have hstored' := ((hqueried.mem_iff row').mp (hinv.within row' (List.mem_of_getElem? hrow'))).1
    obtain rfl := List.inj_on_of_nodup_map h₀.working.objects.nodup hstored hstored' hkey
    obtain ⟨hi, hget⟩ := List.getElem?_eq_some_iff.mp hrow
    obtain ⟨hi', hget'⟩ := List.getElem?_eq_some_iff.mp hrow'
    have hindex : i = i' := (hinv.nodup.getElem_inj_iff).mp (hget.trans hget'.symm)
    rw [hindex]
  · intro hpk
    have hindex : i = i' := Nat.add_left_cancel hpk
    subst hindex
    rw [hrow] at hrow'
    rw [Option.some_inj.mp hrow']

/-- The rows that a suspension has moved can be restored together. -/
theorem LoopInvariant.restorable (hinv : LoopInvariant s source mntner h₀ done t)
    (hqueried : Queried source mntner h₀.working.objects.rows done)
    (hparse : ∀ row ∈ h₀.working.objects.rows, row.source = source →
      Reparses parse row.objectText row.key)
    {results : List RPSLDatabaseObjectSuspended} (hresults : ∀ r ∈ results, IsMoved h₀ t r)
    {now : Nat} : Restorable parse source { t.handler with now } results where
  source r hr := by
    obtain ⟨row, -, -, -, hsource, -⟩ := hinv.moved_row hqueried (hresults r hr)
    exact hsource
  reparses r hr := by
    obtain ⟨row, -, hfind, -, hsource, htext, -⟩ := hinv.moved_row hqueried (hresults r hr)
    have hkey := KeyedTable.find_key hfind
    rw [htext, ← hkey]
    exact hparse row (KeyedTable.find_mem hfind) ((congrArg ObjectKey.source hkey).trans hsource)
  absent r hr := by
    obtain ⟨row, hmem, hfind, -⟩ := hinv.moved_row hqueried (hresults r hr)
    show t.handler.working.objects.find (suspendedKey r) = none
    rw [hinv.objects_eq, KeyedTable.find_filter, hfind]
    simp [Option.filter, hmem]
  keys r hr r' hr' := (hinv.moved_injective hqueried (hresults r hr) (hresults r' hr')).1
  pks r hr r' hr' := (hinv.moved_injective hqueried (hresults r hr) (hresults r' hr')).2

/-- The suspended store of a source has nothing of a mntner. -/
def NothingSuspended (source mntner : String) (rows : List RPSLDatabaseObjectSuspended) : Prop :=
  ∀ r ∈ rows, r.source = source →
    mntner ∉ r.mntners ∧ ¬ (r.objectClass = "mntner" ∧ r.rpslPk = mntner)

/-- The rows that a reactivation finds. -/
def reactivationResults (rowOrder : RowOrder RPSLDatabaseObjectSuspended) (source mntner : String)
    (rows : List RPSLDatabaseObjectSuspended) : List RPSLDatabaseObjectSuspended :=
  let suspended := rows.filter (fun row ↦ row.source = source)
  rowOrder.order (suspended.filter (fun row ↦
      row.objectClass = "mntner" ∧ row.rpslPk = mntner)) ++
    rowOrder.order (suspended.filter (fun row ↦ mntner ∈ row.mntners))

/-- A reactivation finds the moved rows. -/
theorem LoopInvariant.mem_reactivationResults (hinv : LoopInvariant s source mntner h₀ done t)
    (hqueried : Queried source mntner h₀.working.objects.rows done)
    (hstore : NothingSuspended source mntner h₀.working.suspended)
    (rowOrder : RowOrder RPSLDatabaseObjectSuspended) (r : RPSLDatabaseObjectSuspended) :
    r ∈ reactivationResults rowOrder source mntner t.handler.working.suspended ↔
      IsMoved h₀ t r := by
  unfold reactivationResults
  rw [List.mem_append, (rowOrder.perm _).mem_iff, (rowOrder.perm _).mem_iff]
  simp only [List.mem_filter, decide_eq_true_eq, hinv.mem_suspendedStore]
  constructor
  · rintro (⟨⟨hstored | hmoved, hsource⟩, hmntner⟩ | ⟨⟨hstored | hmoved, hsource⟩, hlists⟩)
    · exact absurd hmntner (hstore r hstored hsource).2
    · exact hmoved
    · exact absurd hlists (hstore r hstored hsource).1
    · exact hmoved
  · intro hmoved
    obtain ⟨row, -, hfind, hfound, hsource, -, -, hmntners⟩ := hinv.moved_row hqueried hmoved
    rcases hfound with hmaintained | hmntner
    · exact Or.inr ⟨⟨Or.inr hmoved, hsource⟩, hmntners ▸ (of_decide_eq_true hmaintained).2⟩
    · have hkey := KeyedTable.find_key hfind
      obtain ⟨hclass, -, hpk⟩ := of_decide_eq_true hmntner
      refine Or.inl ⟨⟨Or.inr hmoved, hsource⟩, ?_, ?_⟩
      · exact (congrArg ObjectKey.objectClass hkey).symm.trans hclass
      · exact (congrArg ObjectKey.rpslPk hkey).symm.trans hpk

/-- Restoring the moved rows restores the texts and the store. -/
theorem LoopInvariant.restoredTables (hinv : LoopInvariant s source mntner h₀ done t)
    (hqueried : Queried source mntner h₀.working.objects.rows done)
    (hpks : ∀ r ∈ h₀.working.suspended, r.pk < h₀.nextPk) {now : Nat}
    {results : List RPSLDatabaseObjectSuspended}
    (hresults : ∀ r, r ∈ results ↔ IsMoved h₀ t r)
    (htables : RestoredTables s source { t.handler with now } results h) :
    (∀ key, textAt h.working.objects key = textAt h₀.working.objects key) ∧
      ∀ pks : List Nat, (∀ pk, pk ∈ pks ↔ ∃ r ∈ results, r.pk = pk) →
        h.working.suspended.filter (fun row ↦ row.pk ∉ pks) = h₀.working.suspended := by
  constructor
  · intro key
    by_cases hmoved : ∃ r ∈ results, suspendedKey r = key
    · obtain ⟨r, hr, rfl⟩ := hmoved
      obtain ⟨row, -, hfind, -, -, htext, hcreated, -⟩ :=
        hinv.moved_row hqueried ((hresults r).mp hr)
      rw [htables.restored r hr, textAt, hfind, htext, hcreated]
      rfl
    · have hothers := htables.others key (fun r hr hkey ↦ hmoved ⟨r, hr, hkey⟩)
      rw [hothers]
      show textAt t.handler.working.objects key = _
      unfold textAt
      rw [hinv.objects_eq, KeyedTable.find_filter]
      cases hfind : h₀.working.objects.find key with
      | none => rfl
      | some row =>
        have hkept : row ∉ t.suspended := by
          intro hmem
          obtain ⟨i, hi, hget⟩ := List.getElem_of_mem hmem
          refine hmoved ⟨suspendedRow h₀.now (h₀.nextPk + i) row, (hresults _).mpr
            ⟨i, row, List.getElem?_eq_some_iff.mpr ⟨hi, hget⟩, rfl⟩, ?_⟩
          show row.key = key
          exact KeyedTable.find_key hfind
        simp [Option.filter, hkept]
  · intro pks hmem
    have hstore : h.working.suspended = h₀.working.suspended ++
        t.suspended.mapIdx (fun i row ↦ suspendedRow h₀.now (h₀.nextPk + i) row) :=
      htables.suspended.trans hinv.moved
    rw [hstore, List.filter_append]
    have hold : h₀.working.suspended.filter (fun row ↦ row.pk ∉ pks) = h₀.working.suspended := by
      rw [List.filter_eq_self]
      intro r hr
      refine decide_eq_true (fun hpk ↦ ?_)
      obtain ⟨r', hr', hsame⟩ := (hmem r.pk).mp hpk
      obtain ⟨i, row, -, rfl⟩ := (hresults r').mp hr'
      have hlt := hpks r hr
      have hge : r.pk = h₀.nextPk + i := hsame.symm
      omega
    have hnew : (t.suspended.mapIdx (fun i row ↦
        suspendedRow h₀.now (h₀.nextPk + i) row)).filter (fun row ↦ row.pk ∉ pks) = [] := by
      rw [List.filter_eq_nil_iff]
      intro r hr
      obtain ⟨i, hi, rfl⟩ := List.mem_mapIdx.mp hr
      have hmoved : IsMoved h₀ t (suspendedRow h₀.now (h₀.nextPk + i) t.suspended[i]) :=
        ⟨i, _, List.getElem?_eq_getElem hi, rfl⟩
      simpa using (hmem _).mpr ⟨_, (hresults _).mpr hmoved, rfl⟩
    rw [hold, hnew, List.append_nil]

/-- A mntner that was suspended does not exist. -/
theorem LoopInvariant.pkExists_eq_false (hinv : LoopInvariant s source mntner h₀ done t)
    (hqueried : Queried source mntner h₀.working.objects.rows done) :
    pkExists source t.handler mntner "mntner" = false := by
  unfold pkExists
  rw [hinv.objects, List.any_eq_false]
  intro row hrow hfound
  obtain ⟨hstored, hkept⟩ := List.mem_filter.mp hrow
  obtain ⟨hsource, hkey, hclass⟩ := of_decide_eq_true hfound
  have hmntner : isMntner source mntner row = true := decide_eq_true ⟨hclass, hsource, hkey⟩
  exact (hinv.kept row ((hqueried.mem_iff row).mpr ⟨hstored, Or.inr hmntner⟩)
    (of_decide_eq_true hkept)).1 hkey

/-- The mntner itself is in the suspended store. -/
theorem LoopInvariant.mntnerResults_ne_nil (hinv : LoopInvariant s source mntner h₀ done t)
    (hqueried : Queried source mntner h₀.working.objects.rows done)
    (hactive : mntnerActive source h₀.working.objects.rows mntner = true)
    (rowOrder : RowOrder RPSLDatabaseObjectSuspended) :
    rowOrder.order ((t.handler.working.suspended.filter (fun row ↦ row.source = source)).filter
      (fun row ↦ row.objectClass = "mntner" ∧ row.rpslPk = mntner)) ≠ [] := by
  obtain ⟨row, hrow, hmntner⟩ := List.any_eq_true.mp hactive
  obtain ⟨hclass, hsource, hkey⟩ := of_decide_eq_true hmntner
  have hmoved : row ∈ t.suspended := by
    by_contra hkept
    exact (hinv.kept row ((hqueried.mem_iff row).mpr ⟨hrow, Or.inr hmntner⟩) hkept).1 hkey
  obtain ⟨i, hi, hget⟩ := List.getElem_of_mem hmoved
  apply List.ne_nil_of_mem
  rw [(rowOrder.perm _).mem_iff, List.mem_filter, List.mem_filter]
  refine ⟨⟨(hinv.mem_suspendedStore _).mpr (Or.inr
    ⟨i, row, List.getElem?_eq_some_iff.mpr ⟨hi, hget⟩, rfl⟩), ?_⟩, ?_⟩
  · exact decide_eq_true hsource
  · exact decide_eq_true ⟨hclass, hkey⟩

/-- A reactivation directly after a suspension succeeds, skips nothing, and restores the text under
every key, apart from times of last modification, with its creation time, and the suspended
store. -/
theorem reactivateForMntner_suspendForMntner (rowOrder' : RowOrder RPSLDatabaseObjectSuspended)
    (now : Nat) (hflush : h.flushRpslObjectWritingBuffer s = some h₀)
    (hunique : h₀.working.objects.PksUnique)
    (hpks : ∀ r ∈ h₀.working.suspended, r.pk < h₀.nextPk)
    (hnumbers : s.keepJournal source = true → NumbersEntries s source h₀)
    (hstore : NothingSuspended source mntner h₀.working.suspended)
    (hparse : ∀ row ∈ h₀.working.objects.rows, row.source = source →
      Reparses parse row.objectText row.key)
    (hsuspend : suspendForMntner s source mntner authoritative rowOrder h = some (h₁, suspended)) :
    ∃ h₂ restored, reactivateForMntner s v parse source mntner authoritative rowOrder'
        { h₁ with now } = some (h₂, restored, []) ∧
      (∀ key, textAt h₂.working.objects key = textAt h₀.working.objects key) ∧
      h₂.working.suspended = h₀.working.suspended ∧ h₂.rpslUpsertBuffer = [] := by
  obtain ⟨hauth, hs⟩ := suspendable_of_suspendForMntner hflush hunique hnumbers hsuspend
  obtain ⟨done, t, hspec, hqueried, hinv⟩ := suspendForMntner_spec rowOrder hauth hflush hs
  obtain ⟨rfl, rfl⟩ := Prod.mk.inj (Option.some_inj.mp (hsuspend.symm.trans hspec))
  have hresults := hinv.mem_reactivationResults hqueried hstore rowOrder'
  have hnoFlush : DatabaseHandler.flushRpslObjectWritingBuffer s { t.handler with now } =
      some { t.handler with now } := if_pos hinv.buffer
  have hstart : Restoring s source { t.handler with now } []
      ⟨{ t.handler with now }, [], [], []⟩ := by
    refine ⟨⟨_, hnoFlush, ⟨by simp, fun _ _ ↦ rfl, rfl, hinv.buffer, fun hkeep ↦ ?_⟩⟩, by simp, rfl⟩
    exact ⟨(hinv.numbers hkeep).own, (hinv.numbers hkeep).above⟩
  have hrestorable : Restorable parse source { t.handler with now }
      (reactivationResults rowOrder' source mntner t.handler.working.suspended) :=
    hinv.restorable hqueried hparse (fun r hr ↦ (hresults r).mp hr)
  obtain ⟨t', hrun, hrestoring⟩ := hstart.run (v := v) hrestorable (by simp) (fun r hr ↦ hr)
  obtain ⟨h₂, hflush₂, htables⟩ := hrestoring.flushed
  obtain ⟨htexts, hfilter⟩ := hinv.restoredTables hqueried hpks hresults htables
  have hfound := hinv.mntnerResults_ne_nil hqueried hs.active rowOrder'
  refine ⟨{ h₂ with working := { h₂.working with
      suspended := h₂.working.suspended.filter (fun row ↦ row.pk ∉ t'.restoredRowPks) } },
    t'.restoredObjects, ?_, htexts, hfilter t'.restoredRowPks hrestoring.restoredRowPks,
    htables.buffer⟩
  unfold reactivateForMntner
  rw [if_pos hauth, hnoFlush]
  simp only [Option.bind_eq_bind, Option.bind_some]
  rw [if_neg (Bool.not_eq_true _ ▸ hinv.pkExists_eq_false hqueried), if_neg hfound]
  show Option.bind (List.foldlM (restoreRow s v parse source) ⟨{ t.handler with now }, [], [], []⟩
    (reactivationResults rowOrder' source mntner t.handler.working.suspended)) _ = _
  rw [hrun, Option.bind_some, hrestoring.infoMessages]
  unfold DatabaseHandler.deleteSuspendedRpslObjects
  rw [hflush₂]
  rfl

section Examples

/-- A mntner, and a person that it maintains, with their texts. -/
def retainedRows : List RPSLDatabaseObject :=
  [{ maintainedRow 0 "mntner" "A-MNT" ["A-MNT"] with
      objectText := "mntner:         A-MNT\nmnt-by:         A-MNT\nsource:         TEST\n" },
    { maintainedRow 1 "person" "P1" ["A-MNT"] with
      objectText :=
        "person:         P\nnic-hdl:        P1\nmnt-by:         A-MNT\nsource:         TEST\n" }]

/-- The object of a row, in a source that retains times of last modification. -/
def retainedObject (row : RPSLDatabaseObject) : RPSLObject :=
  { personObject row.rpslPk with
    rpslObjectClass := row.objectClass
    source := row.source
    parsedData := row.parsedData
    renderRpslText := fun _ ↦ row.objectText }

def retainedHandler : DatabaseHandler := handlerOn retainedRows (by decide)

/-- The objects of these texts. -/
def parseRetained (text : String) : Option RPSLObject :=
  (retainedRows.find? (fun row ↦ row.objectText = text)).map retainedObject

theorem reparses_retainedRows : ∀ row ∈ retainedRows,
    Reparses parseRetained row.objectText row.key := by
  intro row hrow
  have hparse : parseRetained row.objectText = some (retainedObject row) := by
    rcases List.mem_cons.mp hrow with rfl | hrow
    · rfl
    · rw [List.mem_singleton.mp hrow]
      rfl
  exact ⟨retainedObject row, hparse, rfl, fun _ ↦ rfl⟩

/-- A mntner is suspended, and reactivated an hour later. -/
theorem reactivateForMntner_retainedHandler : ∃ h₁ suspended h₂ restored,
    suspendForMntner localSettings "TEST" "A-MNT" (fun _ ↦ true) storedOrder retainedHandler =
        some (h₁, suspended) ∧
      reactivateForMntner localSettings (.loadFilters ⟨[], []⟩) parseRetained "TEST" "A-MNT"
        (fun _ ↦ true) ⟨id, List.Perm.refl⟩ { h₁ with now := 3600 } = some (h₂, restored, []) ∧
      (∀ key, textAt h₂.working.objects key = textAt retainedHandler.working.objects key) ∧
      h₂.working.suspended = retainedHandler.working.suspended ∧ h₂.rpslUpsertBuffer = [] := by
  obtain ⟨⟨h₁, suspended⟩, hsuspend⟩ : ∃ r, suspendForMntner localSettings "TEST" "A-MNT"
      (fun _ ↦ true) storedOrder retainedHandler = some r := ⟨_, rfl⟩
  obtain ⟨h₂, restored, hrun, hrest⟩ := reactivateForMntner_suspendForMntner
    (v := .loadFilters ⟨[], []⟩) ⟨id, List.Perm.refl⟩ 3600
    (rfl : retainedHandler.flushRpslObjectWritingBuffer localSettings = some retainedHandler)
    (by unfold ObjectTable.PksUnique; decide) (fun r hr ↦ absurd hr List.not_mem_nil)
    (fun _ ↦ ⟨rfl, fun _ _ n hn ↦ absurd hn List.not_mem_nil⟩)
    (fun r hr ↦ absurd hr List.not_mem_nil) (fun row hrow _ ↦ reparses_retainedRows row hrow)
    hsuspend
  exact ⟨h₁, suspended, h₂, restored, hsuspend, hrun, hrest⟩

end Examples

end RoundTrip

end Irrd.Updates
