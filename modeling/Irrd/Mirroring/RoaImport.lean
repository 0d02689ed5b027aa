import Irrd.Base.RelatedLists
import Irrd.Mirroring.StatusRunners
import Irrd.Rpki.Importer
import Irrd.Storage.BufferedWriting

/-!
# Runs of ROA imports

A ROA import replaces all ROAs and pseudo-IRR objects in one transaction. The ROAs are copied
without quoting, so what they say has to read as it is written. Source:
`irrd/mirroring/mirror_runners_import.py`.
-/

namespace Irrd.Mirroring

open Irrd.Base Irrd.Conf Irrd.Rpki Irrd.Rpsl Irrd.Scopefilter Irrd.Storage Irrd.Utils

section Runner

variable (s : Settings) (v : ScopeFilterValidator) (ipy : IPyFunctions)
  (pseudoIrrRemarks : Nat → String → String)

/-- `ROAImportRunner._import_roas`, `irrd/mirroring/mirror_runners_import.py:232–256`, of the
contents of its files. -/
def importRoas (roas : List RoaDict) (slurm : Option Slurm) (h : DatabaseHandler) :
    Option (DatabaseHandler × List ROA) := do
  let h ← h.deleteAllRoaObjects.deleteAllRpslObjectsWithJournal s rpkiIrrPseudoSource true
  roaDataImporter s v ipy pseudoIrrRemarks roas slurm h

/-- `ROAImportRunner.run` until its first commit, `irrd/mirroring/mirror_runners_import.py:195–201`.
Where the import fails, nothing is committed. -/
def roaImportRun (roas : List RoaDict) (slurm : Option Slurm) (h : DatabaseHandler) :
    Option DatabaseHandler := do
  let (h, _) ← importRoas s v ipy pseudoIrrRemarks roas slurm (connect h).disableJournaling
  h.commit s

end Runner

section Copies

variable {ipy : IPyFunctions} {input : ROAColumnInput} {rs : List ROA}

/-- The rows that copying ROAs gives. -/
def copiedRoas (input : ROAColumnInput) (roas : List ROAInsert) :
    Option (List ROADatabaseObject) :=
  readRows (writeRows (roas.map ROAInsert.columns)) >>= List.mapM input.row

/-- IPy prints prefixes without special characters, and PostgreSQL reads them and the numbers as
they are meant, as far as the integers of the maximum length go. -/
structure ReadsPrinted (ipy : IPyFunctions) (input : ROAColumnInput) (rs : List ROA) : Prop where
  plain : ∀ r ∈ rs, PlainField (ipy.str r.ipPrefix).toList
  read : ∀ r ∈ rs, input (some (toString r.ipPrefix.version).toList)
    (some (ipy.str r.ipPrefix).toList) (some (toString r.asn).toList)
      (some (toString r.maxLength).toList) =
    if r.maxLength < 2147483648 then some (r.ipPrefix.version, r.ipPrefix, r.asn, r.maxLength)
    else none

/-- A ROA that is copied as it is: its trust anchor is not empty and has no comma, quote, line end
or null character, and its maximum length is an integer of the database. -/
def CopiesAsItIs (r : ROA) : Prop :=
  PlainField r.trustAnchor.toList ∧ r.maxLength < 2147483648

instance (r : ROA) : Decidable (CopiesAsItIs r) := inferInstanceAs (Decidable (_ ∧ _))

theorem plainField_toString (n : Nat) : PlainField (toString n).toList := by
  constructor
  · exact toString_ne_nil n
  · intro c hc hspecial
    have hdigit := isDigit_of_mem_toString hc
    simp only [List.mem_cons, List.not_mem_nil, or_false] at hspecial
    rcases hspecial with rfl | rfl | rfl | rfl | rfl <;> exact absurd hdigit (by decide)

theorem count_quote {field : List Char} (hplain : PlainField field) : field.count '"' = 0 :=
  List.count_eq_zero.mpr (fun hmem ↦ hplain.2 _ hmem (by decide))

theorem plainField_columns (hread : ReadsPrinted ipy input rs) {r : ROA} (hr : r ∈ rs)
    (hplain : PlainField r.trustAnchor.toList) :
    ∀ field ∈ (r.insert ipy).columns, PlainField field := by
  simp only [ROAInsert.columns, ROA.insert, List.map_cons, List.map_nil, List.forall_mem_cons,
    List.not_mem_nil, false_implies, implies_true, and_true]
  exact ⟨plainField_toString _, hread.plain r hr, plainField_toString _, plainField_toString _,
    hplain⟩

/-- Only trust anchors bring quotes into the text. -/
theorem count_columns (hread : ReadsPrinted ipy input rs) :
    (writeRows ((rs.map (ROA.insert ipy)).map ROAInsert.columns)).count '"' =
      (rs.map (fun r ↦ r.trustAnchor.toList.count '"')).sum := by
  rw [count_writeRows, List.map_map]
  have hone (r : ROA) (hr : r ∈ rs) :
      (r.insert ipy).columns.flatten.count '"' = r.trustAnchor.toList.count '"' := by
    simp only [ROAInsert.columns, ROA.insert, List.map_cons, List.map_nil, List.flatten_cons,
      List.flatten_nil, List.count_append, List.count_nil, count_quote (plainField_toString _),
      count_quote (hread.plain r hr)]
    omega
  clear hread
  induction rs with
  | nil => rfl
  | cons r rs ih =>
    rw [List.map_cons, List.flatten_cons, List.flatten_append, List.count_append, List.map_cons,
      List.sum_cons, ih (fun r' hr' ↦ hone r' (List.mem_cons_of_mem _ hr'))]
    exact congrArg (· + _) (hone r List.mem_cons_self)

/-- The trust anchor of a row is the last value of its text. -/
theorem trustAnchor_mem {record : List (Option (List Char))} {r : ROA}
    (hrow : input.row record = some r.row) : some r.trustAnchor.toList ∈ record := by
  unfold ROAColumnInput.row at hrow
  split at hrow
  · next trustAnchor =>
    obtain ⟨_, -, heq⟩ := Option.map_eq_some_iff.mp hrow
    obtain ⟨text, rfl, htext⟩ :=
      Option.map_eq_some_iff.mp (congrArg ROADatabaseObject.trustAnchor heq)
    rw [← htext, String.toList_ofList]
    simp
  · cases hrow

/-- The rows that are read have the quotes of their trust anchors. -/
theorem count_trustAnchors {records : List (List (Option (List Char)))}
    (hrows : List.Forall₂ (fun record r ↦ input.row record = some (ROA.row r)) records rs) :
    (rs.map (fun r ↦ r.trustAnchor.toList.count '"')).sum ≤ (valueText records).count '"' := by
  unfold valueText
  induction hrows with
  | nil => exact Nat.le_refl 0
  | @cons record r records rs hrow _ ih =>
    rw [List.map_cons, List.sum_cons, List.flatten_cons, List.filterMap_append, List.flatten_append,
      List.count_append]
    refine Nat.add_le_add ?_ ih
    have hmem : r.trustAnchor.toList ∈ record.filterMap id :=
      List.mem_filterMap.mpr ⟨_, trustAnchor_mem hrow, rfl⟩
    exact (List.sublist_flatten_of_mem hmem).count_le _

/-- ROAs are copied as they are if and only if each of them can be. -/
theorem copiedRoas_iff (hread : ReadsPrinted ipy input rs) :
    copiedRoas input (rs.map (ROA.insert ipy)) = some (rs.map ROA.row) ↔
      ∀ r ∈ rs, CopiesAsItIs r := by
  have hrow (r : ROA) (hr : r ∈ rs) : input.row ((r.insert ipy).columns.map some) =
      if r.maxLength < 2147483648 then some r.row else none := by
    have hvalues := hread.read r hr
    simp only [ROAInsert.columns, ROA.insert, ROAColumnInput.row, List.map_cons, List.map_nil,
      hvalues]
    split <;> simp [ROA.row]
  have hplainRows (hplain : ∀ r ∈ rs, PlainField r.trustAnchor.toList) :
      readRows (writeRows ((rs.map (ROA.insert ipy)).map ROAInsert.columns)) =
        some (rs.map (fun r ↦ (r.insert ipy).columns.map some)) := by
    rw [readRows_writeRows]
    · rw [List.map_map, List.map_map]
      rfl
    · simp only [List.map_map, List.mem_map, Function.comp_apply, forall_exists_index, and_imp,
        forall_apply_eq_imp_iff₂]
      exact fun r _ ↦ List.cons_ne_nil _ _
    · simp only [List.map_map, List.mem_map, Function.comp_apply, forall_exists_index, and_imp,
        forall_apply_eq_imp_iff₂]
      exact fun r hr ↦ plainField_columns hread hr (hplain r hr)
  constructor
  · intro hcopied
    obtain ⟨records, hrecords, hmap⟩ := Option.bind_eq_some_iff.mp hcopied
    have hrows := List.forall₂_map_right_iff.mp (mapM_eq_some_iff.mp hmap)
    have hcount := count_trustAnchors hrows
    rw [← count_columns hread] at hcount
    have hplain (r : ROA) (hr : r ∈ rs) : PlainField r.trustAnchor.toList := by
      obtain ⟨record, hmem, hrecord⟩ := exists_of_forall₂ hrows hr
      exact plainField_of_readRows hrecords hcount record hmem _ (trustAnchor_mem hrecord)
    rw [hplainRows hplain] at hrecords
    cases hrecords
    intro r hr
    refine ⟨hplain r hr, ?_⟩
    have hsame := List.forall₂_same.mp (List.forall₂_map_left_iff.mp hrows) r hr
    rw [hrow r hr] at hsame
    by_contra hlarge
    rw [if_neg hlarge] at hsame
    cases hsame
  · intro hall
    unfold copiedRoas
    rw [hplainRows (fun r hr ↦ (hall r hr).1), Option.bind_eq_bind, Option.bind_some,
      mapM_eq_some_iff, List.forall₂_map_left_iff, List.forall₂_map_right_iff, List.forall₂_same]
    intro r hr
    rw [hrow r hr, if_pos (hall r hr).2]

/-- A flush of scheduled ROAs into an empty table leaves the rows that they are copied to. -/
theorem flushRoas_iff {h : DatabaseHandler} (hempty : h.working.roas.rows = []) :
    (∀ h', h.flushRoaWritingBuffer = some h' →
        copiedRoas h.roaColumnInput h.roaInsertBuffer = some h'.working.roas.rows) ∧
      ∀ rows, copiedRoas h.roaColumnInput h.roaInsertBuffer = some rows →
        (rows.filterMap ROADatabaseObject.key).Nodup → ∃ h', h.flushRoaWritingBuffer = some h' := by
  unfold DatabaseHandler.flushRoaWritingBuffer copiedRoas
  split
  · next hbuffer =>
    refine ⟨fun h' hflush ↦ ?_, fun rows _ _ ↦ ⟨h, rfl⟩⟩
    cases hflush
    rw [hbuffer, hempty]
    rfl
  · constructor
    · intro h' hflush
      obtain ⟨roaRows, hroaRows, hflush⟩ := Option.bind_eq_some_iff.mp hflush
      obtain ⟨rows, hrows, hflush⟩ := Option.bind_eq_some_iff.mp hflush
      obtain ⟨roas, hroas, hflush⟩ := Option.bind_eq_some_iff.mp hflush
      cases hflush
      rw [hroaRows, Option.bind_eq_bind, Option.bind_some, hrows]
      rw [ROATable.foldlM_append_rows hroas, hempty, List.nil_append]
    · intro rows hrows hnodup
      obtain ⟨roaRows, hroaRows, hrows⟩ := Option.bind_eq_some_iff.mp hrows
      obtain ⟨roas, hroas⟩ := (ROATable.foldlM_append_iff rows h.working.roas).mpr
        (by rwa [hempty, List.nil_append])
      simp only [hroaRows, hrows, hroas, Option.bind_eq_bind, Option.bind_some]
      exact ⟨_, rfl⟩

end Copies

section Inserts

variable {s : Settings} {h h' : DatabaseHandler}

/-- Without journaling, recording upserts only changes the status tracker. -/
theorem recordUpserts_unjournaled (hjournaling : h.journalingEnabled = false)
    (bs : List BufferedUpsert) :
    ∃ tracker, bs.foldlM (DatabaseHandler.recordUpsert s) h =
      some { h with statusTracker := tracker } := by
  induction bs generalizing h with
  | nil => exact ⟨h.statusTracker, rfl⟩
  | cons b bs ih =>
    have hrecord : ∃ tracker, h.recordUpsert s b = some { h with statusTracker := tracker } := by
      unfold DatabaseHandler.recordUpsert
      dsimp only
      split
      · exact ⟨_, recordOperation_unjournaled hjournaling _⟩
      · exact ⟨h.statusTracker, rfl⟩
    obtain ⟨tracker, hrecord⟩ := hrecord
    obtain ⟨tracker', hrest⟩ := ih (h := { h with statusTracker := tracker }) hjournaling
    refine ⟨tracker', ?_⟩
    rw [List.foldlM_cons, hrecord]
    exact hrest

/-- A transaction that only inserts: what its table has or will have, and its ROAs. -/
structure Inserting (input : ROAColumnInput) (now : Nat) (objects : List ObjectColumns)
    (roas : List ROAInsert) (h : DatabaseHandler) : Prop where
  columns : h.working.objects.rows.map RPSLDatabaseObject.toObjectColumns ++
    h.rpslUpsertBuffer.map BufferedUpsert.columns = objects
  created : ∀ b ∈ h.rpslUpsertBuffer, b.created = none
  guaranteed : h.rpslGuaranteedNoExisting = true
  journaling : h.journalingEnabled = false
  now : h.now = now
  roaRows : h.working.roas.rows = []
  roaBuffer : h.roaInsertBuffer = roas
  changed : h.changedObjectsTracker.filterPrefixes = []
  input : h.roaColumnInput = input

variable {input : ROAColumnInput} {now : Nat} {objects : List ObjectColumns} {roas : List ROAInsert}

/-- The statement that writes the buffer inserts its rows. -/
theorem Inserting.writeObjects_eq (hins : Inserting input now objects roas h) :
    ∃ rows : List RPSLDatabaseObject, rows.map RPSLDatabaseObject.toObjectColumns =
        h.rpslUpsertBuffer.map BufferedUpsert.columns ∧
      h.writeObjects = (rows.foldlM KeyedTable.append h.working.objects).map (fun objects ↦
        { h with
          working := { h.working with objects }
          nextPk := h.nextPk + h.rpslUpsertBuffer.length }) := by
  have hforced : (h.rpslUpsertBuffer.head?.bind BufferedUpsert.created).isSome = false := by
    cases hbuffer : h.rpslUpsertBuffer with
    | nil => rfl
    | cons b bs =>
      have hb := hins.created b (hbuffer ▸ List.mem_cons_self)
      rw [List.head?_cons, Option.bind_some, hb]
      rfl
  refine ⟨h.rpslUpsertBuffer.mapIdx (fun i b ↦
    h.proposedRow { b with created := none } (h.nextPk + i)), ?_, ?_⟩
  · apply List.ext_getElem?
    intro i
    simp only [List.getElem?_map, List.getElem?_mapIdx, Option.map_map]
    rfl
  · unfold DatabaseHandler.writeObjects
    simp only [hforced, Bool.false_eq_true, false_and, if_false, hins.guaranteed, if_true]

/-- A flush writes all pending rows, where no key is taken. -/
theorem Inserting.flush_iff (hins : Inserting input now objects roas h) :
    (∀ h', h.flushRpslObjectWritingBuffer s = some h' →
        Inserting input now objects roas h' ∧ h'.rpslUpsertBuffer = []) ∧
      ((∃ h', h.flushRpslObjectWritingBuffer s = some h') ↔
        (objects.map ObjectColumns.key).Nodup) := by
  unfold DatabaseHandler.flushRpslObjectWritingBuffer
  by_cases hbuffer : h.rpslUpsertBuffer = []
  · rw [if_pos hbuffer]
    have hobjects := hins.columns
    rw [hbuffer, List.map_nil, List.append_nil] at hobjects
    refine ⟨fun h' hh' ↦ ?_, iff_of_true ⟨h, rfl⟩ ?_⟩
    · cases hh'
      exact ⟨hins, hbuffer⟩
    · rw [← hobjects, List.map_map]
      exact h.working.objects.nodup
  · rw [if_neg hbuffer]
    obtain ⟨rows, hrows, hwrite⟩ := hins.writeObjects_eq
    have hkeys : (h.working.objects.rows ++ rows).map RPSLDatabaseObject.key =
        objects.map ObjectColumns.key := by
      rw [← hins.columns, ← hrows, ← List.map_append, List.map_map]
      rfl
    rw [hwrite]
    cases happend : rows.foldlM KeyedTable.append h.working.objects with
    | none =>
      refine ⟨fun h' hh' ↦ (by cases hh'), iff_of_false (fun ⟨h', hh'⟩ ↦ by cases hh') ?_⟩
      intro hnodup
      obtain ⟨t', ht'⟩ := (KeyedTable.foldlM_append_iff rows h.working.objects).mpr
        (hkeys ▸ hnodup)
      rw [happend] at ht'
      cases ht'
    | some t' =>
      have hall : t'.rows = h.working.objects.rows ++ rows := KeyedTable.foldlM_append_rows happend
      obtain ⟨tracker, hrecord⟩ := recordUpserts_unjournaled (s := s) (h := { h with
        working := { h.working with objects := t' }
        nextPk := h.nextPk + h.rpslUpsertBuffer.length }) hins.journaling h.rpslUpsertBuffer
      simp only [Option.map_some, Option.bind_eq_bind, Option.bind_some, hrecord]
      refine ⟨fun h' hh' ↦ ?_, iff_of_true ⟨_, rfl⟩ ?_⟩
      · cases hh'
        refine ⟨⟨?_, by simp, hins.guaranteed, hins.journaling, hins.now, hins.roaRows,
          hins.roaBuffer, hins.changed, hins.input⟩, rfl⟩
        rw [← hins.columns, ← hrows, ← List.map_append, ← hall]
        exact List.append_nil _
      · rw [← hkeys, ← hall]
        exact t'.nodup

/-- A flush that depends on a condition. -/
theorem Inserting.flush_if (hins : Inserting input now objects roas h) (condition : Prop)
    [Decidable condition] :
    (∀ h', (if condition then h.flushRpslObjectWritingBuffer s else some h) = some h' →
        Inserting input now objects roas h') ∧
      ((objects.map ObjectColumns.key).Nodup →
        ∃ h', (if condition then h.flushRpslObjectWritingBuffer s else some h) = some h') := by
  obtain ⟨hflushed, hiff⟩ := hins.flush_iff (s := s)
  split
  · exact ⟨fun h' hh' ↦ (hflushed h' hh').1, hiff.mpr⟩
  · refine ⟨fun h' hh' ↦ ?_, fun _ ↦ ⟨h, rfl⟩⟩
    cases hh'
    exact hins

/-- A pseudo-IRR object in the buffer. Its prefix does not lead to an evaluation. -/
theorem Inserting.bufferUpsert (hins : Inserting input now objects roas h) {h₀ : DatabaseHandler}
    (hnow : h₀.now = now) {o : RPSLObject} (hsource : o.source = rpkiIrrPseudoSource) :
    Inserting input now (objects ++ [h₀.objectColumns o]) roas
      (h.bufferUpsert o .pseudoIrr none none) := by
  have hcolumns : h.objectColumns o = h₀.objectColumns o := by
    unfold DatabaseHandler.objectColumns
    rw [hins.now, hnow]
  refine ⟨?_, ?_, hins.guaranteed, hins.journaling, hins.now, hins.roaRows, hins.roaBuffer, ?_,
    hins.input⟩
  · rw [← hins.columns, List.append_assoc, ← hcolumns]
    exact congrArg _ (List.map_append ..)
  · intro b hb
    rcases List.mem_append.mp hb with hb | hb
    · exact hins.created b hb
    · exact List.mem_singleton.mp hb ▸ rfl
  · unfold DatabaseHandler.bufferUpsert DatabaseHandler.objectModified
    unfold SessionChangedObjectsTracker.filterPrefixes
    dsimp only
    cases o.ipPrefix with
    | none => exact hins.changed
    | some ip =>
      rw [Option.map_some]
      dsimp only
      rw [if_neg (fun hmodified ↦ hmodified.2.2 hsource)]
      exact hins.changed

/-- An insertion of a pseudo-IRR object, which may write what is pending. -/
theorem Inserting.upsert (hins : Inserting input now objects roas h) {h₀ : DatabaseHandler}
    (hnow : h₀.now = now) {o : RPSLObject} (hsource : o.source = rpkiIrrPseudoSource) :
    (∀ h', h.upsertRpslObject s o .pseudoIrr true none none = some h' →
        Inserting input now (objects ++ [h₀.objectColumns o]) roas h') ∧
      (((objects ++ [h₀.objectColumns o]).map ObjectColumns.key).Nodup →
        ∃ h', h.upsertRpslObject s o .pseudoIrr true none none = some h') := by
  have hstart : Inserting input now objects roas { h with
      rpslGuaranteedNoExisting := h.rpslGuaranteedNoExisting && true } :=
    ⟨hins.columns, hins.created, (Bool.and_true _).trans hins.guaranteed, hins.journaling,
      hins.now, hins.roaRows, hins.roaBuffer, hins.changed, hins.input⟩
  unfold DatabaseHandler.upsertRpslObject DatabaseHandler.flushIfSeen DatabaseHandler.flushIfFull
  constructor
  · intro h' hsave
    obtain ⟨h₁, hseen, hfull⟩ := Option.bind_eq_some_iff.mp hsave
    exact ((((hstart.flush_if _).1 h₁ hseen).bufferUpsert hnow hsource).flush_if _).1 h' hfull
  · intro hnodup
    have hbefore : (objects.map ObjectColumns.key).Nodup :=
      ((List.sublist_append_left _ _).map _).nodup hnodup
    obtain ⟨h₁, hseen⟩ := (hstart.flush_if (s := s)
      (DatabaseHandler.rpslPkSource o ∈ h.rpslPkSourceSeen)).2 hbefore
    have hadded := ((hstart.flush_if _).1 h₁ hseen).bufferUpsert hnow hsource
    obtain ⟨h₂, hfull⟩ := (hadded.flush_if (s := s) (DatabaseHandler.maxRecordsBufferBeforeInsert <
      (h₁.bufferUpsert o .pseudoIrr none none).rpslUpsertBuffer.length)).2 hnodup
    exact ⟨h₂, Option.bind_eq_some_iff.mpr ⟨h₁, hseen, hfull⟩⟩

/-- Saving ROAs. -/
theorem Inserting.save (hins : Inserting input now objects roas h) {h₀ : DatabaseHandler}
    (hnow : h₀.now = now) (v : ScopeFilterValidator) (ipy : IPyFunctions)
    (pseudoIrrRemarks : Nat → String → String) (rs : List ROA) :
    let objects' := objects ++
      rs.map (ROA.columns s v ipy pseudoIrrRemarks h₀)
    (∀ h', rs.foldlM (ROA.save s v ipy pseudoIrrRemarks) h = some h' →
        Inserting input now objects' (roas ++ rs.map (ROA.insert ipy)) h') ∧
      ((objects'.map ObjectColumns.key).Nodup →
        ∃ h', rs.foldlM (ROA.save s v ipy pseudoIrrRemarks) h = some h') := by
  induction rs generalizing h objects roas with
  | nil =>
    refine ⟨fun h' hrun ↦ ?_, fun _ ↦ ⟨h, rfl⟩⟩
    cases hrun
    simpa using hins
  | cons r rs ih =>
    have hroa : Inserting input now objects (roas ++ [r.insert ipy])
        (h.insertRoaObject (r.insert ipy)) :=
      ⟨hins.columns, hins.created, hins.guaranteed, hins.journaling, hins.now, hins.roaRows,
        congrArg (· ++ [r.insert ipy]) hins.roaBuffer, hins.changed, hins.input⟩
    obtain ⟨hsaved, hsave⟩ := hroa.upsert (s := s) (o := r.rpslObject s v ipy pseudoIrrRemarks)
      hnow rfl
    rw [List.foldlM_cons, List.map_cons, List.map_cons, List.append_cons objects,
      List.append_cons roas]
    constructor
    · intro h' hrun
      obtain ⟨h₁, hfirst, hrest⟩ := Option.bind_eq_some_iff.mp hrun
      exact (ih (hsaved h₁ hfirst)).1 h' hrest
    · intro hnodup
      obtain ⟨h₁, hfirst⟩ := hsave (((List.sublist_append_left _ _).map _).nodup hnodup)
      obtain ⟨h', hrest⟩ := (ih (hsaved h₁ hfirst)).2 hnodup
      exact ⟨h', Option.bind_eq_some_iff.mpr ⟨h₁, hfirst, hrest⟩⟩

/-- Finalising leaves the ROAs alone. -/
theorem roas_finaliseTransaction (h : DatabaseHandler) :
    (h.finaliseTransaction s).working.roas = h.working.roas := by
  have hseen (sources : List String) (h : DatabaseHandler) :
      (sources.foldl (DatabaseHandler.seeStatusRow s) h).working.roas = h.working.roas := by
    induction sources generalizing h with
    | nil => rfl
    | cons source sources ih => exact ih (h.seeStatusRow s source)
  exact hseen h.statusTracker.sourcesSeen h

/-- What a commit leaves of a transaction that only inserted. -/
theorem Inserting.commit (hins : Inserting input now objects roas h) :
    (∀ h', h.commit s = some h' →
        h'.committed.objects.rows.map RPSLDatabaseObject.toObjectColumns = objects ∧
          copiedRoas input roas = some h'.committed.roas.rows) ∧
      ((objects.map ObjectColumns.key).Nodup → ∀ rows, copiedRoas input roas = some rows →
        (rows.filterMap ROADatabaseObject.key).Nodup → ∃ h', h.commit s = some h') := by
  obtain ⟨hflushed, hflush⟩ := hins.flush_iff (s := s)
  have hpre (h₂ : DatabaseHandler) (hchanged : h₂.changedObjectsTracker.filterPrefixes = []) :
      h₂.preCommit s = some h₂ := if_pos hchanged
  have hnone (h₁ h₂ : DatabaseHandler) (hins₁ : Inserting input now objects roas h₁)
      (hroas : h₁.flushRoaWritingBuffer = some h₂) :
      let h₃ := h₂.finaliseTransaction s
      (if h₃.journalingEnabled then h₃ else { h₃ with committed := h₃.working }).preCommit s =
        some (if h₃.journalingEnabled then h₃ else { h₃ with committed := h₃.working }) := by
    intro h₃
    apply hpre
    obtain ⟨table, rfl⟩ := DatabaseHandler.flushRoaWritingBuffer_eq_some hroas
    have hchanged : h₃.changedObjectsTracker.filterPrefixes = [] :=
      (congrArg _ (finaliseTransaction_spec (s := s) _).1.changed).trans hins₁.changed
    split <;> exact hchanged
  unfold DatabaseHandler.commit
  constructor
  · intro h' hcommit
    obtain ⟨h₁, hfirst, hcommit⟩ := Option.bind_eq_some_iff.mp hcommit
    obtain ⟨h₂, hroas, hcommit⟩ := Option.bind_eq_some_iff.mp hcommit
    obtain ⟨hins₁, hempty⟩ := hflushed h₁ hfirst
    dsimp only at hcommit
    rw [hnone h₁ h₂ hins₁ hroas] at hcommit
    cases hcommit
    have hcopied := (flushRoas_iff hins₁.roaRows).1 h₂ hroas
    rw [hins₁.input, hins₁.roaBuffer] at hcopied
    have hobjects := (finaliseTransaction_spec (s := s) h₂).1.objects
    have hcolumns := hins₁.columns
    rw [hempty, List.map_nil, List.append_nil] at hcolumns
    have hflushedObjects : h₂.working.objects = h₁.working.objects := by
      obtain ⟨table, rfl⟩ := DatabaseHandler.flushRoaWritingBuffer_eq_some hroas
      rfl
    rw [← hcolumns, hcopied, ← hflushedObjects]
    constructor
    · split <;> exact congrArg (fun t : ObjectTable ↦
        t.rows.map RPSLDatabaseObject.toObjectColumns) hobjects
    · have hrows := congrArg ROATable.rows (roas_finaliseTransaction (s := s) h₂)
      split <;> exact congrArg some hrows.symm
  · intro hobjects rows hcopied hroas
    obtain ⟨h₁, hfirst⟩ := hflush.mpr hobjects
    obtain ⟨hins₁, -⟩ := hflushed h₁ hfirst
    obtain ⟨h₂, hsecond⟩ := (flushRoas_iff hins₁.roaRows).2 rows
      (by rwa [hins₁.input, hins₁.roaBuffer]) hroas
    rw [hfirst]
    simp only [Option.bind_eq_bind, Option.bind_some, hsecond]
    rw [hnone h₁ h₂ hins₁ hsecond]
    exact ⟨_, rfl⟩

end Inserts

section Collisions

variable {s : Settings} {v : ScopeFilterValidator} {ipy : IPyFunctions}
  {pseudoIrrRemarks : Nat → String → String} {rs : List ROA} {h h' : DatabaseHandler}

/-- What an import keeps. -/
def keptObjects (db : Database) : List ObjectColumns :=
  (db.objects.rows.filter (fun row ↦ row.source ≠ rpkiIrrPseudoSource)).map
    RPSLDatabaseObject.toObjectColumns

/-- The keys after an import differ where the pseudo-IRR objects differ. -/
theorem nodup_imported_iff (s : Settings) (v : ScopeFilterValidator) (ipy : IPyFunctions)
    (pseudoIrrRemarks : Nat → String → String) (db : Database) (h : DatabaseHandler)
    (rs : List ROA) :
    ((keptObjects db ++ rs.map (ROA.columns s v ipy pseudoIrrRemarks h)).map
      ObjectColumns.key).Nodup ↔ (rs.map (ROA.objectKey ipy)).Nodup := by
  have hkept : ((keptObjects db).map ObjectColumns.key).Nodup := by
    unfold keptObjects
    rw [List.map_map]
    exact (List.filter_sublist.map _).nodup db.objects.nodup
  have hkeys : (rs.map (ROA.columns s v ipy pseudoIrrRemarks h)).map ObjectColumns.key =
      rs.map (ROA.objectKey ipy) := by
    rw [List.map_map]
    rfl
  rw [List.map_append, hkeys, List.nodup_append]
  refine ⟨fun hnodup ↦ hnodup.2.1, fun hnodup ↦ ⟨hkept, hnodup, ?_⟩⟩
  intro key hkey key' hkey' hsame
  subst hsame
  obtain ⟨columns, hcolumns, rfl⟩ := List.mem_map.mp hkey
  obtain ⟨row, hrow, rfl⟩ := List.mem_map.mp hcolumns
  obtain ⟨r, -, hr⟩ := List.mem_map.mp hkey'
  exact of_decide_eq_true (List.mem_filter.mp hrow).2 (congrArg ObjectKey.source hr).symm

/-- An import starts without ROAs and pseudo-IRR objects. -/
theorem inserting_start (h : DatabaseHandler) : ∃ h₀,
    (connect h).disableJournaling.deleteAllRoaObjects.deleteAllRpslObjectsWithJournal s
      rpkiIrrPseudoSource true = some h₀ ∧
    Inserting h.roaColumnInput h.now (keptObjects h.committed) [] h₀ := by
  refine ⟨_, rfl, ⟨?_, fun b hb ↦ absurd hb List.not_mem_nil, rfl, rfl, rfl, rfl, rfl, rfl, rfl⟩⟩
  rw [← List.append_nil (keptObjects h.committed)]
  refine congrArg (· ++ []) (congrArg _ (List.filter_congr (fun row _ ↦ ?_)))
  simp

/-- For every ROA file and SLURM file whose records pass the checks: the pseudo-IRR objects have
different keys exactly where no two ROAs agree on prefix, AS number and maximum length. The import
replaces all ROAs and pseudo-IRR objects exactly where also every ROA is copied as it is. An import
that succeeds replaces all pseudo-IRR objects. -/
theorem roaImportRun_iff {roas : List RoaDict} {slurm : Option Slurm}
    (hrs : importedRoas ipy roas slurm = some rs) (hprints : PrintsPrefixes ipy rs)
    (hread : ReadsPrinted ipy h.roaColumnInput rs) :
    ((rs.map (ROA.objectKey ipy)).Nodup ↔ (rs.map ROA.payload).Nodup) ∧
    ((∃ h', roaImportRun s v ipy pseudoIrrRemarks roas slurm h = some h' ∧
        h'.committed.roas.rows = rs.map ROA.row ∧
        h'.committed.objects.rows.map RPSLDatabaseObject.toObjectColumns =
          keptObjects h.committed ++ rs.map (ROA.columns s v ipy pseudoIrrRemarks h)) ↔
      (rs.map ROA.payload).Nodup ∧ ∀ r ∈ rs, CopiesAsItIs r) ∧
    ∀ h', roaImportRun s v ipy pseudoIrrRemarks roas slurm h = some h' →
      h'.committed.objects.rows.map RPSLDatabaseObject.toObjectColumns =
        keptObjects h.committed ++ rs.map (ROA.columns s v ipy pseudoIrrRemarks h) := by
  obtain ⟨h₀, hstart, hins⟩ := inserting_start (s := s) h
  have hrun : roaImportRun s v ipy pseudoIrrRemarks roas slurm h =
      (rs.foldlM (ROA.save s v ipy pseudoIrrRemarks) h₀).bind (fun h ↦ h.commit s) := by
    unfold roaImportRun importRoas
    rw [hstart]
    simp only [Option.bind_eq_bind, Option.bind_some, roaDataImporter_eq hrs]
    cases rs.foldlM (ROA.save s v ipy pseudoIrrRemarks) h₀ <;> rfl
  have hsaves := hins.save (s := s) (rfl : h.now = h.now) v ipy pseudoIrrRemarks rs
  have hkeys := nodup_imported_iff s v ipy pseudoIrrRemarks h.committed h rs
  have hpayload := nodup_objectKey_iff hprints
  have hcopied := copiedRoas_iff hread
  have hresult (h' : DatabaseHandler)
      (hh' : roaImportRun s v ipy pseudoIrrRemarks roas slurm h = some h') :
      h'.committed.objects.rows.map RPSLDatabaseObject.toObjectColumns =
          keptObjects h.committed ++ rs.map (ROA.columns s v ipy pseudoIrrRemarks h) ∧
        copiedRoas h.roaColumnInput (rs.map (ROA.insert ipy)) = some h'.committed.roas.rows := by
    rw [hrun] at hh'
    obtain ⟨h₁, hsave, hcommit⟩ := Option.bind_eq_some_iff.mp hh'
    exact (hsaves.1 h₁ hsave).commit.1 h' hcommit
  refine ⟨hpayload, ⟨?_, ?_⟩, fun h' hh' ↦ (hresult h' hh').1⟩
  · rintro ⟨h', hh', hroas, hobjects⟩
    refine ⟨hpayload.mp (hkeys.mp ?_), hcopied.mp ?_⟩
    · rw [← hobjects, List.map_map]
      exact h'.committed.objects.nodup
    · rw [(hresult h' hh').2, hroas]
  · rintro ⟨hnodup, hcopies⟩
    have hall := hkeys.mpr (hpayload.mpr hnodup)
    obtain ⟨h₁, hsave⟩ := hsaves.2 hall
    have hrows : ((rs.map ROA.row).filterMap ROADatabaseObject.key).Nodup := by
      have hsome : (rs.map ROA.row).filterMap ROADatabaseObject.key =
          rs.map (fun r ↦ (r.ipPrefix, r.asn, r.maxLength, r.trustAnchor)) := by
        rw [List.filterMap_map, ← List.filterMap_eq_map]
        rfl
      rw [hsome]
      refine List.Nodup.of_map (fun key : IP × Nat × Nat × String ↦
        (key.1, key.2.1, key.2.2.1)) ?_
      rw [List.map_map]
      exact hnodup
    obtain ⟨h', hcommit⟩ := (hsaves.1 h₁ hsave).commit.2 hall _ (hcopied.mpr hcopies) hrows
    have hh' : roaImportRun s v ipy pseudoIrrRemarks roas slurm h = some h' := by
      rw [hrun]
      exact Option.bind_eq_some_iff.mpr ⟨h₁, hsave, hcommit⟩
    obtain ⟨hobjects, hstored⟩ := hresult h' hh'
    refine ⟨h', hh', ?_, hobjects⟩
    exact Option.some_inj.mp (hstored.symm.trans (hcopied.mpr hcopies))

end Collisions

section Examples

/-- What IPy does with one prefix. -/
def onePrefix : IPyFunctions where
  parse text := if text = "192.0.2.0/24" then some ⟨4, 0xC0000200, 24⟩ else none
  str ip := if ip = ⟨4, 0xC0000200, 24⟩ then "192.0.2.0/24" else ""
  inSet ip others := others.any (fun other ↦ other.contains ip)

/-- What PostgreSQL does with this prefix, and with numbers. -/
def onePrefixInput : ROAColumnInput := fun ipVersion prefixStr asn maxLength ↦ do
  let ip ← onePrefix.parse (String.ofList (← prefixStr))
  let maxLength ← digitsValue 0 false (← maxLength)
  if maxLength < 2147483648 then
    return (← digitsValue 0 false (← ipVersion), ip, ← digitsValue 0 false (← asn), maxLength)
  else none

/-- A record for this prefix. -/
def onePrefixRoa (maxLength : Int) (ta : String) : RoaDict :=
  ⟨some (.text "AS65530"), some "192.0.2.0/24", some (.number maxLength), some ta⟩

/-- A database without rows that reads this prefix. -/
def onePrefixHandler : DatabaseHandler := { newHandler with roaColumnInput := onePrefixInput }

/-- Two ROAs with different maximum lengths are imported. -/
theorem roaImportRun_twoLengths : ∃ h', roaImportRun localSettings (.loadFilters ⟨[], []⟩) onePrefix
    (fun _ _ ↦ "") [onePrefixRoa 24 "TA1", onePrefixRoa 25 "TA1"] none onePrefixHandler = some h' ∧
      h'.committed.roas.rows = [⟨⟨4, 0xC0000200, 24⟩, 65530, 24, some "TA1", 4⟩,
        ⟨⟨4, 0xC0000200, 24⟩, 65530, 25, some "TA1", 4⟩] := by
  have hrs : importedRoas onePrefix [onePrefixRoa 24 "TA1", onePrefixRoa 25 "TA1"] none =
      some [⟨⟨4, 0xC0000200, 24⟩, 65530, 24, "TA1"⟩, ⟨⟨4, 0xC0000200, 24⟩, 65530, 25, "TA1"⟩] := by
    decide +kernel
  obtain ⟨h', hrun, hroas, -⟩ := (roaImportRun_iff (h := onePrefixHandler) hrs
    ⟨by decide, by decide⟩ ⟨by decide +kernel, by decide +kernel⟩).2.1.mpr ⟨by decide, by decide⟩
  exact ⟨h', hrun, hroas⟩

/-- ROAs of two trust anchors that say the same get one key, and nothing is committed. -/
theorem roaImportRun_twoTrustAnchors :
    (importedRoas onePrefix [onePrefixRoa 24 "TA1", onePrefixRoa 24 "TA2"] none).map (fun rs ↦
        rs.map (fun r ↦ (r.objectKey onePrefix, r.trustAnchor))) =
      some [(⟨"192.0.2.0/24AS65530/ML24", "RPKI", "route"⟩, "TA1"),
        (⟨"192.0.2.0/24AS65530/ML24", "RPKI", "route"⟩, "TA2")] ∧
    (roaImportRun localSettings (.loadFilters ⟨[], []⟩) onePrefix (fun _ _ ↦ "")
      [onePrefixRoa 24 "TA1", onePrefixRoa 24 "TA2"] none onePrefixHandler).isNone = true := by
  constructor <;> decide +kernel

end Examples

end Irrd.Mirroring
