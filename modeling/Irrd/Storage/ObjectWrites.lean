import Irrd.Storage.HandlerRun

/-!
# Writing pending upserts

What the statement that writes the upsert buffer does to the object rows, and that row keys
stay unique.
-/

namespace Irrd.Storage

open Irrd.Base Irrd.Conf

/-- Row keys are unique. -/
def ObjectTable.PksUnique (t : ObjectTable) : Prop := (t.rows.map RPSLDatabaseObject.pk).Nodup

section Rows

variable {t t' : ObjectTable} {rows : List RPSLDatabaseObject}

/-- A row is the only one with its row key. -/
theorem ObjectTable.PksUnique.eq_of_pk (hunique : t.PksUnique) {row row' : RPSLDatabaseObject}
    (hrow : row ∈ t.rows) (hrow' : row' ∈ t.rows) (hpk : row.pk = row'.pk) : row = row' :=
  List.inj_on_of_nodup_map hunique hrow hrow' hpk

/-- Removing rows keeps row keys unique. -/
theorem ObjectTable.PksUnique.filter (hunique : t.PksUnique) (p : RPSLDatabaseObject → Bool) :
    ObjectTable.PksUnique (t.filter p) :=
  (List.filter_sublist.map RPSLDatabaseObject.pk).nodup hunique

/-- Changing rows but not their row keys keeps these unique. -/
theorem ObjectTable.PksUnique.map (hunique : t.PksUnique)
    (f : RPSLDatabaseObject → RPSLDatabaseObject) (hf : ∀ row, (f row).key = row.key)
    (hpk : ∀ row, (f row).pk = row.pk) :
    ObjectTable.PksUnique (KeyedTable.map t f hf) := by
  have hsame : (t.rows.map f).map RPSLDatabaseObject.pk = t.rows.map RPSLDatabaseObject.pk := by
    rw [List.map_map]
    exact List.map_congr_left (fun row _ ↦ hpk row)
  unfold ObjectTable.PksUnique KeyedTable.map
  rw [hsame]
  exact hunique

/-- What writing rows with new row keys does. -/
structure RowsWritten (t t' : ObjectTable) (rows : List RPSLDatabaseObject) : Prop where
  nodup : (rows.map RPSLDatabaseObject.key).Nodup
  columns : ∀ key, (t'.find key).map RPSLDatabaseObject.toObjectColumns =
    ((rows.find? (fun row ↦ row.key = key)).map RPSLDatabaseObject.toObjectColumns).or
      ((t.find key).map RPSLDatabaseObject.toObjectColumns)
  pks : (t.rows ++ rows).map RPSLDatabaseObject.pk |>.Nodup →
    t'.PksUnique ∧ ∀ row ∈ t'.rows, ∃ row' ∈ t.rows ++ rows, row'.pk = row.pk

/-- What is found after a row is inserted or replaced, apart from its row key. -/
theorem map_find_upsertRow {A : Type} (f : RPSLDatabaseObject → A)
    (hf : ∀ (row : RPSLDatabaseObject) (pk : Nat), f { row with pk } = f row) (t : ObjectTable)
    (row : RPSLDatabaseObject) (key : ObjectKey) :
    ((DatabaseHandler.upsertRow t row).find key).map f =
      if row.key = key then some (f row) else (t.find key).map f := by
  have hfind := KeyedTable.find_upsert t row (fun old ↦ { row with pk := old.pk })
    (fun _ hkey ↦ hkey.symm) key
  refine (congrArg (Option.map f) hfind).trans ?_
  split
  · cases t.find key with
    | none => rfl
    | some old => exact congrArg some (hf row old.pk)
  · rfl

/-- The columns found after a row is inserted or replaced. -/
theorem find_upsertRow (t : ObjectTable) (row : RPSLDatabaseObject) (key : ObjectKey) :
    ((DatabaseHandler.upsertRow t row).find key).map RPSLDatabaseObject.toObjectColumns =
      if row.key = key then some row.toObjectColumns
      else (t.find key).map RPSLDatabaseObject.toObjectColumns :=
  map_find_upsertRow _ (fun _ _ ↦ rfl) t row key

/-- No other row has the key of the first. -/
theorem find?_eq_none_of_nodup {row : RPSLDatabaseObject}
    (hnodup : ((row :: rows).map RPSLDatabaseObject.key).Nodup) :
    rows.find? (fun r ↦ r.key = row.key) = none := by
  rw [List.find?_eq_none]
  intro other hother he
  exact (List.nodup_cons.mp hnodup).1 (List.mem_map.mpr ⟨other, hother, of_decide_eq_true he⟩)

/-- What is found after rows with different keys are inserted or replaced. -/
theorem map_find_foldl_upsertRow {A : Type} (f : RPSLDatabaseObject → A)
    (hf : ∀ (row : RPSLDatabaseObject) (pk : Nat), f { row with pk } = f row)
    (hnodup : (rows.map RPSLDatabaseObject.key).Nodup) (t : ObjectTable) (key : ObjectKey) :
    ((rows.foldl DatabaseHandler.upsertRow t).find key).map f =
      ((rows.find? (fun row ↦ row.key = key)).map f).or ((t.find key).map f) := by
  induction rows generalizing t with
  | nil => rfl
  | cons row rows ih =>
    rw [List.foldl_cons, ih (List.nodup_cons.mp hnodup).2, map_find_upsertRow f hf]
    by_cases hkey : row.key = key
    · subst hkey
      rw [find?_eq_none_of_nodup hnodup, if_pos rfl, List.find?_cons_of_pos (by simp)]
      rfl
    · rw [if_neg hkey, List.find?_cons_of_neg (by simpa using hkey)]

/-- What is found after rows with new keys are inserted. -/
theorem find_foldlM_append (happend : rows.foldlM KeyedTable.append t = some t')
    (key : ObjectKey) :
    t'.find key = (rows.find? (fun row ↦ row.key = key)).or (t.find key) := by
  induction rows generalizing t with
  | nil =>
    cases happend
    rfl
  | cons row rows ih =>
    obtain ⟨u, hu, hrest⟩ := Option.bind_eq_some_iff.mp happend
    rw [ih hrest, KeyedTable.find_append hu]
    by_cases hkey : row.key = key
    · subst hkey
      have hkeys := t'.nodup
      rw [KeyedTable.foldlM_append_rows happend, List.map_append, List.nodup_append] at hkeys
      rw [find?_eq_none_of_nodup hkeys.2.1, if_pos rfl, List.find?_cons_of_pos (by simp)]
      rfl
    · rw [if_neg hkey, List.find?_cons_of_neg (by simpa using hkey)]

/-- Inserting rows whose keys are all new. -/
theorem rowsWritten_append (happend : rows.foldlM KeyedTable.append t = some t') :
    RowsWritten t t' rows ∧ t'.rows = t.rows ++ rows := by
  have hall := KeyedTable.foldlM_append_rows happend
  have hkeys := t'.nodup
  rw [hall, List.map_append, List.nodup_append] at hkeys
  refine ⟨⟨hkeys.2.1, fun key ↦ ?_, fun hunique ↦ ?_⟩, hall⟩
  · rw [find_foldlM_append happend, Option.map_or]
  · rw [← hall] at hunique
    exact ⟨hunique, fun r hr ↦ ⟨r, hall ▸ hr, rfl⟩⟩

/-- Inserting or replacing rows. -/
theorem rowsWritten_upsert (hnodup : (rows.map RPSLDatabaseObject.key).Nodup) :
    RowsWritten t (rows.foldl DatabaseHandler.upsertRow t) rows := by
  refine ⟨hnodup, map_find_foldl_upsertRow _ (fun _ _ ↦ rfl) hnodup t, ?_⟩
  clear hnodup
  induction rows generalizing t with
  | nil =>
    intro hpks
    rw [List.append_nil] at hpks
    exact ⟨hpks, fun row hrow ↦ ⟨row, by simpa using hrow, rfl⟩⟩
  | cons row rows ih =>
    intro hunique
    rw [List.map_append, List.map_cons] at hunique
    have hmem (r : RPSLDatabaseObject)
        (hr : r ∈ (DatabaseHandler.upsertRow t row).rows) :
        ∃ row' ∈ t.rows ++ [row], row'.pk = r.pk := by
      unfold DatabaseHandler.upsertRow KeyedTable.upsert at hr
      split at hr
      · next u hu =>
        rw [(KeyedTable.append_eq_some hu).2] at hr
        exact ⟨r, hr, rfl⟩
      · obtain ⟨old, hold, rfl⟩ := List.mem_map.mp hr
        refine ⟨old, List.mem_append_left _ hold, ?_⟩
        split <;> rfl
    have hstep : ((DatabaseHandler.upsertRow t row).rows ++ rows).map
        RPSLDatabaseObject.pk |>.Nodup := by
      have hsub : ((DatabaseHandler.upsertRow t row).rows.map RPSLDatabaseObject.pk).Sublist
          (t.rows.map RPSLDatabaseObject.pk ++ [row.pk]) := by
        unfold DatabaseHandler.upsertRow KeyedTable.upsert
        split
        · next u hu => simp [(KeyedTable.append_eq_some hu).2]
        · have hsame : (t.rows.map (fun old ↦ if old.key = row.key then
              ({ row with pk := old.pk } : RPSLDatabaseObject) else old)).map
              RPSLDatabaseObject.pk = t.rows.map RPSLDatabaseObject.pk := by
            rw [List.map_map]
            refine List.map_congr_left (fun old _ ↦ ?_)
            simp only [Function.comp_apply]
            split <;> rfl
          unfold KeyedTable.map
          rw [hsame]
          exact List.sublist_append_left _ _
      have hsplit : t.rows.map RPSLDatabaseObject.pk ++ row.pk :: rows.map RPSLDatabaseObject.pk =
          (t.rows.map RPSLDatabaseObject.pk ++ [row.pk]) ++ rows.map RPSLDatabaseObject.pk := by
        simp
      rw [hsplit] at hunique
      rw [List.map_append]
      exact (hsub.append_right _).nodup hunique
    obtain ⟨hunique', hall⟩ := ih (t := DatabaseHandler.upsertRow t row) hstep
    refine ⟨hunique', fun r hr ↦ ?_⟩
    obtain ⟨row', hrow', hpk⟩ := hall r hr
    rcases List.mem_append.mp hrow' with hrow' | hrow'
    · obtain ⟨row'', hrow'', hpk'⟩ := hmem row' hrow'
      refine ⟨row'', ?_, hpk'.trans hpk⟩
      rcases List.mem_append.mp hrow'' with hrow'' | hrow''
      · exact List.mem_append_left _ hrow''
      · exact List.mem_append_right _ (List.mem_singleton.mp hrow'' ▸ List.mem_cons_self)
    · exact ⟨row', List.mem_append_right _ (List.mem_cons_of_mem _ hrow'), hpk⟩

end Rows

/-- What writing the buffer does to the objects. -/
structure BufferWritten (h h' : DatabaseHandler) : Prop where
  nodup : (h.rpslUpsertBuffer.map (fun b ↦ b.columns.key)).Nodup
  columns : ∀ key, (h'.working.objects.find key).map RPSLDatabaseObject.toObjectColumns =
    ((h.rpslUpsertBuffer.find? (fun b ↦ b.columns.key = key)).map BufferedUpsert.columns).or
      ((h.working.objects.find key).map RPSLDatabaseObject.toObjectColumns)
  pks : h.working.objects.PksUnique → (∀ row ∈ h.working.objects.rows, row.pk < h.nextPk) →
    h'.working.objects.PksUnique ∧ ∀ row ∈ h'.working.objects.rows, row.pk < h'.nextPk
  nextPk : h.nextPk ≤ h'.nextPk
  buffer : h'.rpslUpsertBuffer = h.rpslUpsertBuffer

/-- Writing the buffer replaces or inserts a row for each pending upsert. -/
theorem writeObjects_eq_some {h h' : DatabaseHandler} (hwrite : h.writeObjects = some h') :
    BufferWritten h h' := by
  simp only [DatabaseHandler.writeObjects] at hwrite
  split at hwrite
  · cases hwrite
  · generalize hforced : (h.rpslUpsertBuffer.head?.bind BufferedUpsert.created).isSome = forced
      at hwrite
    generalize hrows : h.rpslUpsertBuffer.mapIdx (fun i b ↦
      h.proposedRow (if forced then b else { b with created := none }) (h.nextPk + i)) = rows
      at hwrite
    have hcolumns : rows.map RPSLDatabaseObject.toObjectColumns =
        h.rpslUpsertBuffer.map BufferedUpsert.columns := by
      subst hrows
      refine List.ext_getElem (by simp) (fun i hi hi' ↦ ?_)
      simp only [List.getElem_map, List.getElem_mapIdx, DatabaseHandler.proposedRow]
      split <;> rfl
    have hpks : rows.map RPSLDatabaseObject.pk =
        List.range' h.nextPk h.rpslUpsertBuffer.length := by
      subst hrows
      refine List.ext_getElem (by simp) (fun i hi hi' ↦ ?_)
      simp [DatabaseHandler.proposedRow]
    have hspec {objects : ObjectTable} (hwritten : RowsWritten h.working.objects objects rows) :
        BufferWritten h { h with
          nextPk := h.nextPk + h.rpslUpsertBuffer.length
          working := { h.working with objects } } := by
      have hkeys : rows.map RPSLDatabaseObject.key =
          h.rpslUpsertBuffer.map (fun b ↦ b.columns.key) := by
        have hmap := congrArg (List.map ObjectColumns.key) hcolumns
        rwa [List.map_map, List.map_map] at hmap
      refine ⟨hkeys ▸ hwritten.nodup, fun key ↦ ?_, fun hunique hfresh ↦ ?_, Nat.le_add_right _ _,
        rfl⟩
      · have hfind : (rows.find? (fun row ↦ row.key = key)).map
            RPSLDatabaseObject.toObjectColumns =
              (h.rpslUpsertBuffer.find? (fun b ↦ b.columns.key = key)).map
                BufferedUpsert.columns := by
          have hfound : (rows.map RPSLDatabaseObject.toObjectColumns).find?
              (fun c ↦ c.key = key) = (h.rpslUpsertBuffer.map BufferedUpsert.columns).find?
                (fun c ↦ c.key = key) := by rw [hcolumns]
          rw [List.find?_map, List.find?_map] at hfound
          exact hfound
        rw [← hfind]
        exact hwritten.columns key
      · have hrange (row : RPSLDatabaseObject) (hrow : row ∈ rows) :
            h.nextPk ≤ row.pk ∧ row.pk < h.nextPk + h.rpslUpsertBuffer.length := by
          have hmem : row.pk ∈ rows.map RPSLDatabaseObject.pk := List.mem_map_of_mem hrow
          rw [hpks] at hmem
          exact List.mem_range'_1.mp hmem
        have hnodup : ((h.working.objects.rows ++ rows).map RPSLDatabaseObject.pk).Nodup := by
          rw [List.map_append, List.nodup_append]
          refine ⟨hunique, hpks ▸ List.nodup_range', fun pk hpk pk' hpk' he ↦ ?_⟩
          obtain ⟨row, hrow, rfl⟩ := List.mem_map.mp hpk
          obtain ⟨row', hrow', rfl⟩ := List.mem_map.mp hpk'
          have hold := hfresh row hrow
          have hnew := (hrange row' hrow').1
          omega
        obtain ⟨hunique', hall⟩ := hwritten.pks hnodup
        refine ⟨hunique', fun row hrow ↦ ?_⟩
        obtain ⟨row', hrow', hpk⟩ := hall row hrow
        rw [← hpk]
        rcases List.mem_append.mp hrow' with hrow' | hrow'
        · exact Nat.lt_add_right _ (hfresh row' hrow')
        · exact (hrange row' hrow').2
    split at hwrite
    · obtain ⟨objects, happend, rfl⟩ := Option.map_eq_some_iff.mp hwrite
      exact hspec (rowsWritten_append happend).1
    · split at hwrite
      · next hnodup =>
        cases hwrite
        have hkeys : rows.map RPSLDatabaseObject.key =
            h.rpslUpsertBuffer.map (fun b ↦ b.columns.key) := by
          have hmap := congrArg (List.map ObjectColumns.key) hcolumns
          rwa [List.map_map, List.map_map] at hmap
        exact hspec (rowsWritten_upsert (hkeys ▸ hnodup))
      · cases hwrite

end Irrd.Storage
