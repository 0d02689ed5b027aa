import Irrd.Storage.BufferedWriting
import Irrd.Updates.SubmissionRounds

/-!
# Saved changes

What saving the valid requests of a submission leaves in the database: objects are written and
deleted one at a time, in the order in which they were submitted.
-/

namespace Irrd.Updates

open Irrd.Base Irrd.Conf Irrd.Rpsl Irrd.Storage Irrd.Utils

variable {c : SubmissionContext} {sender : RequestMeta}

/-- One of some changes writes an object with this key. -/
def Writes (done : List ChangeRequest) (key : ObjectKey) : Prop :=
  ∃ r ∈ done, r.requestType ≠ some .delete ∧ ∃ obj, r.rpslObjNew = some obj ∧ objectKey obj = key

/-- One of some changes deletes the object with this key. -/
def Deletes (done : List ChangeRequest) (key : ObjectKey) : Prop :=
  ∃ r ∈ done, r.requestType = some .delete ∧
    ∃ current, r.rpslObjCurrent = some current ∧ objectKey current = key

/-- The objects after some changes: those that were there before and are not deleted, and those that
a change writes. -/
structure ChangesStored (c : SubmissionContext) (initial t : ObjectTable)
    (done : List ChangeRequest) : Prop where
  columns : ∀ key columns, (t.find key).map RPSLDatabaseObject.toObjectColumns = some columns →
    ((initial.find key).map RPSLDatabaseObject.toObjectColumns = some columns ∧
        ¬ Deletes done key) ∨
      ∃ r ∈ done, r.requestType ≠ some .delete ∧ ∃ obj, r.rpslObjNew = some obj ∧
        objectKey obj = key ∧ columns.parsedData = (writtenObject c.render obj).parsedData
  present : ∀ key, ((initial.find key).isSome ∨ Writes done key) → ¬ Deletes done key →
    (t.find key).isSome

section Steps

variable {initial t : ObjectTable} {done : List ChangeRequest} {r : ChangeRequest} {key : ObjectKey}

theorem changesStored_nil (c : SubmissionContext) (t : ObjectTable) : ChangesStored c t t [] := by
  refine ⟨fun key columns h ↦ .inl ⟨h, fun ⟨_, hr, _⟩ ↦ nomatch hr⟩, fun key h _ ↦ ?_⟩
  rcases h with h | ⟨_, hr, _⟩
  · exact h
  · cases hr

theorem writes_append : Writes (done ++ [r]) key ↔ Writes done key ∨ Writes [r] key := by
  simp only [Writes, List.mem_append, or_and_right, exists_or]

theorem deletes_append : Deletes (done ++ [r]) key ↔ Deletes done key ∨ Deletes [r] key := by
  simp only [Deletes, List.mem_append, or_and_right, exists_or]

/-- A change that deletes an object removes its row. -/
theorem ChangesStored.remove (h : ChangesStored c initial t done) {current : ParsedObject}
    (htype : r.requestType = some .delete) (hcurrent : r.rpslObjCurrent = some current)
    {p : RPSLDatabaseObject → Bool}
    (hp : ∀ row ∈ t.rows, p row = true ↔ row.key ≠ objectKey current) :
    ChangesStored c initial (t.filter p) (done ++ [r]) := by
  have hdeletes (key : ObjectKey) : Deletes [r] key ↔ objectKey current = key := by
    simp [Deletes, htype, hcurrent]
  have hwrites (key : ObjectKey) : ¬ Writes [r] key := by
    simp [Writes, htype]
  have hfind (key : ObjectKey) (row : RPSLDatabaseObject) :
      (t.filter p).find key = some row ↔ t.find key = some row ∧ objectKey current ≠ key := by
    rw [KeyedTable.find_filter, Option.filter_eq_some_iff]
    refine and_congr_right (fun hrow ↦ ?_)
    rw [hp row (KeyedTable.find_mem hrow), KeyedTable.find_key hrow]
    exact ne_comm
  constructor
  · intro key columns hcolumns
    obtain ⟨row, hrow, rfl⟩ := Option.map_eq_some_iff.mp hcolumns
    obtain ⟨hrow, hne⟩ := (hfind key row).mp hrow
    rcases h.columns key _ (Option.map_eq_some_iff.mpr ⟨row, hrow, rfl⟩) with
      ⟨hinitial, hkept⟩ | ⟨r', hr', hwritten⟩
    · refine .inl ⟨hinitial, fun hdelete ↦ ?_⟩
      rcases deletes_append.mp hdelete with hdelete | hdelete
      · exact hkept hdelete
      · exact hne ((hdeletes key).mp hdelete)
    · exact .inr ⟨r', List.mem_append_left _ hr', hwritten⟩
  · intro key hpresent hkept
    rw [deletes_append, not_or] at hkept
    have hbefore : (initial.find key).isSome ∨ Writes done key := by
      refine hpresent.imp_right (fun hwrite ↦ ?_)
      rcases writes_append.mp hwrite with hwrite | hwrite
      · exact hwrite
      · exact (hwrites key hwrite).elim
    obtain ⟨row, hrow⟩ := Option.isSome_iff_exists.mp (h.present key hbefore hkept.1)
    exact Option.isSome_iff_exists.mpr
      ⟨row, (hfind key row).mpr ⟨hrow, fun heq ↦ hkept.2 ((hdeletes key).mpr heq)⟩⟩

/-- A change that writes an object inserts or replaces its row. -/
theorem ChangesStored.write (h : ChangesStored c initial t done) {obj : ParsedObject}
    (htype : r.requestType ≠ some .delete) (hobj : r.rpslObjNew = some obj)
    {row : RPSLDatabaseObject} (hkey : row.key = objectKey obj)
    (hdata : row.parsedData = (writtenObject c.render obj).parsedData) :
    ChangesStored c initial (DatabaseHandler.upsertRow t row) (done ++ [r]) := by
  have hdeletes (key : ObjectKey) : ¬ Deletes [r] key := by
    simp [Deletes, htype]
  have hwrites (key : ObjectKey) : Writes [r] key ↔ objectKey obj = key := by
    simp [Writes, htype, hobj]
  have hdeletes_iff (key : ObjectKey) : Deletes (done ++ [r]) key ↔ Deletes done key := by
    rw [deletes_append, or_iff_left (hdeletes key)]
  constructor
  · intro key columns hcolumns
    rw [find_upsertRow] at hcolumns
    split at hcolumns
    · next heq =>
      cases hcolumns
      exact .inr ⟨r, by simp, htype, obj, hobj, hkey.symm.trans heq, hdata⟩
    · rcases h.columns key columns hcolumns with ⟨hinitial, hkept⟩ | ⟨r', hr', hwritten⟩
      · exact .inl ⟨hinitial, fun hdelete ↦ hkept ((hdeletes_iff key).mp hdelete)⟩
      · exact .inr ⟨r', List.mem_append_left _ hr', hwritten⟩
  · intro key hpresent hkept
    have hfound : (((DatabaseHandler.upsertRow t row).find key).map
        RPSLDatabaseObject.toObjectColumns).isSome := by
      rw [find_upsertRow]
      split
      · rfl
      · next hne =>
        rw [Option.isSome_map]
        refine h.present key (hpresent.imp_right (fun hwrite ↦ ?_))
          (fun hdelete ↦ hkept ((hdeletes_iff key).mpr hdelete))
        rcases writes_append.mp hwrite with hwrite | hwrite
        · exact hwrite
        · exact absurd (hkey.trans ((hwrites key).mp hwrite)) hne
    rwa [Option.isSome_map] at hfound

/-- A change that finds the object as it is leaves it there. -/
theorem ChangesStored.identical (h : ChangesStored c initial t done) {obj : ParsedObject}
    (htype : r.requestType ≠ some .delete) (hobj : r.rpslObjNew = some obj)
    (hfound : (initial.find (objectKey obj)).isSome) : ChangesStored c initial t (done ++ [r]) := by
  have hdeletes (key : ObjectKey) : Deletes (done ++ [r]) key ↔ Deletes done key := by
    rw [deletes_append, or_iff_left]
    simp [Deletes, htype]
  constructor
  · intro key columns hcolumns
    rcases h.columns key columns hcolumns with ⟨hinitial, hkept⟩ | ⟨r', hr', hwritten⟩
    · exact .inl ⟨hinitial, fun hdelete ↦ hkept ((hdeletes key).mp hdelete)⟩
    · exact .inr ⟨r', List.mem_append_left _ hr', hwritten⟩
  · intro key hpresent hkept
    refine h.present key ?_ (fun hdelete ↦ hkept ((hdeletes key).mpr hdelete))
    rcases hpresent with hinitial | hwrite
    · exact .inl hinitial
    · rcases writes_append.mp hwrite with hwrite | ⟨r', hr', -, obj', hobj', rfl⟩
      · exact .inr hwrite
      · cases List.mem_singleton.mp hr'
        rw [hobj] at hobj'
        cases hobj'
        exact .inl hfound

end Steps

section Saving

variable {h₀ h h' : DatabaseHandler} {t : SequentialStore} {initial : ObjectTable}
  {done : List ChangeRequest} {r r' : ChangeRequest}

/-- A request that is saved keeps all but its status and messages. -/
def ChangeRequest.SavedAs (r r' : ChangeRequest) : Prop :=
  ∃ infoMessages, r' = { r with status := .saved, infoMessages }

/-- What is known of a change that is about to be saved: a deletion has an object to delete, and an
object that was found has the key of the new one. -/
structure ChangeRequest.Savable (initial : ObjectTable) (r : ChangeRequest) : Prop where
  deletes : r.requestType = some .delete → r.rpslObjCurrent ≠ none
  found : ∀ obj current, r.rpslObjNew = some obj → r.rpslObjCurrent = some current →
    (initial.find (objectKey obj)).isSome

/-- The key that deleting an object looks up. -/
theorem key_deleteArguments (render : RenderSettings) (obj : ParsedObject) :
    DatabaseHandler.DeleteArguments.key ⟨some (writtenObject render obj), none, none, none⟩ =
      some (objectKey obj) := rfl

/-- Saving a change has the effect that it has where nothing is buffered. -/
theorem ChangeRequest.save_spec {log : Option ChangeLog} (hview : BufferedView c.settings h₀ h t)
    (hstored : ChangesStored c initial t.objects done) (hsavable : r.Savable initial)
    (hsave : r.save c sender h = .ok (h', r', log)) :
    ∃ t', BufferedView c.settings h₀ h' t' ∧
      ChangesStored c initial t'.objects (done ++ [r]) := by
  unfold save at hsave
  split at hsave
  · next obj hstatus hobj =>
    dsimp only at hsave
    split at hsave
    · next current htype hcurrent =>
      split at hsave
      · cases hsave
      · next h₁ hdelete =>
        cases hsave
        have hcall : h.call c.settings 0 h.now (.deleteRpslObject .authChange
            ⟨some (writtenObject c.render current), none, none, none⟩ none true) = some h' :=
          hdelete
        refine ⟨_, hview.call hcall, ?_⟩
        refine hstored.remove htype hcurrent (fun row hrow ↦ ?_)
        rw [key_deleteArguments, Option.bind_some, decide_eq_true_eq, Option.mem_toList]
        refine not_congr ⟨KeyedTable.find_key, fun heq ↦ ?_⟩
        rw [← heq]
        exact (KeyedTable.mem_rows_iff _ row).mp hrow
    · next hother =>
      have htype : r.requestType ≠ some .delete := by
        intro heq
        cases hcurrent : r.rpslObjCurrent with
        | none => exact hsavable.deletes heq hcurrent
        | some current => exact hother current heq hcurrent
      split at hsave
      · next hidentical =>
        cases hsave
        refine ⟨t, hview, hstored.identical htype hobj ?_⟩
        obtain ⟨current, hcurrent, -⟩ := (Option.any_eq_true _ _).mp hidentical
        exact hsavable.found obj current hobj hcurrent
      · split at hsave
        · cases hsave
        · next h₁ hupsert =>
          cases hsave
          have hcall : h.call c.settings DatabaseHandler.maxRecordsBufferBeforeInsert h.now
              (.upsertRpslObject (writtenObject c.render obj) .authChange none none) = some h' :=
            hupsert
          exact ⟨_, hview.call hcall, hstored.write htype hobj rfl rfl⟩
  · cases hsave

/-- The changes that are valid. -/
def savedChanges (requests : List Request) : List ChangeRequest :=
  requests.filterMap (fun
    | .change r => if r.isValid then some r else none
    | .suspension _ => none)

theorem mem_savedChanges {requests : List Request} :
    r ∈ savedChanges requests ↔ Request.change r ∈ requests ∧ r.isValid = true := by
  unfold savedChanges
  rw [List.mem_filterMap]
  constructor
  · rintro ⟨request, hmem, hr⟩
    cases request with
    | change q =>
      dsimp only at hr
      split at hr
      · next hvalid =>
        cases hr
        exact ⟨hmem, hvalid⟩
      · cases hr
    | suspension q => cases hr
  · rintro ⟨hmem, hvalid⟩
    exact ⟨_, hmem, by simp [hvalid]⟩

/-- Without an override, saving writes and deletes the objects of the valid changes. -/
theorem saveAll_spec {v : AuthValidator} (hoverride : v.checkOverride c = .none)
    {requests requests' : List Request} {logs : List ChangeLog}
    (hview : BufferedView c.settings h₀ h t) (hstored : ChangesStored c initial t.objects done)
    (hsavable : ∀ r ∈ savedChanges requests, r.Savable initial)
    (hsave : Submission.saveAll c sender v h requests = .ok (h', requests', logs)) :
    ∃ t', BufferedView c.settings h₀ h' t' ∧
      ChangesStored c initial t'.objects (done ++ savedChanges requests) := by
  induction requests generalizing h t done requests' logs with
  | nil =>
    cases hsave
    exact ⟨t, hview, by simpa [savedChanges] using hstored⟩
  | cons r requests ih =>
    rw [Submission.saveAll] at hsave
    obtain ⟨⟨h₁, r₁, log⟩, hfirst, hsave⟩ := bind_eq_ok_iff.mp hsave
    obtain ⟨⟨h₂, rest, logs₂⟩, hrest, hsave⟩ := bind_eq_ok_iff.mp hsave
    cases hsave
    -- an invalid request changes nothing
    have hskipped (hinvalid : (r.checked c v).status.isValid = false)
        (hnone : savedChanges (r :: requests) = savedChanges requests) :
        ∃ t', BufferedView c.settings h₀ h' t' ∧
          ChangesStored c initial t'.objects (done ++ savedChanges (r :: requests)) := by
      unfold Request.saveIfValid at hfirst
      rw [if_neg (by simp [hinvalid])] at hfirst
      cases hfirst
      rw [hnone]
      exact ih hview hstored (hnone ▸ hsavable) hrest
    cases r with
    | suspension q =>
      refine hskipped ?_ rfl
      unfold Request.checked SuspensionRequest.validate
      simp only [if_pos hoverride]
      rfl
    | change q =>
      cases hvalid : q.isValid with
      | false => exact hskipped hvalid (by simp [savedChanges, hvalid])
      | true =>
        have hall : savedChanges (.change q :: requests) = q :: savedChanges requests := by
          simp [savedChanges, hvalid]
        rw [hall] at hsavable ⊢
        have hvalid' : (Request.change q).status.isValid = true := hvalid
        unfold Request.saveIfValid Request.checked at hfirst
        rw [if_pos hvalid'] at hfirst
        obtain ⟨⟨h₁', q', log'⟩, hq, heq⟩ := map_eq_ok_iff.mp hfirst
        cases heq
        obtain ⟨t', hview', hstored'⟩ := q.save_spec hview hstored
          (hsavable q List.mem_cons_self) hq
        obtain ⟨t'', hview'', hstored''⟩ := ih hview' hstored'
          (fun r hr ↦ hsavable r (List.mem_cons_of_mem _ hr)) hrest
        refine ⟨t'', hview'', ?_⟩
        rwa [List.append_assoc, List.singleton_append] at hstored''

end Saving

section Requests

variable {h h' : DatabaseHandler}

/-- What saving does to a request: an invalid one stays as it is, a valid change is saved, and a
valid suspension is saved or fails. -/
inductive Request.SavedAs : Request → Request → Prop
  | skipped (r : Request) (invalid : r.status.isValid = false) : SavedAs r r
  | change (r r' : ChangeRequest) (status : r.status = .processing) (saved : r.SavedAs r') :
      SavedAs (.change r) (.change r')
  | suspension (r r' : SuspensionRequest) (status : r.status = .processing)
      (saved : r'.status = .saved ∨ r'.status = .errorParsing) :
      SavedAs (.suspension r) (.suspension r')

/-- A change that is saved was being processed. -/
theorem ChangeRequest.savedAs_of_save {r r' : ChangeRequest} {log : Option ChangeLog}
    (hsave : r.save c sender h = .ok (h', r', log)) : r.status = .processing ∧ r.SavedAs r' := by
  unfold save at hsave
  split at hsave
  · next hstatus _ =>
    refine ⟨hstatus, ?_⟩
    dsimp only at hsave
    split at hsave
    · split at hsave
      · cases hsave
      · cases hsave
        exact ⟨_, rfl⟩
    · split at hsave
      · cases hsave
        exact ⟨_, rfl⟩
      · split at hsave
        · cases hsave
        · cases hsave
          exact ⟨_, rfl⟩
  · cases hsave

theorem SuspensionRequest.status_of_save {r r' : SuspensionRequest}
    (hsave : r.save c h = .ok (h', r')) :
    r.status = .processing ∧ (r'.status = .saved ∨ r'.status = .errorParsing) := by
  unfold save at hsave
  split at hsave
  · next hstatus _ =>
    refine ⟨hstatus, ?_⟩
    obtain ⟨⟨h₁, result⟩, -, hsave⟩ := bind_eq_ok_iff.mp hsave
    dsimp only at hsave
    split at hsave
    · cases hsave
      exact .inr rfl
    · cases hsave
      exact .inl rfl
  · cases hsave

theorem Request.savedAs_of_save {r r' : Request} {logs : List ChangeLog}
    (hsave : r.saveIfValid c sender h = .ok (h', r', logs)) : r.SavedAs r' := by
  unfold saveIfValid at hsave
  split at hsave
  · cases r with
    | change q =>
      obtain ⟨⟨h₁, q', log⟩, hq, heq⟩ := map_eq_ok_iff.mp hsave
      cases heq
      obtain ⟨hstatus, hsaved⟩ := ChangeRequest.savedAs_of_save hq
      exact .change q q' hstatus hsaved
    | suspension q =>
      obtain ⟨⟨h₁, q'⟩, hq, heq⟩ := map_eq_ok_iff.mp hsave
      cases heq
      obtain ⟨hstatus, hsaved⟩ := SuspensionRequest.status_of_save hq
      exact .suspension q q' hstatus hsaved
  · next hinvalid =>
    cases hsave
    exact .skipped r (by simpa using hinvalid)

/-- Each request of a submission is saved, fails, or is skipped. -/
theorem saveAll_requests {v : AuthValidator} {requests requests' : List Request}
    {logs : List ChangeLog}
    (hsave : Submission.saveAll c sender v h requests = .ok (h', requests', logs)) :
    List.Forall₂ (fun r r' ↦ (r.checked c v).SavedAs r') requests requests' := by
  induction requests generalizing h requests' logs with
  | nil =>
    cases hsave
    exact .nil
  | cons r requests ih =>
    rw [Submission.saveAll] at hsave
    obtain ⟨⟨h₁, r₁, log⟩, hfirst, hsave⟩ := bind_eq_ok_iff.mp hsave
    obtain ⟨⟨h₂, rest, logs₂⟩, hrest, hsave⟩ := bind_eq_ok_iff.mp hsave
    cases hsave
    exact .cons (Request.savedAs_of_save hfirst) (ih hrest)

end Requests

end Irrd.Updates
