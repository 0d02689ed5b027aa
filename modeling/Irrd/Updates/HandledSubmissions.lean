import Irrd.Updates.SavedChanges

/-!
# Handled submissions

From the texts that are submitted to the database after the commit. Every way to submit requests
starts from requests that were compared with the database and an authentication validator without a
cache. What is saved has passed the last round, whose validators knew of exactly the saved requests.
Source: `irrd/updates/handler.py`.
-/

namespace Irrd.Updates

open Irrd.Base Irrd.Conf Irrd.Rpsl Irrd.Storage Irrd.Utils

section Loading

/-- A call of the handler. -/
inductive SubmissionCall
  | textBlob (objectTextsBlob : String) (origin : AuthoritativeChangeOrigin)
      (pgpFingerprint : Option String) (internalAuthenticatedUser : Option AuthUser)
  | change (data : RPSLChangeSubmission) (origin : AuthoritativeChangeOrigin) (delete : Bool)
      (remoteIp : Option IP)
  | suspension (data : RPSLSuspensionSubmission)

namespace SubmissionCall

variable (c : SubmissionContext) (sender : RequestMeta) (h : DatabaseHandler)

/-- The requests of a call, and the validator with its credentials. -/
def parse (rows : List RPSLDatabaseObject) :
    SubmissionCall → Except SubmissionException (List Request × AuthValidator)
  | textBlob objectTextsBlob origin pgpFingerprint internalAuthenticatedUser => do
    let keycertObjPk ← signingKey c rows pgpFingerprint
    parseChangeRequests c rows objectTextsBlob.toList
      (.new origin keycertObjPk internalAuthenticatedUser none)
  | change data origin delete remoteIp => do
    let requests ← data.objects.mapM (fun obj ↦
      (ChangeRequest.new c rows obj.text (if delete then some data.deleteReason else none)).map
        Request.change)
    return (requests, { AuthValidator.new origin none none remoteIp with
      passwords := data.passwords.map String.toList
      overrides := overridesOf data.override
      apiKeys := data.apiKeys })
  | suspension data => do
    let requests ← data.objects.mapM (fun obj ↦
      (SuspensionRequest.new c s!"mntner: {obj.mntner}\nsource: {obj.source}\n".toList
        obj.requestType.value).map Request.suspension)
    return (requests, { AuthValidator.new .other none none none with
      overrides := overridesOf data.override })

/-- What a call does. -/
def load : SubmissionCall → Except SubmissionException SubmissionResult
  | textBlob objectTextsBlob origin pgpFingerprint internalAuthenticatedUser =>
    loadTextBlob c sender h objectTextsBlob origin pgpFingerprint internalAuthenticatedUser
  | change data origin delete remoteIp =>
    loadChangeSubmission c sender h data origin delete remoteIp
  | suspension data => loadSuspensionSubmission c sender h data

end SubmissionCall

variable {c : SubmissionContext} {sender : RequestMeta} {h : DatabaseHandler}

/-- Every call handles the requests that it parses, in a new transaction. -/
theorem load_eq (call : SubmissionCall) : call.load c sender h = (do
    let (requests, auth) ← call.parse c (DatabaseHandler.opened h.committed h).working.objects.rows
    handleChangeRequests c sender (DatabaseHandler.opened h.committed h)
      (.start requests auth)) := by
  cases call with
  | textBlob objectTextsBlob origin pgpFingerprint internalAuthenticatedUser =>
    simp only [SubmissionCall.load, loadTextBlob, SubmissionCall.parse, bind_assoc]
  | change data origin delete remoteIp =>
    simp only [SubmissionCall.load, loadChangeSubmission, SubmissionCall.parse, bind_assoc,
      pure_bind]
  | suspension data =>
    simp only [SubmissionCall.load, loadSuspensionSubmission, SubmissionCall.parse, bind_assoc,
      pure_bind]

/-- Requests that were read and compared with a database, and a validator that has looked nothing
up. -/
structure IsFresh (c : SubmissionContext) (rows : List RPSLDatabaseObject) (requests : List Request)
    (auth : AuthValidator) : Prop where
  requests : ∀ r ∈ requests, r.IsNew c rows
  cache : auth.mntnerDbCache = []

/-- The requests of a call are fresh. -/
theorem SubmissionCall.isFresh {call : SubmissionCall} {rows : List RPSLDatabaseObject}
    {requests : List Request} {auth : AuthValidator}
    (h : call.parse c rows = .ok (requests, auth)) :
    IsFresh c rows requests auth := by
  have hchange {text : List Char} {deleteReason : Option String} {r : Request}
      (hr : (ChangeRequest.new c rows text deleteReason).map Request.change = .ok r) :
      r.IsNew c rows := by
    obtain ⟨q, hq, rfl⟩ := map_eq_ok_iff.mp hr
    exact .change text deleteReason q hq
  have hsuspension {text : List Char} {state : String} {r : Request}
      (hr : (SuspensionRequest.new c text state).map Request.suspension = .ok r) :
      r.IsNew c rows := by
    obtain ⟨q, hq, rfl⟩ := map_eq_ok_iff.mp hr
    exact .suspension text state q hq
  cases call with
  | textBlob objectTextsBlob origin pgpFingerprint internalAuthenticatedUser =>
    obtain ⟨keycertObjPk, -, h⟩ := bind_eq_ok_iff.mp h
    obtain ⟨parsed, hparsed, h⟩ := bind_eq_ok_iff.mp h
    cases h
    refine ⟨fun r hr ↦ ?_, rfl⟩
    obtain ⟨text, -, htext⟩ := exists_of_mem_mapM hparsed hr
    unfold Request.ofText at htext
    split at htext
    · split at htext
      · exact hsuspension htext
      · exact hchange htext
    · exact hchange htext
  | change data origin delete remoteIp =>
    obtain ⟨parsed, hparsed, h⟩ := bind_eq_ok_iff.mp h
    cases h
    refine ⟨fun r hr ↦ ?_, rfl⟩
    obtain ⟨obj, -, hobj⟩ := exists_of_mem_mapM hparsed hr
    exact hchange hobj
  | suspension data =>
    obtain ⟨parsed, hparsed, h⟩ := bind_eq_ok_iff.mp h
    cases h
    refine ⟨fun r hr ↦ ?_, rfl⟩
    obtain ⟨obj, -, hobj⟩ := exists_of_mem_mapM hparsed hr
    exact hsuspension hobj

end Loading

section Handling

variable {c : SubmissionContext} {sender : RequestMeta} {h : DatabaseHandler}
  {requests : List Request} {auth : AuthValidator} {result : SubmissionResult}

/-- A submission that was handled: the requests and validators at the end of its rounds, those of
its last round, and the handler before the commit. -/
structure Handled (c : SubmissionContext) (sender : RequestMeta) (h : DatabaseHandler)
    (requests : List Request) (auth : AuthValidator) (result : SubmissionResult)
    (final : Submission) (v : Validators) (saved : DatabaseHandler) : Prop where
  continues : List.Forall₂ Request.Continues requests final.requests
  sound : final.Sound c h.working.objects.rows auth
  last : LastRound c h.working auth v final
  saveAll : Submission.saveAll c sender final.validators.auth h final.requests =
    .ok (saved, result.requests, result.changeLogs)
  commit : saved.commit c.settings = some result.handler

/-- A submission that is handled has a last round, after at most one more than it has requests. -/
theorem handleChangeRequests_spec (hfresh : IsFresh c h.working.objects.rows requests auth)
    (hresult : handleChangeRequests c sender h (.start requests auth) = .ok result) :
    ∃ final n v saved, (Submission.start requests auth).resolve c h.working = .ok (final, n) ∧
      n ≤ requests.length + 1 ∧ Handled c sender h requests auth result final v saved := by
  obtain ⟨⟨final, n⟩, hresolve, hresult⟩ := bind_eq_ok_iff.mp hresult
  obtain ⟨⟨saved, requests', logs⟩, hsave, hresult⟩ := bind_eq_ok_iff.mp hresult
  dsimp only at hresult
  split at hresult
  · cases hresult
  · next h' hcommit =>
    cases hresult
    obtain ⟨hcount, -, hcontinues, hsound, v, hlast⟩ :=
      resolve_lastRound hfresh.requests hfresh.cache hresolve
    exact ⟨final, n, v, saved, hresolve, hcount, hcontinues, hsound, hlast, hsave, hcommit⟩

/-- The key of the new object of a saved change of some types. -/
def Request.savedKey (types : List UpdateRequestType) (r : Request) : Option ObjectKey :=
  if r.status = .saved ∧ r.changeType ∈ types.map some then r.rpslObjNew.map objectKey else none

/-- The name of the maintainer that a saved change creates. -/
def Request.savedMntner (r : Request) : Option String :=
  if r.status = .saved ∧ r.changeType = some .create then
    (r.rpslObjNew.filter ParsedObject.isMntner).map (fun obj ↦ display obj.pk)
  else none

/-- The validators know of exactly what is saved. -/
structure KnowsSaved (v : Validators) (requests : List Request) : Prop where
  preloadedNew : v.reference.preloadedNew = requests.filterMap (Request.savedKey [.create, .modify])
  preloadedDeleted : v.reference.preloadedDeleted = requests.filterMap (Request.savedKey [.delete])
  preApproved : v.auth.preApproved = requests.filterMap Request.savedMntner

/-- What a valid change gives, its saved request gives, and no other request gives anything. -/
theorem filterMap_of_saveAll {A : Type} {a : AuthValidator} {requests requests' : List Request}
    {f g : Request → Option A}
    (hsave : List.Forall₂ (fun r r' ↦ (r.checked c a).SavedAs r') requests requests')
    (hf : ∀ r, r.status.isValid = false → f r = none) (hg : ∀ r, r.status ≠ .saved → g r = none)
    (hsuspension : ∀ q, f (.suspension q) = none ∧ g (.suspension q) = none)
    (hchange : ∀ q q' : ChangeRequest, q.status = .processing → q.SavedAs q' →
      f (.change q) = g (.change q')) : requests.filterMap f = requests'.filterMap g := by
  refine filterMap_eq_of_forall₂ (hsave.imp (fun r r' hr ↦ ?_))
  cases r with
  | suspension q =>
    rw [(hsuspension q).1]
    change Request.SavedAs (.suspension (q.validate c a)) r' at hr
    cases hr with
    | skipped _ hinvalid => exact (hsuspension _).2.symm
    | suspension _ q' _ _ => exact (hsuspension q').2.symm
  | change q =>
    change Request.SavedAs (.change q) r' at hr
    cases hr with
    | skipped _ hinvalid =>
      rw [hf _ hinvalid, hg]
      intro hsaved
      rw [hsaved] at hinvalid
      cases hinvalid
    | change _ q' hstatus hsaved => exact hchange q q' hstatus hsaved

theorem Handled.knowsSaved {final : Submission} {v : Validators} {saved : DatabaseHandler}
    (hhandled : Handled c sender h requests auth result final v saved) :
    KnowsSaved v result.requests := by
  have hsave := saveAll_requests hhandled.saveAll
  have hkeys (types : List UpdateRequestType) : final.keysOf types =
      result.requests.filterMap (Request.savedKey types) := by
    refine filterMap_of_saveAll hsave (fun r hr ↦ by simp [Request.keyOf, hr])
      (fun r hr ↦ by simp [Request.savedKey, hr]) (fun q ↦ ?_) (fun q q' hstatus hsaved ↦ ?_)
    · simp [Request.keyOf, Request.savedKey, Request.changeType]
    · obtain ⟨infoMessages, rfl⟩ := hsaved
      simp [Request.keyOf, Request.savedKey, Request.status, Request.changeType,
        Request.rpslObjNew, hstatus, UpdateRequestStatus.isValid]
  have hmntners : final.createdMntners = result.requests.filterMap Request.savedMntner := by
    refine filterMap_of_saveAll hsave (fun r hr ↦ by simp [Request.createdMntner, hr])
      (fun r hr ↦ by simp [Request.savedMntner, hr]) (fun q ↦ ?_) (fun q q' hstatus hsaved ↦ ?_)
    · simp [Request.createdMntner, Request.savedMntner, Request.changeType]
    · obtain ⟨infoMessages, rfl⟩ := hsaved
      simp [Request.createdMntner, Request.savedMntner, Request.status, Request.changeType,
        Request.rpslObjNew, hstatus, UpdateRequestStatus.isValid]
  have hpreloaded := hhandled.last.preloaded
  exact ⟨hpreloaded.preloadedNew.trans (hkeys _), hpreloaded.preloadedDeleted.trans (hkeys _),
    hpreloaded.preApproved.trans hmntners⟩

/-- What a saved request has passed in a last round with some validators at its start. Validators
that take steps keep what they were preloaded with. -/
inductive PassedLastRound (c : SubmissionContext) (db : Database) (auth : AuthValidator)
    (v : Validators) : Request → Prop
  | change (r q q' : ChangeRequest) (v₀ v₁ : Validators) (hv₀ : v.Step c db.objects.rows v₀)
      (hvalidate : r.validate c db v₀ = .ok (v₁, q)) (hvalid : q.isValid = true)
      (hsaved : q.SavedAs q') : PassedLastRound c db auth v (.change q')
  | suspension (r : SuspensionRequest) (hoverride : auth.checkOverride c ≠ .none) :
      PassedLastRound c db auth v (.suspension r)

/-- A saved change comes from a valid one at the end of the rounds. -/
theorem Handled.exists_of_saved {final : Submission} {v : Validators} {saved : DatabaseHandler}
    (hhandled : Handled c sender h requests auth result final v saved) {q' : ChangeRequest}
    (hmem : Request.change q' ∈ result.requests) (hstatus : q'.status = .saved) :
    ∃ q, Request.change q ∈ final.requests ∧ q.isValid = true ∧ q.SavedAs q' := by
  obtain ⟨r, hr, hsaved⟩ := exists_of_forall₂ (saveAll_requests hhandled.saveAll) hmem
  cases r with
  | suspension q => cases hsaved
  | change q =>
    change Request.SavedAs (.change q) (.change q') at hsaved
    cases hsaved with
    | skipped _ hinvalid =>
      change q'.status.isValid = false at hinvalid
      rw [hstatus] at hinvalid
      cases hinvalid
    | change _ _ hprocessing hsaved =>
      refine ⟨q, hr, ?_, hsaved⟩
      unfold ChangeRequest.isValid
      rw [hprocessing]
      rfl

theorem Handled.passedLastRound {final : Submission} {v : Validators} {saved : DatabaseHandler}
    (hhandled : Handled c sender h requests auth result final v saved) {r' : Request}
    (hr' : r' ∈ result.requests) (hstatus : r'.status = .saved) :
    PassedLastRound c h.working auth v r' := by
  cases r' with
  | change q' =>
    obtain ⟨q, hq, hvalid, hsaved⟩ := hhandled.exists_of_saved hr' hstatus
    obtain ⟨r, -, -, -, v₀, v₁, hv₀, hvalidate, -, -⟩ := hhandled.last.change q hq hvalid
    exact .change r q q' v₀ v₁ hv₀ hvalidate hvalid hsaved
  | suspension q' =>
    obtain ⟨r, hr, hsaved⟩ := exists_of_forall₂ (saveAll_requests hhandled.saveAll) hr'
    refine .suspension q' ?_
    cases r with
    | change q => cases hsaved
    | suspension q =>
      have hchecked : (Request.suspension q).checked c final.validators.auth =
          .suspension (q.validate c final.validators.auth) := rfl
      rw [hchecked] at hsaved
      have hvalid : (q.validate c final.validators.auth).status.isValid = true := by
        generalize q.validate c final.validators.auth = q₁ at hsaved
        cases hsaved with
        | skipped _ hinvalid =>
          rw [hstatus] at hinvalid
          cases hinvalid
        | suspension _ _ hprocessing _ =>
          rw [hprocessing]
          rfl
      rw [SuspensionRequest.validate_of_isValid hvalid] at hvalid
      exact hhandled.last.suspension q hr hvalid

/-- The rounds of a submission. In each of them, requests only become invalid. There is at most one
round more than there are requests, so neither the limit on their number nor its error makes a
difference. What is saved has passed the last one, whose validators know of exactly what is saved.
-/
theorem submission_rounds (hfresh : IsFresh c h.working.objects.rows requests auth) :
    (∀ s s' : Submission, s.round c h.working = .ok s' →
      s'.requests.length = s.requests.length ∧ s'.validIndices.Sublist s.validIndices) ∧
    (∀ excessive limit, requests.length < limit →
      rounds Submission.validIndices (Submission.round c h.working) excessive limit []
          ((Submission.start requests auth).checked c) =
        (Submission.start requests auth).resolve c h.working) ∧
    ∀ result, handleChangeRequests c sender h (.start requests auth) = .ok result →
      ∃ final n v, (Submission.start requests auth).resolve c h.working = .ok (final, n) ∧
        n ≤ requests.length + 1 ∧ KnowsSaved v result.requests ∧
        ∀ r' ∈ result.requests, r'.status = .saved → PassedLastRound c h.working auth v r' := by
  refine ⟨fun s s' ↦ round_shrinks, fun excessive limit hlimit ↦ resolve_eq _ excessive hlimit,
    fun result hresult ↦ ?_⟩
  obtain ⟨final, n, v, saved, hresolve, hcount, hhandled⟩ :=
    handleChangeRequests_spec hfresh hresult
  exact ⟨final, n, v, hresolve, hcount, hhandled.knowsSaved, fun r' ↦ hhandled.passedLastRound⟩

end Handling

section Stored

variable {c : SubmissionContext} {sender : RequestMeta} {h : DatabaseHandler}
  {requests : List Request} {auth : AuthValidator} {result : SubmissionResult} {final : Submission}
  {v : Validators} {saved : DatabaseHandler}

/-- A saved change: the request that it was submitted as, with its object, and its own object. It
has been checked by the validators of the last round. -/
structure SavedChange (c : SubmissionContext) (db : Database) (requests : List Request)
    (auth : AuthValidator) (v : Validators) (r q : ChangeRequest) (submitted obj : ParsedObject) :
    Prop where
  mem : Request.change q ∈ requests
  isValid : q.isValid = true
  requestType : r.requestType = q.requestType
  rpslObjCurrent : r.rpslObjCurrent = q.rpslObjCurrent
  nonStrictMode : r.nonStrictMode = q.nonStrictMode
  rpslObjNew : ∃ obj₀, q.rpslObjNew = some obj₀ ∧ objectKey obj₀ = objectKey obj
  classified : r.Classified c db.objects.rows submitted obj
  references : auth.checkOverride c = .none → r.nonStrictMode = false →
    r.ReferencesHold db.objects.rows v.reference obj
  name : auth.checkOverride c = .none → r.requestType = some .create →
    ChangeRequest.NameIsFree db v.reference obj

theorem Handled.savedChange (hhandled : Handled c sender h requests auth result final v saved)
    {r : ChangeRequest} (hr : r ∈ savedChanges final.requests) :
    ∃ q submitted obj, SavedChange c h.working requests auth v r q submitted obj := by
  obtain ⟨hmem, hvalid⟩ := mem_savedChanges.mp hr
  obtain ⟨r₀, submitted, obj₁, obj, v₀, v₁, hv₀, -, hstep, hclassified⟩ :=
    hhandled.last.change r hmem hvalid
  obtain ⟨q, hq, hcontinues⟩ := exists_of_forall₂ hhandled.continues hmem
  have hpassed := hstep.passed hvalid
  have hoverride : v₀.auth.checkOverride c = auth.checkOverride c := by
    rw [hv₀.auth.checkOverride, hhandled.last.login.checkOverride]
  cases hcontinues with
  | change q _ htype hcurrent hmode hobj hisValid =>
    obtain ⟨obj₀, hobj₀, hagrees⟩ := hobj obj hstep.after
    have hclass : obj₀.objectClass ∈ objectClasses := by
      rw [← hagrees.objectClass, hclassified.agrees.objectClass]
      exact hclassified.mem_objectClasses
    refine ⟨q, submitted, obj, hq, hisValid hvalid, htype, hcurrent, hmode,
      ⟨obj₀, hobj₀, (hagrees.objectKey hclass).symm⟩, hclassified, fun hnone hstrict ↦ ?_,
      fun hnone hcreate ↦ ?_⟩
    · obtain ⟨hto, hfrom⟩ := hpassed.references (hoverride.trans hnone)
        (hstep.nonStrictMode.symm.trans hstrict)
      rw [← hstep.requestType] at hto hfrom
      rw [← hstep.rpslObjCurrent, hv₀.reference.preloadedDeleted] at hfrom
      exact ⟨fun hne reference hreference ↦ (hto hne reference hreference).of_same hv₀.reference,
        hfrom⟩
    · obtain ⟨hname, hfree⟩ := hpassed.name (hoverride.trans hnone)
        (hstep.requestType.symm.trans hcreate)
      rw [hv₀.reference.preloadedDeleted] at hfree
      exact ⟨hname, hfree⟩

/-- The rows after a submission: those that were there before and are not deleted, and those that a
change writes. Rows may have been evaluated again. -/
structure StoredAfter (c : SubmissionContext) (before after : List RPSLDatabaseObject)
    (done : List ChangeRequest) : Prop where
  rows : ∀ row ∈ after,
    (∃ row₀ ∈ before, row₀.key = row.key ∧ row₀.parsedData = row.parsedData ∧
        ¬ Deletes done row.key) ∨
      ∃ r ∈ done, r.requestType ≠ some .delete ∧ ∃ obj, r.rpslObjNew = some obj ∧
        objectKey obj = row.key ∧ row.parsedData = (writtenObject c.render obj).parsedData
  present : ∀ key, ((∃ row ∈ before, row.key = key) ∨ Writes done key) → ¬ Deletes done key →
    ∃ row ∈ after, row.key = key

/-- Evaluated rows have the same keys and data. -/
theorem exists_of_unevaluated {rows rows' : List RPSLDatabaseObject}
    (hsame : rows.map RPSLDatabaseObject.unevaluated = rows'.map RPSLDatabaseObject.unevaluated)
    {row : RPSLDatabaseObject} (hrow : row ∈ rows) :
    ∃ row' ∈ rows', row'.key = row.key ∧ row'.parsedData = row.parsedData := by
  have hmem : row.unevaluated ∈ rows'.map RPSLDatabaseObject.unevaluated :=
    hsame ▸ List.mem_map_of_mem hrow
  obtain ⟨row', hrow', heq⟩ := List.mem_map.mp hmem
  have hcolumns := congrArg Prod.fst heq
  have hkey := congrArg ObjectColumns.key hcolumns
  have hdata := congrArg ObjectColumns.parsedData hcolumns
  exact ⟨row', hrow', hkey, hdata⟩

/-- What a handled submission without an override leaves in the database, where queries find objects
under their own keys. -/
theorem Handled.storedAfter (hhandled : Handled c sender h requests auth result final v saved)
    (hbuffer : h.rpslUpsertBuffer = []) (hoverride : auth.checkOverride c = .none)
    (hfound : ∀ r ∈ savedChanges final.requests, ∀ obj current, r.rpslObjNew = some obj →
      r.rpslObjCurrent = some current → ∃ row ∈ h.working.objects.rows, row.key = objectKey obj) :
    StoredAfter c h.working.objects.rows result.handler.committed.objects.rows
      (savedChanges final.requests) := by
  have hsavable : ∀ r ∈ savedChanges final.requests, r.Savable h.working.objects := by
    intro r hr
    obtain ⟨q, submitted, obj, hsaved⟩ := hhandled.savedChange hr
    refine ⟨fun htype hnone ↦ ?_, fun obj current hobj hcurrent ↦ ?_⟩
    · rw [hsaved.classified.isCreation.mp hnone] at htype
      cases htype
    · obtain ⟨row, hrow, hkey⟩ := hfound r hr obj current hobj hcurrent
      rw [← hkey, (KeyedTable.mem_rows_iff _ row).mp hrow]
      rfl
  have hinitial : InitialWrites ⟨h, ⟨h.working.objects, h.nextPk, []⟩⟩ := ⟨hbuffer, rfl⟩
  have hnone : final.validators.auth.checkOverride c = .none := by
    rw [hhandled.sound.login.checkOverride, hoverride]
  obtain ⟨t, hview, hstored⟩ := saveAll_spec hnone hinitial.view
    (changesStored_nil c h.working.objects) hsavable hhandled.saveAll
  have hcommitted := (hview.commit hhandled.commit).objects
  refine ⟨fun row hrow ↦ ?_, fun key hkey hkept ↦ ?_⟩
  · obtain ⟨row₁, hrow₁, hkey, hdata⟩ := exists_of_unevaluated hcommitted hrow
    have hcolumns := hstored.columns row₁.key row₁.toObjectColumns
      (by rw [(KeyedTable.mem_rows_iff _ row₁).mp hrow₁]; rfl)
    rw [← hkey, ← hdata]
    rcases hcolumns with ⟨hbefore, hkept⟩ | hwritten
    · obtain ⟨row₀, hrow₀, heq⟩ := Option.map_eq_some_iff.mp hbefore
      exact .inl ⟨row₀, KeyedTable.find_mem hrow₀, KeyedTable.find_key hrow₀,
        congrArg ObjectColumns.parsedData heq, hkept⟩
    · exact .inr hwritten
  · have hpresent : (h.working.objects.find key).isSome ∨
        Writes (savedChanges final.requests) key := by
      refine hkey.imp_left (fun ⟨row, hrow, heq⟩ ↦ ?_)
      rw [← heq, (KeyedTable.mem_rows_iff _ row).mp hrow]
      rfl
    obtain ⟨row₁, hrow₁⟩ := Option.isSome_iff_exists.mp (hstored.present key hpresent hkept)
    obtain ⟨row, hrow, hsame, -⟩ :=
      exists_of_unevaluated hcommitted.symm (KeyedTable.find_mem hrow₁)
    exact ⟨row, hrow, hsame.trans (KeyedTable.find_key hrow₁)⟩

end Stored

section Runs

/-- A call of the handler at a time. -/
structure SubmissionAction where
  now : Nat
  sender : RequestMeta
  call : SubmissionCall

/-- One submission after the other. A submission that raises an exception commits nothing. -/
def submissionStep (c : SubmissionContext) (h : DatabaseHandler) (a : SubmissionAction) :
    Option DatabaseHandler :=
  (a.call.load c a.sender { h with now := a.now }).toOption.map SubmissionResult.handler

variable {c : SubmissionContext} {h h' : DatabaseHandler} {a : SubmissionAction}

/-- A step of a run is a submission that was handled in a transaction of its own. -/
theorem handled_of_step (hstep : submissionStep c h a = some h') :
    ∃ h₀ requests auth result final v saved, h₀.working = h.committed ∧ h₀.rpslUpsertBuffer = [] ∧
      a.call.parse c h.committed.objects.rows = .ok (requests, auth) ∧
      Handled c a.sender h₀ requests auth result final v saved ∧ result.handler = h' := by
  obtain ⟨result, hresult, hhandler⟩ := Option.map_eq_some_iff.mp hstep
  have hload := toOption_eq_some_iff.mp hresult
  rw [load_eq] at hload
  obtain ⟨⟨requests, auth⟩, hparse, hhandle⟩ := bind_eq_ok_iff.mp hload
  obtain ⟨final, n, v, saved, -, -, hhandled⟩ :=
    handleChangeRequests_spec (SubmissionCall.isFresh hparse) hhandle
  exact ⟨_, requests, auth, result, final, v, saved, rfl, rfl, hparse, hhandled, hhandler⟩

end Runs

section Examples

/-- One authoritative source, in which a password is its own hash. -/
def plainContext : SubmissionContext where
  settings := localSettings
  env := plainEnvironment
  hashFunctions := ⟨fun _ password hash ↦ some (password = hash), id⟩
  scopefilter := ⟨[], [], []⟩
  render := ⟨fun source ↦ source = "TEST", fun _ ↦ true, fun _ ↦ []⟩
  setCreation := ⟨fun _ ↦ none, fun _ ↦ none⟩
  nonStrictMode _ := false
  suspensionEnabled _ := false
  objectClassFilter _ := []
  overridePassword := none
  authenticateParentsRouteCreation := false
  roaImportTimer := ""
  collate a b := a ≤ b
  rowOrder := ⟨id, fun _ ↦ .rfl⟩
  suspendedOrder := ⟨id, fun _ ↦ .rfl⟩
  cacheOrder := ⟨id, fun _ ↦ .rfl⟩
  authMntners := []
  authApiTokens := []

/-- A row of a class without resources. -/
def storedRow (pk : Nat) (objectClass rpslPk objectText : String)
    (parsedData : List (String × List String)) : RPSLDatabaseObject where
  rpslPk := rpslPk
  source := "TEST"
  objectClass := objectClass
  parsedData := parsedData
  objectText := objectText
  ipVersion := none
  ipFirst := none
  ipLast := none
  ipSize := none
  prefixLength := none
  ipPrefix := none
  asnFirst := none
  asnLast := none
  rpkiStatus := .notFound
  scopefilterStatus := .inScope
  routePreferenceStatus := .visible
  updated := 0
  pk := pk
  created := 0

/-- The text of a person with a maintainer. -/
def personText (nicHdl : String) : String :=
  s!"person: P\naddress: A\nphone: 1\ne-mail: a@b.c\nnic-hdl: {nicHdl}\n" ++
    "mnt-by: TEST-MNT\nsource: TEST\n"

/-- A maintainer, and a person that is its contact. -/
def mntnerRow : RPSLDatabaseObject :=
  storedRow 0 "mntner" "TEST-MNT"
    ("mntner: TEST-MNT\nadmin-c: P-TEST\nupd-to: a@b.c\nauth: MD5-PW secret\nmnt-by: TEST-MNT\n" ++
      "source: TEST\n")
    [("mntner", ["TEST-MNT"]), ("admin-c", ["P-TEST"]), ("mnt-by", ["TEST-MNT"]),
      ("source", ["TEST"])]

def personRow : RPSLDatabaseObject :=
  storedRow 1 "person" "P-TEST" (personText "P-TEST")
    [("person", ["P"]), ("nic-hdl", ["P-TEST"]), ("mnt-by", ["TEST-MNT"]), ("source", ["TEST"])]

/-- A handler on these two objects. -/
def personHandler : DatabaseHandler :=
  let database := { emptyDatabase with objects := ⟨[mntnerRow, personRow], by decide⟩ }
  { newHandler with committed := database, working := database, nextPk := 2 }

/-- The creation of another person. -/
def personCall : SubmissionCall :=
  .change ⟨[.objectText (personText "N-TEST")], ["secret"], none, [], ""⟩ .webapi false none

/-- The state before a call. -/
def personStart : DatabaseHandler := DatabaseHandler.opened personHandler.committed personHandler

/-- The creation has no override. -/
theorem checkOverride_personCall {rows : List RPSLDatabaseObject} {requests : List Request}
    {auth : AuthValidator} (hparse : personCall.parse plainContext rows = .ok (requests, auth)) :
    auth.checkOverride plainContext = .none := by
  obtain ⟨parsed, -, h⟩ := bind_eq_ok_iff.mp hparse
  cases h
  rfl

/-- Whether there is one change, which was saved. -/
def isSavedChange : List Request → Bool
  | [.change r] => r.status = .saved
  | _ => false

/-- The creation is saved. -/
theorem exists_personCall : ∃ requests auth result r,
    personCall.parse plainContext personStart.working.objects.rows = .ok (requests, auth) ∧
      handleChangeRequests plainContext ⟨none, none⟩ personStart (.start requests auth) =
        .ok result ∧
      personCall.load plainContext ⟨none, none⟩ personHandler = .ok result ∧
      result.requests = [.change r] ∧ r.status = .saved ∧
      result.handler.committed.objects.rows.map (fun row ↦ row.rpslPk) =
        ["TEST-MNT", "P-TEST", "N-TEST"] := by
  have hloaded : (personCall.load plainContext ⟨none, none⟩ personHandler).toOption.any
      (fun result ↦ isSavedChange result.requests &&
        result.handler.committed.objects.rows.map (fun row ↦ row.rpslPk) =
          ["TEST-MNT", "P-TEST", "N-TEST"]) = true := by
    decide +kernel
  obtain ⟨result, hresult, hsaved⟩ := (Option.any_eq_true _ _).mp hloaded
  rw [Bool.and_eq_true] at hsaved
  have hload := toOption_eq_some_iff.mp hresult
  have hparts := hload
  rw [load_eq] at hparts
  obtain ⟨⟨requests, auth⟩, hparse, hhandle⟩ := bind_eq_ok_iff.mp hparts
  obtain ⟨hchange, hrows⟩ := hsaved
  unfold isSavedChange at hchange
  split at hchange
  · next r hrequests =>
    exact ⟨requests, auth, result, r, hparse, hhandle, hload, hrequests, of_decide_eq_true hchange,
      of_decide_eq_true hrows⟩
  · cases hchange

/-- The text of a maintainer, which only an administrator may create. -/
def newMntnerText : String :=
  "mntner: NEW-MNT\nadmin-c: P-TEST\nupd-to: a@b.c\nauth: MD5-PW secret\nmnt-by: NEW-MNT\n" ++
    "source: TEST\n"

/-- The text of a person with both maintainers. -/
def coMaintainedText : String :=
  "person: P\naddress: A\nphone: 1\ne-mail: a@b.c\nnic-hdl: C-TEST\n" ++
    "mnt-by: NEW-MNT, TEST-MNT\nsource: TEST\n"

/-- The creation of the maintainer, of the person with both and of one without it. -/
def dependentCall : SubmissionCall :=
  .change ⟨[.objectText newMntnerText, .objectText coMaintainedText,
    .objectText (personText "N-TEST")], ["secret"], none, [], ""⟩ .webapi false none

/-- The maintainer is rejected in the first round, and the person with both in the second. -/
theorem exists_dependentCall : ∃ requests auth first result,
    dependentCall.parse plainContext personStart.working.objects.rows = .ok (requests, auth) ∧
      (Submission.start requests auth).round plainContext personStart.working = .ok first ∧
      first.requests.map Request.status = [.errorAuth, .processing, .processing] ∧
      handleChangeRequests plainContext ⟨none, none⟩ personStart (.start requests auth) =
        .ok result ∧
      result.requests.map Request.status = [.errorAuth, .errorReference, .saved] := by
  have hparsed : (dependentCall.parse plainContext personStart.working.objects.rows).toOption.any
      (fun parsed ↦
        let s := Submission.start parsed.1 parsed.2
        (s.round plainContext personStart.working).toOption.any (fun first ↦
          first.requests.map Request.status = [.errorAuth, .processing, .processing]) &&
        (handleChangeRequests plainContext ⟨none, none⟩ personStart s).toOption.any (fun result ↦
          result.requests.map Request.status = [.errorAuth, .errorReference, .saved])) = true := by
    decide +kernel
  obtain ⟨⟨requests, auth⟩, hparse, hrounds⟩ := (Option.any_eq_true _ _).mp hparsed
  obtain ⟨hfirst, hresult⟩ := Bool.and_eq_true_iff.mp hrounds
  obtain ⟨first, hround, hfirst⟩ := (Option.any_eq_true _ _).mp hfirst
  obtain ⟨result, hhandle, hresult⟩ := (Option.any_eq_true _ _).mp hresult
  exact ⟨requests, auth, first, result, toOption_eq_some_iff.mp hparse,
    toOption_eq_some_iff.mp hround, of_decide_eq_true hfirst, toOption_eq_some_iff.mp hhandle,
    of_decide_eq_true hresult⟩

theorem submission_rounds_dependentCall : ∃ requests auth first result,
    dependentCall.parse plainContext personStart.working.objects.rows = .ok (requests, auth) ∧
      (Submission.start requests auth).round plainContext personStart.working = .ok first ∧
      first.requests.map Request.status = [.errorAuth, .processing, .processing] ∧
      handleChangeRequests plainContext ⟨none, none⟩ personStart (.start requests auth) =
        .ok result ∧
      result.requests.map Request.status = [.errorAuth, .errorReference, .saved] ∧
      first.validIndices.Sublist (Submission.start requests auth).validIndices ∧
      ∃ final n v, (Submission.start requests auth).resolve plainContext personStart.working =
          .ok (final, n) ∧
        n ≤ requests.length + 1 ∧ KnowsSaved v result.requests ∧
        ∀ r' ∈ result.requests, r'.status = .saved →
          PassedLastRound plainContext personStart.working auth v r' := by
  obtain ⟨requests, auth, first, result, hparse, hround, hfirst, hhandle, hresult⟩ :=
    exists_dependentCall
  obtain ⟨hshrinks, -, hhandled⟩ := @submission_rounds plainContext ⟨none, none⟩ personStart _ _
    (SubmissionCall.isFresh hparse)
  exact ⟨requests, auth, first, result, hparse, hround, hfirst, hhandle, hresult,
    (hshrinks _ _ hround).2, hhandled result hhandle⟩

end Examples

end Irrd.Updates
