import Irrd.Updates.HandledSubmissions

/-!
# Authority of changes

Without an override, every change that is saved was authorised by credentials of its submission,
through maintainers that were there before it. No maintainer is created, and none that is submitted
lends its authority. A maintainer that is changed keeps valid auth lines of its own.
-/

namespace Irrd.Updates

open Irrd.Base Irrd.Conf Irrd.Rpsl Irrd.Storage Irrd.Utils

section Authorisation

variable {c : SubmissionContext} {rows : List RPSLDatabaseObject} {v v' : AuthValidator}
  {rpslObjNew : ParsedObject} {rpslObjCurrent : Option ParsedObject}
  {pkAsnSegment : Option (List Char)}

namespace AuthValidator

/-- What authorises a change does not depend on the maintainers that were found before. -/
theorem Authorised.of_same (hsame : SameCredentials v v')
    (h : Authorised c rows v' rpslObjNew rpslObjCurrent pkAsnSegment) :
    Authorised c rows v rpslObjNew rpslObjCurrent pkAsnSegment := by
  refine ⟨?_, fun current hcurrent ↦ ?_, fun hnone ↦ ?_, h.mntner⟩
  · obtain ⟨names, hnames, hauthenticates⟩ := h.new
    exact ⟨names, hnames, hauthenticates.of_same hsame⟩
  · obtain ⟨names, hnames, hauthenticates⟩ := h.current current hcurrent
    exact ⟨names, hnames, hauthenticates.of_same hsame⟩
  · obtain ⟨related, hrelated, hauthenticates⟩ := h.related hnone
    exact ⟨related, hrelated, fun _ _ _ heq ↦ (hauthenticates _ _ _ heq).of_same hsame⟩

/-- The credentials of a submission, without maintainers that it creates. -/
def credentials (auth : AuthValidator) : AuthValidator :=
  { auth with mntnerDbCache := [], preApproved := [] }

/-- A validator with the login of a submission that approves no maintainers has its credentials. -/
theorem sameCredentials_of_login {auth : AuthValidator} (hlogin : auth.SameLogin v)
    (hnone : v.preApproved = []) : SameCredentials auth.credentials v := by
  refine ⟨?_⟩
  rw [hlogin.eq] at hnone ⊢
  unfold credentials
  rw [show v.preApproved = [] from hnone]

end AuthValidator

end Authorisation

section Saved

variable {c : SubmissionContext} {sender : RequestMeta} {h : DatabaseHandler}
  {requests : List Request} {auth : AuthValidator} {result : SubmissionResult} {final : Submission}
  {v : Validators} {saved : DatabaseHandler}

/-- Without an override, no maintainer is approved because it is created. -/
theorem Handled.preApproved_eq_nil
    (hhandled : Handled c sender h requests auth result final v saved)
    (hoverride : auth.checkOverride c = .none) : v.auth.preApproved = [] := by
  rw [hhandled.last.preloaded.preApproved]
  unfold Submission.createdMntners
  rw [List.filterMap_eq_nil_iff]
  intro request hrequest
  unfold Request.createdMntner
  split
  · next hvalid =>
    cases request with
    | suspension q => exact absurd hvalid.2 nofun
    | change r =>
      obtain ⟨r₀, submitted, obj₁, obj, v₀, v₁, hv₀, -, hstep, hclassified⟩ :=
        hhandled.last.change r hrequest hvalid.1
      have hnone : v₀.auth.checkOverride c = .none := by
        rw [hv₀.auth.checkOverride, hhandled.last.login.checkOverride, hoverride]
      obtain ⟨pkAsnSegment, -, hauthorised⟩ := (hstep.passed hvalid.1).authorised hnone
      have hcurrent : r₀.rpslObjCurrent = none := by
        rw [← hstep.rpslObjCurrent]
        exact hclassified.isCreation.mpr hvalid.2
      have hmntner : obj.isMntner = false := by
        have hsame : obj.isMntner = obj₁.isMntner := by
          unfold ParsedObject.isMntner ParsedObject.rpslObjectClass
          rw [hstep.agrees.objectClass]
        rw [hsame, Bool.eq_false_iff]
        intro htrue
        have hsome := hauthorised.mntner htrue
        rw [hcurrent] at hsome
        cases hsome
      simp [Request.rpslObjNew, hclassified.rpslObjNew, Option.filter, hmntner]
  · rfl

/-- Without an override, every saved change was authorised, with the object as it was submitted but
for its hashes, and a maintainer keeps valid auth lines. -/
theorem authorised_of_saved (hfresh : IsFresh c h.working.objects.rows requests auth)
    (hoverride : auth.checkOverride c = .none)
    (hresult : handleChangeRequests c sender h (.start requests auth) = .ok result)
    {r : ChangeRequest} (hmem : Request.change r ∈ result.requests) (hstatus : r.status = .saved) :
    ∃ q submitted obj obj' pkAsnSegment, Request.change q ∈ requests ∧ q.isValid = true ∧
      r.requestType = q.requestType ∧ q.rpslObjNew = some submitted ∧
      AgreesOutsideAuth submitted obj ∧ r.rpslObjNew = some obj' ∧ AgreesOutsideAuth obj obj' ∧
      (q.requestType = some .create → obj.cleanForCreate c.setCreation = .ok pkAsnSegment) ∧
      auth.credentials.Authorised c h.working.objects.rows obj q.rpslObjCurrent pkAsnSegment ∧
      (obj.isMntner = true → auth.credentials.KeepsAuth c obj obj') := by
  obtain ⟨final, n, v, saved, -, -, hhandled⟩ := handleChangeRequests_spec hfresh hresult
  obtain ⟨r', hr', hvalid, infoMessages, rfl⟩ := hhandled.exists_of_saved hmem hstatus
  obtain ⟨r₀, -, obj₁, obj, v₀, v₁, hv₀, -, hstep, -⟩ := hhandled.last.change r' hr' hvalid
  have hlogin := hhandled.last.login.trans hv₀.auth.sameLogin
  have hcheck : v₀.auth.checkOverride c = .none := by rw [hlogin.checkOverride, hoverride]
  obtain ⟨pkAsnSegment, hnamed, hauthorised⟩ := (hstep.passed hvalid).authorised hcheck
  have hnone : v₀.auth.preApproved = [] := by
    rw [hv₀.auth.preApproved]
    exact hhandled.preApproved_eq_nil hoverride
  obtain ⟨q, hq, hcontinues⟩ := exists_of_forall₂ hhandled.continues hr'
  cases hcontinues with
  | change q _ htype hcurrent hmode hobj hisValid =>
    obtain ⟨submitted, hsubmitted, hagrees⟩ := hobj obj hstep.after
    have hsame := AuthValidator.sameCredentials_of_login hlogin hnone
    refine ⟨q, submitted, obj₁, obj, pkAsnSegment, hq, hisValid hvalid, htype, hsubmitted,
      hagrees.trans hstep.agrees.symm, hstep.after, hstep.agrees, fun hcreate ↦ ?_, ?_,
      fun hmntner ↦ ((hstep.passed hvalid).mntner hcheck hmntner).of_same hsame⟩
    · unfold ChangeRequest.IsNamed at hnamed
      rwa [if_pos (hstep.requestType.symm.trans (htype.trans hcreate))] at hnamed
    · rw [← hcurrent, hstep.rpslObjCurrent]
      exact hauthorised.of_same hsame

/-- The creation of a person is authorised by the password of its maintainer. -/
theorem authorised_of_saved_personCall : ∃ requests auth result r,
    personCall.parse plainContext personStart.working.objects.rows = .ok (requests, auth) ∧
      handleChangeRequests plainContext ⟨none, none⟩ personStart (.start requests auth) =
        .ok result ∧
      Request.change r ∈ result.requests ∧
      ∃ q submitted obj obj' pkAsnSegment, Request.change q ∈ requests ∧ q.isValid = true ∧
        r.requestType = q.requestType ∧ q.rpslObjNew = some submitted ∧
        AgreesOutsideAuth submitted obj ∧ r.rpslObjNew = some obj' ∧ AgreesOutsideAuth obj obj' ∧
        (q.requestType = some .create →
          obj.cleanForCreate plainContext.setCreation = .ok pkAsnSegment) ∧
        auth.credentials.Authorised plainContext personStart.working.objects.rows obj
          q.rpslObjCurrent pkAsnSegment ∧
        (obj.isMntner = true → auth.credentials.KeepsAuth plainContext obj obj') := by
  obtain ⟨requests, auth, result, r, hparse, hhandle, -, hrequests, hsaved, -⟩ := exists_personCall
  have hmem : Request.change r ∈ result.requests := by
    rw [hrequests]
    exact List.mem_cons_self
  exact ⟨requests, auth, result, r, hparse, hhandle, hmem,
    authorised_of_saved (SubmissionCall.isFresh hparse) (checkOverride_personCall hparse) hhandle
      hmem hsaved⟩

end Saved

end Irrd.Updates
