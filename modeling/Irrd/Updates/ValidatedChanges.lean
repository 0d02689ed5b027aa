import Irrd.Updates.CheckedMntners
import Irrd.Updates.CheckedReferences
import Irrd.Updates.Requests

/-!
# Validated changes

What validating a change leaves as it was, and what has been checked when it is still valid.
-/

namespace Irrd.Updates

open Irrd.Base Irrd.Conf Irrd.Rpsl Irrd.Storage Irrd.Utils

variable {c : SubmissionContext}

/-- A request after a check: its messages and its status may differ, but it is not valid again. -/
structure ChangeRequest.Checked (r r' : ChangeRequest) : Prop where
  rpslObjNew : r'.rpslObjNew = r.rpslObjNew
  rpslObjCurrent : r'.rpslObjCurrent = r.rpslObjCurrent
  requestType : r'.requestType = r.requestType
  nonStrictMode : r'.nonStrictMode = r.nonStrictMode
  authResult : r'.authResult = r.authResult
  isValid : r'.isValid = true → r.isValid = true

namespace ChangeRequest

variable {r r' r'' : ChangeRequest} {db : Database}

section Checks

theorem Checked.refl (r : ChangeRequest) : Checked r r := ⟨rfl, rfl, rfl, rfl, rfl, id⟩

theorem Checked.trans (h : Checked r r') (h' : Checked r' r'') : Checked r r'' :=
  ⟨h'.rpslObjNew.trans h.rpslObjNew, h'.rpslObjCurrent.trans h.rpslObjCurrent,
    h'.requestType.trans h.requestType, h'.nonStrictMode.trans h.nonStrictMode,
    h'.authResult.trans h.authResult, fun hvalid ↦ h.isValid (h'.isValid hvalid)⟩

theorem Checked.usedOverride (h : Checked r r') : r'.usedOverride = r.usedOverride := by
  unfold ChangeRequest.usedOverride
  rw [h.authResult]

theorem isValid_of_failWith {status failure : UpdateRequestStatus}
    (hfailure : failure.isValid = false) : (status.failWith failure).isValid ≠ true :=
  Bool.eq_false_iff.mp (failWith_isValid hfailure)

theorem afterCheck_spec (r : ChangeRequest) (result : ValidatorResult)
    {failure : UpdateRequestStatus}
    (hfailure : failure.isValid = false) : Checked r (r.afterCheck result failure) ∧
      ((r.afterCheck result failure).isValid = true → result.isValid = true) := by
  have hvalid : (r.afterCheck result failure).isValid = true →
      r.isValid = true ∧ result.isValid = true := by
    intro h
    unfold afterCheck ChangeRequest.isValid at h
    dsimp only at h
    split at h
    · next hresult => exact ⟨h, hresult⟩
    · exact absurd h (isValid_of_failWith hfailure)
  exact ⟨⟨rfl, rfl, rfl, rfl, rfl, fun h ↦ (hvalid h).1⟩, fun h ↦ (hvalid h).2⟩

/-- The references that a valid request has to have: those of a new object resolve, and objects that
refer to a deleted one are deleted. -/
structure ReferencesHold (rows : List RPSLDatabaseObject) (v : ReferenceValidator)
    (r : ChangeRequest) (obj : ParsedObject) : Prop where
  toOthers : r.requestType ≠ some .delete → ∀ reference ∈ ReferenceValidator.referencesOf obj,
    v.Resolves rows reference.2.1 reference.2.2 (objectKey obj).source
  fromOthers : r.requestType = some .delete → ∀ current, r.rpslObjCurrent = some current →
    ∀ row ∈ rows, ReferenceValidator.RefersTo row current → row.key ∈ v.preloadedDeleted

theorem checkReferences_spec {rows : List RPSLDatabaseObject} {v v' : ReferenceValidator}
    {obj : ParsedObject} (hcache : ReferenceValidator.CacheSound rows v.preloadedDeleted v.cache)
    (h : r.checkReferences c rows v obj = .ok (v', r')) :
    Checked r r' ∧ v.SamePreloads v' ∧
      ReferenceValidator.CacheSound rows v'.preloadedDeleted v'.cache ∧
      (r'.isValid = true → r.nonStrictMode = false → r.usedOverride = false →
        ReferencesHold rows v r obj) := by
  unfold checkReferences at h
  split at h
  · next hnonStrict =>
    cases h
    exact ⟨.refl r, ⟨rfl, rfl⟩, hcache, fun _ hstrict ↦ by simp [hnonStrict] at hstrict⟩
  · split at h
    · next current htype hcurrent =>
      obtain ⟨result, hresult, h⟩ := bind_eq_ok_iff.mp h
      cases h
      obtain ⟨hchecked, hvalid⟩ := @afterCheck_spec r result .errorReference rfl
      refine ⟨hchecked, ⟨rfl, rfl⟩, hcache, fun hvalid' _ hoverride ↦ ⟨absurd htype, ?_⟩⟩
      intro _ current' heq row hrow hrefers
      rw [hcurrent] at heq
      cases heq
      rw [hoverride] at hresult
      exact ReferenceValidator.deletion_isValid hresult (hvalid hvalid') hrow hrefers
    · next hother =>
      obtain ⟨⟨v₁, result⟩, hresult, h⟩ := bind_eq_ok_iff.mp h
      cases h
      obtain ⟨hchecked, hvalid⟩ := @afterCheck_spec r result .errorReference rfl
      obtain ⟨hsame, hcache', hresolves⟩ :=
        ReferenceValidator.checkReferencesToOthers_spec hcache hresult
      refine ⟨hchecked, hsame, hcache', fun hvalid' _ _ ↦ ⟨fun _ ↦ hresolves (hvalid hvalid'), ?_⟩⟩
      intro htype current hcurrent
      exact (hother current htype hcurrent).elim

/-- What the name of a created object has passed without an override. -/
def NameIsFree (db : Database) (v : ReferenceValidator) (obj : ParsedObject) : Prop :=
  ReferenceValidator.isProtectedName db.protectedNames obj = false ∧
    ∀ row ∈ db.objects.rows, ReferenceValidator.RefersTo row obj → row.key ∈ v.preloadedDeleted

theorem checkProtectedNames_spec {v : ReferenceValidator} {obj : ParsedObject}
    (h : r.checkProtectedNames c db v obj = .ok r') : Checked r r' ∧
      (r'.isValid = true → r.usedOverride = false → r.requestType = some .create →
        NameIsFree db v obj) := by
  unfold checkProtectedNames at h
  split at h
  · cases hresult : v.checkProtectedName c db obj r.usedOverride with
    | error e =>
      rw [hresult] at h
      cases h
    | ok result =>
      rw [hresult] at h
      cases h
      obtain ⟨hchecked, hvalid⟩ := @afterCheck_spec r result .errorProtectedName rfl
      refine ⟨hchecked, fun hvalid' hoverride _ ↦ ?_⟩
      rw [hoverride] at hresult
      exact ReferenceValidator.creation_isValid hresult (hvalid hvalid')
  · next htype =>
    cases h
    exact ⟨.refl r, fun _ _ hcreate ↦ absurd hcreate htype⟩

theorem checkRoa_spec {roas : List ROADatabaseObject} {requestType : UpdateRequestType}
    {obj : ParsedObject} (h : r.checkRoa c roas requestType obj = .ok r') : Checked r r' := by
  unfold checkRoa at h
  dsimp only at h
  split at h
  · cases h
    exact .refl r
  · split at h
    · cases h
    · split at h
      · cases h
        exact ⟨rfl, rfl, rfl, rfl, rfl, id⟩
      · cases h
        exact .refl r
    · cases h
      exact ⟨rfl, rfl, rfl, rfl, rfl, fun hvalid ↦ absurd hvalid (isValid_of_failWith rfl)⟩

theorem checkScope_spec (c : SubmissionContext) (r : ChangeRequest)
    (requestType : UpdateRequestType) (obj : ParsedObject) :
    Checked r (r.checkScope c requestType obj) := by
  unfold checkScope
  dsimp only
  split
  · exact ⟨rfl, rfl, rfl, rfl, rfl, fun hvalid ↦ absurd hvalid (isValid_of_failWith rfl)⟩
  · split
    · exact ⟨rfl, rfl, rfl, rfl, rfl, id⟩
    · exact .refl r

end Checks

end ChangeRequest

/-- The caches of the validators hold only what is in the database. -/
structure Validators.Sound (c : SubmissionContext) (rows : List RPSLDatabaseObject)
    (v : Validators) : Prop where
  auth : AuthValidator.CacheSound c rows v.auth.mntnerDbCache
  reference : ReferenceValidator.CacheSound rows v.reference.preloadedDeleted v.reference.cache

/-- A step of the validators: only their caches change, and these stay sound. -/
structure Validators.Step (c : SubmissionContext) (rows : List RPSLDatabaseObject)
    (v v' : Validators) : Prop where
  auth : v.auth.SameCredentials v'.auth
  reference : v.reference.SamePreloads v'.reference
  sound : v'.Sound c rows

namespace ChangeRequest

variable {r r' : ChangeRequest} {db : Database} {v v' : Validators}

/-- The name of a new set has an AS number in front, if it needs one. -/
def IsNamed (c : SubmissionContext) (r : ChangeRequest) (obj : ParsedObject)
    (pkAsnSegment : Option (List Char)) : Prop :=
  if r.requestType = some .create then obj.cleanForCreate c.setCreation = .ok pkAsnSegment
  else pkAsnSegment = r.pkAsnSegment

/-- What a request that is still valid has passed, with its object before and after. -/
structure Passed (c : SubmissionContext) (db : Database) (v : Validators) (r : ChangeRequest)
    (obj obj' : ParsedObject) : Prop where
  authorised : v.auth.checkOverride c = .none → ∃ pkAsnSegment, r.IsNamed c obj pkAsnSegment ∧
    v.auth.Authorised c db.objects.rows obj r.rpslObjCurrent pkAsnSegment
  mntner : v.auth.checkOverride c = .none → obj.isMntner = true → v.auth.KeepsAuth c obj obj'
  references : v.auth.checkOverride c = .none → r.nonStrictMode = false →
    r.ReferencesHold db.objects.rows v.reference obj'
  name : v.auth.checkOverride c = .none → r.requestType = some .create →
    NameIsFree db v.reference obj'

/-- What validating a request does. -/
structure ValidationStep (c : SubmissionContext) (db : Database) (v v' : Validators)
    (r r' : ChangeRequest) (obj obj' : ParsedObject) : Prop where
  before : r.rpslObjNew = some obj
  after : r'.rpslObjNew = some obj'
  agrees : AgreesOutsideAuth obj obj'
  rpslObjCurrent : r'.rpslObjCurrent = r.rpslObjCurrent
  requestType : r'.requestType = r.requestType
  nonStrictMode : r'.nonStrictMode = r.nonStrictMode
  validators : v.Step c db.objects.rows v'
  passed : r'.isValid = true → r.Passed c db v obj obj'

theorem checkNameAndRules_spec {requestType : UpdateRequestType} {obj : ParsedObject}
    {passed : Bool}
    (hobj : r.rpslObjNew = some obj) (htype : r.requestType = some requestType)
    (h : r.checkNameAndRules c db requestType obj = .ok (r', passed)) :
    (∃ obj', r'.rpslObjNew = some obj' ∧ AgreesOutsideAuth obj obj') ∧
      r'.rpslObjCurrent = r.rpslObjCurrent ∧ r'.requestType = r.requestType ∧
      r'.nonStrictMode = r.nonStrictMode ∧ (passed = false → r'.isValid = false) ∧
      (passed = true → r'.rpslObjNew = some obj ∧ r.IsNamed c obj r'.pkAsnSegment) := by
  unfold checkNameAndRules at h
  dsimp only at h
  have hnamed (pkAsnSegment : Option (List Char))
      (h : (if requestType = .create then obj.cleanForCreate c.setCreation
        else .ok r.pkAsnSegment) = .ok pkAsnSegment) : r.IsNamed c obj pkAsnSegment := by
    unfold IsNamed
    rw [htype]
    split at h
    · next hcreate => rwa [if_pos (congrArg some hcreate)]
    · next hother =>
      rw [if_neg (fun heq ↦ hother (Option.some_inj.mp heq))]
      exact (Except.ok.inj h).symm
  split at h
  · cases h
    exact ⟨⟨_, rfl, ⟨rfl, fun _ _ ↦ rfl⟩⟩, rfl, rfl, rfl, fun _ ↦ rfl, nofun⟩
  · next pkAsnSegment hsegment =>
    split at h
    · cases h
      exact ⟨⟨obj, hobj, .refl obj⟩, rfl, rfl, rfl, nofun, fun _ ↦ ⟨hobj, hnamed _ hsegment⟩⟩
    · obtain ⟨result, -, h⟩ := bind_eq_ok_iff.mp h
      rw [pure_eq_ok_iff] at h
      split at h <;> cases h
      · exact ⟨⟨obj, hobj, .refl obj⟩, rfl, rfl, rfl, nofun, fun _ ↦ ⟨hobj, hnamed _ hsegment⟩⟩
      · exact ⟨⟨obj, hobj, .refl obj⟩, rfl, rfl, rfl, fun _ ↦ rfl, nofun⟩

theorem checkOthers_spec {requestType : UpdateRequestType} {obj : ParsedObject}
    {w w' : ReferenceValidator}
    (hcache : ReferenceValidator.CacheSound db.objects.rows w.preloadedDeleted w.cache)
    (h : r.checkOthers c db w requestType obj = .ok (w', r')) :
    Checked r r' ∧ w.SamePreloads w' ∧
      ReferenceValidator.CacheSound db.objects.rows w'.preloadedDeleted w'.cache ∧
      (r'.isValid = true → r.usedOverride = false →
        (r.nonStrictMode = false → ReferencesHold db.objects.rows w r obj) ∧
        (r.requestType = some .create → NameIsFree db w obj)) := by
  obtain ⟨⟨w₁, r₁⟩, hreferences, h⟩ := bind_eq_ok_iff.mp h
  obtain ⟨r₂, hnames, h⟩ := bind_eq_ok_iff.mp h
  obtain ⟨r₃, hroa, h⟩ := bind_eq_ok_iff.mp h
  cases h
  obtain ⟨hchecked₁, hsame, hcache', hhold⟩ := checkReferences_spec hcache hreferences
  obtain ⟨hchecked₂, hfree⟩ := checkProtectedNames_spec hnames
  have hchecked₃ := (checkRoa_spec hroa).trans (checkScope_spec c r₃ requestType obj)
  refine ⟨(hchecked₁.trans hchecked₂).trans hchecked₃, hsame, hcache', fun hvalid hoverride ↦ ?_⟩
  have hvalid₂ := hchecked₃.isValid hvalid
  refine ⟨fun hstrict ↦ hhold (hchecked₂.isValid hvalid₂) hstrict hoverride, fun hcreate ↦ ?_⟩
  have hfree' := hfree hvalid₂ (hchecked₁.usedOverride.trans hoverride)
    (hchecked₁.requestType.trans hcreate)
  exact ⟨hfree'.1, fun row hrow hrefers ↦ hsame.preloadedDeleted ▸ hfree'.2 row hrow hrefers⟩

/-- Validating a request keeps what it is about, and the caches of the validators sound. If it is
still valid, it has passed the checks. -/
theorem validate_spec (hsound : v.Sound c db.objects.rows) (h : r.validate c db v = .ok (v', r')) :
    ∃ obj obj', ValidationStep c db v v' r r' obj obj' := by
  unfold validate at h
  split at h
  · next obj requestType hobj htype =>
    obtain ⟨⟨r₁, passed⟩, hrules, h⟩ := bind_eq_ok_iff.mp h
    obtain ⟨⟨obj₁, hobj₁, hagrees₁⟩, hcurrent₁, htype₁, hmode₁, hfailed, hpassed⟩ :=
      checkNameAndRules_spec hobj htype hrules
    cases passed with
    | false =>
      cases h
      exact ⟨obj, obj₁, hobj, hobj₁, hagrees₁, hcurrent₁, htype₁, hmode₁,
        ⟨.refl _, ⟨rfl, rfl⟩, hsound⟩, fun hvalid ↦ by simp [hfailed rfl] at hvalid⟩
    | true =>
      obtain ⟨-, hnamed⟩ := hpassed rfl
      dsimp only at h
      rw [if_pos rfl] at h
      obtain ⟨⟨auth, obj₂, r₂⟩, hauth, h⟩ := bind_eq_ok_iff.mp h
      obtain ⟨⟨auth', obj', result⟩, hprocess, hauth⟩ := bind_eq_ok_iff.mp hauth
      cases hauth
      obtain ⟨hstep, hagrees, hauthorised⟩ := AuthValidator.processAuth_spec hsound.auth hprocess
      rw [hcurrent₁] at hauthorised
      cases hresult : result.isValid with
      | false =>
        simp only [hresult, Option.any_some, Bool.false_eq_true, if_false] at h
        cases h
        exact ⟨obj, obj₂, hobj, rfl, hagrees, hcurrent₁, htype₁, hmode₁,
          ⟨hstep.same, ⟨rfl, rfl⟩, ⟨hstep.cache, hsound.reference⟩⟩, nofun⟩
      | true =>
        simp only [hresult, Option.any_some, if_true] at h
        obtain ⟨⟨reference, r₃⟩, hothers, h⟩ := bind_eq_ok_iff.mp h
        cases h
        obtain ⟨hchecked, hsame, hcache, hvalid⟩ := checkOthers_spec hsound.reference hothers
        refine ⟨obj, obj₂, hobj, hchecked.rpslObjNew, hagrees,
          hchecked.rpslObjCurrent.trans hcurrent₁,
          hchecked.requestType.trans htype₁, hchecked.nonStrictMode.trans hmode₁,
          ⟨hstep.same, hsame, ⟨hstep.cache, hcache⟩⟩, fun hr' ↦ ⟨fun hnone ↦ ?_,
            fun hnone ↦ (hauthorised hnone hresult).2.2, fun hnone hstrict ↦ ?_,
            fun hnone hcreate ↦ ?_⟩⟩
        · exact ⟨r₁.pkAsnSegment, hnamed, (hauthorised hnone hresult).2.1⟩
        · obtain ⟨hhold, -⟩ := hvalid hr' (hauthorised hnone hresult).1
          obtain ⟨hto, hfrom⟩ := hhold (hmode₁.trans hstrict)
          exact ⟨fun hne ↦ hto (fun heq ↦ hne (htype₁.symm.trans heq)),
            fun heq current hcurrent ↦ hfrom (htype₁.trans heq) current (hcurrent₁.trans hcurrent)⟩
        · exact (hvalid hr' (hauthorised hnone hresult).1).2 (htype₁.trans hcreate)
  · cases h

end ChangeRequest

end Irrd.Updates
