import Irrd.Base.RelatedLists
import Irrd.Updates.SubmissionHandler
import Irrd.Updates.ValidatedChanges

/-!
# Rounds of validation

No request becomes valid again. So the rounds end before their limit, and the requests that are
saved have all passed the last round, where the validators knew of exactly these requests.
-/

namespace Irrd.Updates

open Irrd.Base Irrd.Conf Irrd.Rpsl Irrd.Storage Irrd.Utils

variable {c : SubmissionContext} {db : Database}

section Shrinking

variable {s s' : Submission} {v v' : Validators} {requests requests' : List Request}

theorem mem_validIndices {i : Nat} :
    i ∈ s.validIndices ↔ ∃ r, s.requests[i]? = some r ∧ r.status.isValid = true := by
  unfold Submission.validIndices
  rw [List.mem_filter, List.mem_range, Option.any_eq_true]
  constructor
  · exact fun h ↦ h.2
  · rintro ⟨r, hr, hvalid⟩
    exact ⟨(List.getElem?_eq_some_iff.mp hr).1, r, hr, hvalid⟩

theorem length_validIndices_le (s : Submission) : s.validIndices.length ≤ s.requests.length := by
  unfold Submission.validIndices
  exact (List.length_filter_le _ _).trans List.length_range.le

/-- Places among as many requests, in their order. -/
theorem validIndices_sublist (hlength : s'.requests.length = s.requests.length)
    (hsub : ∀ i ∈ s'.validIndices, i ∈ s.validIndices) :
    s'.validIndices.Sublist s.validIndices := by
  unfold Submission.validIndices at hsub ⊢
  rw [hlength] at hsub ⊢
  refine List.monotone_filter_right _ (fun i hi ↦ ?_)
  by_cases hlt : i < s.requests.length
  · exact (List.mem_filter.mp (hsub i (List.mem_filter.mpr ⟨List.mem_range.mpr hlt, hi⟩))).2
  · rw [List.getElem?_eq_none (by omega)] at hi
    cases hi

/-- Validating a suspension does not make it valid. -/
theorem SuspensionRequest.validate_of_isValid {v : AuthValidator} {r : SuspensionRequest}
    (h : (r.validate c v).status.isValid = true) : r.validate c v = r := by
  unfold validate at h ⊢
  split
  · next hoverride =>
    rw [if_pos hoverride] at h
    cases h
  · rfl

/-- A request that is valid when it is asked was not changed by that. -/
theorem Request.checked_of_isValid {v : AuthValidator} {r : Request}
    (h : (r.checked c v).status.isValid = true) : r.checked c v = r := by
  cases r with
  | change r => rfl
  | suspension r => exact congrArg Request.suspension (SuspensionRequest.validate_of_isValid h)

/-- What validating requests in their order does to one of them. -/
def StepOf (c : SubmissionContext) (db : Database) (P : Validators → Prop) (r r' : Request) :
    Prop :=
  (r.status.isValid = false ∧ r' = r) ∨
    (r.status.isValid = true ∧ ∃ v₀ v₁, P v₀ ∧ r.validate c db v₀ = .ok (v₁, r'))

/-- Each request is validated by validators with what every validation preserves. -/
theorem validateAll_spec {P : Validators → Prop}
    (hstep : ∀ r ∈ requests, ∀ v v' r', P v → r.status.isValid = true →
      r.validate c db v = .ok (v', r') → P v')
    (hv : P v) (h : Submission.validateAll c db v requests = .ok (v', requests')) :
    P v' ∧ List.Forall₂ (StepOf c db P) requests requests' := by
  induction requests generalizing v requests' with
  | nil =>
    cases h
    exact ⟨hv, .nil⟩
  | cons r requests ih =>
    rw [Submission.validateAll] at h
    obtain ⟨⟨v₁, r'⟩, hr, h⟩ := bind_eq_ok_iff.mp h
    obtain ⟨⟨v₂, rest⟩, hrest, h⟩ := bind_eq_ok_iff.mp h
    cases h
    have hfirst : P v₁ ∧ StepOf c db P r r' := by
      unfold Request.validateIfValid at hr
      split at hr
      · next hvalid =>
        exact ⟨hstep r List.mem_cons_self v v₁ r' hv hvalid hr, .inr ⟨hvalid, v, v₁, hv, hr⟩⟩
      · next hinvalid =>
        cases hr
        exact ⟨hv, .inl ⟨by simpa using hinvalid, rfl⟩⟩
    obtain ⟨hv', hsteps⟩ := ih (fun r hr ↦ hstep r (List.mem_cons_of_mem _ hr)) hfirst.1 hrest
    exact ⟨hv', .cons hfirst.2 hsteps⟩

/-- The parts of a round. -/
theorem round_eq_ok (h : s.round c db = .ok s') :
    ∃ v v' requests, s.preloaded = .ok v ∧
      Submission.validateAll c db v s.requests = .ok (v', requests) ∧
      s' = Submission.checked c ⟨requests, v'⟩ := by
  unfold Submission.round at h
  obtain ⟨v, hv, h⟩ := bind_eq_ok_iff.mp h
  obtain ⟨⟨v', requests⟩, hall, h⟩ := bind_eq_ok_iff.mp h
  cases h
  exact ⟨v, v', requests, hv, hall, rfl⟩

/-- No request becomes valid again, and their number stays the same. -/
theorem round_shrinks (h : s.round c db = .ok s') :
    s'.requests.length = s.requests.length ∧ s'.validIndices.Sublist s.validIndices := by
  obtain ⟨v, v', requests, -, hall, rfl⟩ := round_eq_ok h
  obtain ⟨-, hsteps⟩ := validateAll_spec (P := fun _ ↦ True) (fun _ _ _ _ _ _ _ _ ↦ trivial)
    trivial hall
  have hlength : (Submission.checked c ⟨requests, v'⟩).requests.length = s.requests.length := by
    simp [Submission.checked, hsteps.length_eq]
  refine ⟨hlength, validIndices_sublist hlength (fun i hi ↦ ?_)⟩
  obtain ⟨r', hr', hvalid⟩ := mem_validIndices.mp hi
  simp only [Submission.checked, List.getElem?_map, Option.map_eq_some_iff] at hr'
  obtain ⟨r'', hr'', rfl⟩ := hr'
  obtain ⟨hlt, rfl⟩ := List.getElem?_eq_some_iff.mp hr''
  have hlt' : i < s.requests.length := hsteps.length_eq ▸ hlt
  have hstep := hsteps.get hlt' hlt
  refine mem_validIndices.mpr ⟨_, List.getElem?_eq_getElem hlt', ?_⟩
  rcases hstep with ⟨-, heq⟩ | ⟨hvalid', -⟩
  · have heq : requests[i] = s.requests[i] := heq
    rw [heq] at hvalid
    rwa [Request.checked_of_isValid hvalid] at hvalid
  · exact hvalid'

end Shrinking

section Requests

variable {rows : List RPSLDatabaseObject}

/-- A request whose text was read, and that was compared with the database. -/
inductive Request.IsNew (c : SubmissionContext) (rows : List RPSLDatabaseObject) : Request → Prop
  | change (text : List Char) (deleteReason : Option String) (r : ChangeRequest)
      (h : ChangeRequest.new c rows text deleteReason = .ok r) : IsNew c rows (.change r)
  | suspension (text : List Char) (suspensionState : String) (r : SuspensionRequest)
      (h : SuspensionRequest.new c text suspensionState = .ok r) : IsNew c rows (.suspension r)

/-- What is known of a valid change: its object, which may have had its hashes replaced since it was
read, and how it was compared with the database. -/
structure ChangeRequest.Classified (c : SubmissionContext) (rows : List RPSLDatabaseObject)
    (r : ChangeRequest) (submitted obj : ParsedObject) : Prop where
  rpslObjNew : r.rpslObjNew = some obj
  agrees : AgreesOutsideAuth submitted obj
  parsed : ∃ text strictValidation, c.parseObject text strictValidation = .ok submitted ∧
    submitted.errors = [] ∧
    (r.nonStrictMode = false → r.requestType ≠ some .delete → strictValidation = true)
  authoritative : c.render.authoritative (objectKey submitted).source = true
  current : ∀ current, r.rpslObjCurrent = some current → ∃ row ∈ rows,
    IsQueried (objectKey submitted) row ∧ c.parseObject row.objectText.toList false = .ok current
  creation : r.requestType = some .create → ∀ row ∈ rows, ¬ IsQueried (objectKey submitted) row
  isCreation : r.rpslObjCurrent = none ↔ r.requestType = some .create

/-- The object of a change has one of the classes. -/
theorem ChangeRequest.Classified.mem_objectClasses {r : ChangeRequest}
    {submitted obj : ParsedObject}
    (h : r.Classified c rows submitted obj) : submitted.objectClass ∈ objectClasses := by
  obtain ⟨text, strictValidation, hparse, -⟩ := h.parsed
  unfold SubmissionContext.parseObject at hparse
  cases hobj : rpslObjectFromText c.env text strictValidation none with
  | error e =>
    rw [hobj] at hparse
    cases hparse
  | ok obj =>
    rw [hobj] at hparse
    cases hparse
    exact Rpsl.mem_objectClasses hobj

theorem ChangeRequest.Classified.objectKey_eq {r : ChangeRequest} {submitted obj : ParsedObject}
    (h : r.Classified c rows submitted obj) : objectKey obj = objectKey submitted :=
  h.agrees.objectKey h.mem_objectClasses

/-- Validating a change keeps what is known of it. -/
theorem ChangeRequest.Classified.step {r r' : ChangeRequest}
    {submitted obj obj₁ obj₂ : ParsedObject}
    {v v' : Validators} (h : r.Classified c rows submitted obj)
    (hstep : ValidationStep c db v v' r r' obj₁ obj₂) : r'.Classified c rows submitted obj₂ := by
  have hobj : obj = obj₁ := Option.some_inj.mp (h.rpslObjNew.symm.trans hstep.before)
  refine ⟨hstep.after, h.agrees.trans (hobj ▸ hstep.agrees), ?_, h.authoritative, ?_, ?_, ?_⟩
  · rw [hstep.nonStrictMode, hstep.requestType]
    exact h.parsed
  · rw [hstep.rpslObjCurrent]
    exact h.current
  · rw [hstep.requestType]
    exact h.creation
  · rw [hstep.rpslObjCurrent, hstep.requestType]
    exact h.isCreation

theorem parseObject_of_rpslObjectFromText {text : List Char} {strictValidation : Bool}
    {obj : ParsedObject} (h : rpslObjectFromText c.env text strictValidation none = .ok obj) :
    c.parseObject text strictValidation = .ok obj := by
  unfold SubmissionContext.parseObject
  rw [h]
  rfl

/-- A request that was read has one object, in strict mode unless it is to be otherwise. -/
theorem ChangeRequest.parse_spec {text : List Char} {isDelete : Bool} {r : ChangeRequest}
    (h : ChangeRequest.parse c text isDelete = .ok r) (hvalid : r.isValid = true) :
    ∃ obj strictValidation, r.rpslObjNew = some obj ∧ r.rpslObjCurrent = none ∧
      r.requestType = (if isDelete then some .delete else none) ∧
      c.parseObject text strictValidation = .ok obj ∧ obj.errors = [] ∧
      (r.nonStrictMode = false → isDelete = false → strictValidation = true) := by
  unfold ChangeRequest.parse at h
  split at h
  · cases h
    cases hvalid
  · cases h
  · next strictObj hstrict =>
    dsimp only at h
    have herrors (obj : ParsedObject) (h : (if obj.errors = [] then UpdateRequestStatus.processing
        else .errorParsing).isValid = true) : obj.errors = [] := by
      by_contra hne
      rw [if_neg hne] at h
      cases h
    split at h
    · next hmode =>
      obtain ⟨obj, hobj, h⟩ := bind_eq_ok_iff.mp h
      cases h
      refine ⟨obj, false, rfl, rfl, rfl, hobj, herrors obj hvalid, fun hstrict' hdelete ↦ ?_⟩
      dsimp only at hstrict'
      rw [hstrict', hdelete] at hmode
      cases hmode
    · cases h
      exact ⟨strictObj, true, rfl, rfl, rfl, parseObject_of_rpslObjectFromText hstrict,
        herrors strictObj hvalid, fun _ _ ↦ rfl⟩

/-- A request is compared with the object of its key in the database. -/
theorem ChangeRequest.retrieveExistingVersion_spec {r r' : ChangeRequest} {obj : ParsedObject}
    (h : r.retrieveExistingVersion c rows obj = .ok r') :
    r'.rpslObjNew = r.rpslObjNew ∧ r'.nonStrictMode = r.nonStrictMode ∧
      r'.status = r.status ∧
      ((r'.requestType = r.requestType.or (some .create) ∧ r'.rpslObjCurrent = r.rpslObjCurrent ∧
          ∀ row ∈ rows, ¬ IsQueried (objectKey obj) row) ∨
        (r'.requestType = r.requestType.or (some .modify) ∧ ∃ row ∈ rows, ∃ current,
          IsQueried (objectKey obj) row ∧ c.parseObject row.objectText.toList false = .ok current ∧
            r'.rpslObjCurrent = some current)) := by
  obtain ⟨results, hresults, h⟩ := bind_eq_ok_iff.mp h
  have hmem (row : RPSLDatabaseObject) :
      row ∈ results ↔ row ∈ rows ∧ IsQueried (objectKey obj) row := by
    rw [mem_executeQuery_keyCalls hresults]
    constructor
    · rintro ⟨hrow, hsource, hclass, hpk⟩
      exact ⟨hrow, hsource, by simpa using hpk, by simpa using hclass⟩
    · rintro ⟨hrow, hsource, hpk, hclass⟩
      exact ⟨hrow, hsource, by simpa using hclass, by simpa using hpk⟩
  split at h
  · cases h
    refine ⟨rfl, rfl, rfl, .inl ⟨rfl, rfl, fun row hrow hqueried ↦ ?_⟩⟩
    exact absurd ((hmem row).mpr ⟨hrow, hqueried⟩) List.not_mem_nil
  · next row =>
    obtain ⟨current, hcurrent, h⟩ := bind_eq_ok_iff.mp h
    cases h
    obtain ⟨hrow, hqueried⟩ := (hmem row).mp List.mem_cons_self
    exact ⟨rfl, rfl, rfl, .inr ⟨rfl, row, hrow, current, hqueried, hcurrent, rfl⟩⟩
  · cases h

/-- A valid request is a creation, modification or deletion by what is in the database. -/
theorem ChangeRequest.classified_of_new {text : List Char} {deleteReason : Option String}
    {r : ChangeRequest} (h : ChangeRequest.new c rows text deleteReason = .ok r)
    (hvalid : r.isValid = true) : ∃ obj, r.Classified c rows obj obj := by
  obtain ⟨parsed, hparsed, h⟩ := bind_eq_ok_iff.mp h
  obtain ⟨⟨r₁, goesOn⟩, hclassify, h⟩ := bind_eq_ok_iff.mp h
  rw [pure_eq_ok_iff] at h
  -- a request that is valid in the end was valid when it was read
  have hr₁ : r₁.isValid = true ∧ r = r₁ ∧
      (goesOn = true → r₁.requestType = some .delete → r₁.rpslObjCurrent ≠ none) := by
    cases goesOn with
    | false =>
      rw [if_neg (by simp)] at h
      exact ⟨h ▸ hvalid, h.symm, nofun⟩
    | true =>
      rw [if_pos rfl] at h
      subst h
      unfold ChangeRequest.checkDeletable at hvalid ⊢
      split at hvalid
      · cases hvalid
      · next hdeletable =>
        rw [if_neg hdeletable]
        exact ⟨hvalid, rfl, fun _ htype hnone ↦ hdeletable ⟨htype, by rw [hnone]; rfl⟩⟩
  obtain ⟨hvalid₁, rfl, hdeletable⟩ := hr₁
  unfold ChangeRequest.classify at hclassify
  split at hclassify
  · next hnone =>
    cases hclassify
    obtain ⟨obj, -, hobj, -⟩ := parse_spec hparsed hvalid₁
    rw [hnone] at hobj
    cases hobj
  · next obj hobj =>
    split at hclassify
    · next hvalid₀ =>
      obtain ⟨obj', strictValidation, hobj', hcurrent, htype, hparse, herrors, hstrict⟩ :=
        parse_spec hparsed hvalid₀
      rw [hobj] at hobj'
      cases hobj'
      split at hclassify
      · cases hclassify
      · next source hsource =>
        dsimp only at hclassify
        split at hclassify
        · cases hclassify
          cases hvalid₁
        · next hauthoritative =>
          have hauthoritative : c.render.authoritative (objectKey obj).source = true := by
            unfold objectKey
            rw [hsource]
            exact not_not.mp hauthoritative
          split at hclassify
          · cases hclassify
            cases hvalid₁
          · cases hretrieve : parsed.retrieveExistingVersion c rows obj with
            | error e =>
              rw [hretrieve] at hclassify
              cases hclassify
            | ok r' =>
              rw [hretrieve] at hclassify
              cases hclassify
              obtain ⟨hnew, hmode, -, hcases⟩ := retrieveExistingVersion_spec hretrieve
              have hdelete : r.requestType ≠ some .delete → Conf.isSet deleteReason = false := by
                intro hne
                by_contra hset
                have hset : Conf.isSet deleteReason = true := by simpa using hset
                rw [hset, if_pos rfl] at htype
                rcases hcases with ⟨htype', -⟩ | ⟨htype', -⟩ <;>
                  exact hne (htype'.trans (by rw [htype]; rfl))
              have hparsedObj : ∃ text strictValidation,
                  c.parseObject text strictValidation = .ok obj ∧
                  obj.errors = [] ∧ (r.nonStrictMode = false → r.requestType ≠ some .delete →
                    strictValidation = true) :=
                ⟨text, strictValidation, hparse, herrors,
                  fun hmode' hne ↦ hstrict (hmode.symm.trans hmode') (hdelete hne)⟩
              refine ⟨obj, hnew.trans hobj, .refl obj, hparsedObj, hauthoritative, ?_, ?_, ?_⟩
              · intro current heq
                rcases hcases with ⟨-, hsame, -⟩ |
                  ⟨-, row, hrow, current', hqueried, hrowParse, hsome⟩
                · rw [hsame, hcurrent] at heq
                  cases heq
                · rw [hsome] at heq
                  cases heq
                  exact ⟨row, hrow, hqueried, hrowParse⟩
              · intro hcreate
                rcases hcases with ⟨-, -, hnone⟩ | ⟨htype', -⟩
                · exact hnone
                · rw [htype', htype] at hcreate
                  split at hcreate <;> cases hcreate
              · rcases hcases with ⟨htype', hsame, -⟩ | ⟨htype', row, -, current', -, -, hsome⟩
                · rw [hsame, hcurrent]
                  refine iff_of_true rfl ?_
                  by_contra hne
                  rw [htype', htype] at hne
                  split at hne
                  · next hset =>
                    refine hdeletable rfl ?_ (hsame.trans hcurrent)
                    rw [htype', htype, if_pos hset]
                    rfl
                  · exact hne rfl
                · rw [hsome, htype', htype]
                  refine iff_of_false nofun ?_
                  split <;> exact nofun
    · next hinvalid =>
      cases hclassify
      exact absurd hvalid₁ hinvalid

end Requests

section Preloading

variable {s s' : Submission} {v : Validators}

/-- Whether a request has one of some types. -/
instance (type : Option UpdateRequestType) (types : List UpdateRequestType) :
    Decidable (type ∈ types.map some) :=
  decidable_of_iff (types.any (fun other ↦ some other = type) = true) (by simp)

/-- The key of the new object of a valid request of some types. -/
def Request.keyOf (types : List UpdateRequestType) (r : Request) : Option ObjectKey :=
  if r.status.isValid = true ∧ r.changeType ∈ types.map some then r.rpslObjNew.map objectKey
  else none

/-- The name of the maintainer that a valid request creates. -/
def Request.createdMntner (r : Request) : Option String :=
  if r.status.isValid = true ∧ r.changeType = some .create then
    (r.rpslObjNew.filter ParsedObject.isMntner).map (fun obj ↦ display obj.pk)
  else none

/-- The keys of the new objects of valid requests of some types. -/
def Submission.keysOf (types : List UpdateRequestType) (s : Submission) : List ObjectKey :=
  s.requests.filterMap (Request.keyOf types)

/-- The names of the maintainers that valid requests create. -/
def Submission.createdMntners (s : Submission) : List String :=
  s.requests.filterMap Request.createdMntner

/-- The validators for a round know the objects of the valid requests. -/
structure PreloadedWith (s : Submission) (v : Validators) : Prop where
  preloadedNew : v.reference.preloadedNew = s.keysOf [.create, .modify]
  preloadedDeleted : v.reference.preloadedDeleted = s.keysOf [.delete]
  preApproved : v.auth.preApproved = s.createdMntners

theorem preloaded_spec (h : s.preloaded = .ok v) : PreloadedWith s v ∧
    s.validators.auth.SameLogin v.auth ∧ v.auth.mntnerDbCache = s.validators.auth.mntnerDbCache ∧
    v.reference.cache = s.validators.reference.cache := by
  unfold Submission.preloaded at h
  cases hchanges : s.validChanges with
  | error e =>
    rw [hchanges] at h
    cases h
  | ok changes =>
    rw [hchanges] at h
    cases h
    unfold Submission.validChanges Submission.validRequests at hchanges
    refine ⟨⟨map_filter_of_mapM ?_ ?_ hchanges, map_filter_of_mapM ?_ ?_ hchanges, ?_⟩, ⟨rfl⟩, rfl,
      rfl⟩
    · intro r hinvalid
      rw [Request.keyOf, if_neg (by simp [hinvalid])]
    · intro r change hchange hvalid
      split at hchange
      · cases hchange
      · next obj hobj =>
        cases hchange
        simp [Request.keyOf, hvalid, hobj]
    · intro r hinvalid
      rw [Request.keyOf, if_neg (by simp [hinvalid])]
    · intro r change hchange hvalid
      split at hchange
      · cases hchange
      · next obj hobj =>
        cases hchange
        simp [Request.keyOf, hvalid, hobj]
    · unfold AuthValidator.preApprove
      dsimp only
      rw [List.map_map]
      refine map_filter_of_mapM ?_ ?_ hchanges
      · intro r hinvalid
        rw [Request.createdMntner, if_neg (by simp [hinvalid])]
      · intro r change hchange hvalid
        split at hchange
        · cases hchange
        · next obj hobj =>
          cases hchange
          simp only [Request.createdMntner, hvalid, hobj, true_and]
          by_cases hcreate : r.changeType = some .create
          · simp only [hcreate, if_true, Option.filter, decide_true, Bool.true_and]
            cases obj.isMntner <;> rfl
          · simp [hcreate]

end Preloading

section Rounds

variable {rows : List RPSLDatabaseObject} {s s' final : Submission} {v : Validators}
  {auth : AuthValidator} {n : Nat}

/-- What holds before and after each round of a submission with the credentials of a validator. -/
structure Submission.Sound (c : SubmissionContext) (rows : List RPSLDatabaseObject)
    (auth : AuthValidator) (s : Submission) : Prop where
  classified : ∀ r, Request.change r ∈ s.requests → r.isValid = true →
    ∃ submitted obj, r.Classified c rows submitted obj
  login : auth.SameLogin s.validators.auth
  authCache : AuthValidator.CacheSound c rows s.validators.auth.mntnerDbCache
  referenceCache : ReferenceValidator.CacheSound rows (s.keysOf [.delete])
    s.validators.reference.cache

/-- What a round with these validators at its start does to a request that is valid after it. -/
inductive RoundStep (c : SubmissionContext) (db : Database) (v : Validators) :
    Request → Request → Prop
  | change (r r' : ChangeRequest) (obj obj' : ParsedObject) (v₀ v₁ : Validators)
      (hv : v.Step c db.objects.rows v₀) (hvalidate : r.validate c db v₀ = .ok (v₁, r'))
      (hstep : ChangeRequest.ValidationStep c db v₀ v₁ r r' obj obj') :
      RoundStep c db v (.change r) (.change r')
  | suspension (r : SuspensionRequest) (hoverride : v.auth.checkOverride c ≠ .none) :
      RoundStep c db v (.suspension r) (.suspension r)

/-- A request that is valid after a round was valid before it, and took a step. -/
def KeptByRound (c : SubmissionContext) (db : Database) (v : Validators) (r r' : Request) : Prop :=
  r'.status.isValid = true → r.status.isValid = true ∧ RoundStep c db v r r'

/-- A step keeps the type and key of a request. -/
theorem RoundStep.keeps {r r' : Request} (h : RoundStep c db v r r')
    (hclassified : ∀ q, r = .change q →
      ∃ submitted obj, q.Classified c db.objects.rows submitted obj) :
    r'.changeType = r.changeType ∧ r'.rpslObjNew.map objectKey = r.rpslObjNew.map objectKey ∧
      (r'.rpslObjNew.filter ParsedObject.isMntner).map (fun obj ↦ display obj.pk) =
        (r.rpslObjNew.filter ParsedObject.isMntner).map (fun obj ↦ display obj.pk) := by
  cases h with
  | suspension r hoverride => exact ⟨rfl, rfl, rfl⟩
  | change q q' obj obj' v₀ v₁ hv hvalidate hstep =>
    obtain ⟨submitted, obj₀, hc⟩ := hclassified q rfl
    have hobj : obj₀ = obj := Option.some_inj.mp (hc.rpslObjNew.symm.trans hstep.before)
    subst hobj
    have hclass : obj₀.objectClass ∈ objectClasses :=
      hc.agrees.objectClass ▸ hc.mem_objectClasses
    refine ⟨hstep.requestType, ?_, ?_⟩
    · simp only [Request.rpslObjNew, hstep.before, hstep.after, Option.map_some,
        hstep.agrees.objectKey hclass]
    · have hmntner : obj'.isMntner = obj₀.isMntner := by
        unfold ParsedObject.isMntner ParsedObject.rpslObjectClass
        rw [hstep.agrees.objectClass]
      simp only [Request.rpslObjNew, hstep.before, hstep.after, Option.filter, hmntner]
      cases obj₀.isMntner with
      | false => rfl
      | true => exact congrArg (fun pk ↦ some (display pk)) (hstep.agrees.pk hclass)

/-- Validators that are preloaded for a sound submission. -/
theorem sound_of_preloaded (hs : s.Sound c rows auth) (h : s.preloaded = .ok v) :
    v.Sound c rows ∧ v.auth.checkOverride c = auth.checkOverride c := by
  obtain ⟨hpreloaded, hauth, hmntners, hcache⟩ := preloaded_spec h
  refine ⟨⟨?_, ?_⟩, ?_⟩
  · rw [hmntners]
    exact hs.authCache
  · rw [hpreloaded.preloadedDeleted, hcache]
    exact hs.referenceCache
  · rw [(hs.login.trans hauth).checkOverride]

/-- A request that differs at most in what its checks have changed: its status, its messages and the
hashes of its object. It is not valid again. -/
inductive Request.Continues : Request → Request → Prop
  | change (r r' : ChangeRequest) (requestType : r'.requestType = r.requestType)
      (rpslObjCurrent : r'.rpslObjCurrent = r.rpslObjCurrent)
      (nonStrictMode : r'.nonStrictMode = r.nonStrictMode)
      (rpslObjNew : ∀ obj', r'.rpslObjNew = some obj' →
        ∃ obj, r.rpslObjNew = some obj ∧ AgreesOutsideAuth obj obj')
      (isValid : r'.isValid = true → r.isValid = true) : Continues (.change r) (.change r')
  | suspension (r r' : SuspensionRequest)
      (isValid : r'.status.isValid = true → r.status.isValid = true) :
      Continues (.suspension r) (.suspension r')

theorem Request.Continues.refl (r : Request) : r.Continues r := by
  cases r with
  | change r => exact .change r r rfl rfl rfl (fun obj hobj ↦ ⟨obj, hobj, .refl obj⟩) id
  | suspension r => exact .suspension r r id

theorem Request.Continues.trans {r r' r'' : Request} (h : r.Continues r') (h' : r'.Continues r'') :
    r.Continues r'' := by
  cases h with
  | change q q' htype hcurrent hmode hobj hvalid =>
    cases h' with
    | change _ q'' htype' hcurrent' hmode' hobj' hvalid' =>
      refine .change q q'' (htype'.trans htype) (hcurrent'.trans hcurrent) (hmode'.trans hmode)
        (fun obj'' hobj'' ↦ ?_) (fun h ↦ hvalid (hvalid' h))
      obtain ⟨obj', hsome', hagrees'⟩ := hobj' obj'' hobj''
      obtain ⟨obj, hsome, hagrees⟩ := hobj obj' hsome'
      exact ⟨obj, hsome, hagrees.trans hagrees'⟩
  | suspension q q' hvalid =>
    cases h' with
    | suspension _ q'' hvalid' => exact .suspension q q'' (fun h ↦ hvalid (hvalid' h))

theorem SuspensionRequest.continues_validate (a : AuthValidator) (r : SuspensionRequest) :
    (Request.suspension r).Continues (.suspension (r.validate c a)) := by
  refine .suspension r _ (fun hvalid ↦ ?_)
  rwa [SuspensionRequest.validate_of_isValid hvalid] at hvalid

theorem Request.continues_checked (a : AuthValidator) (r : Request) :
    r.Continues (r.checked c a) := by
  cases r with
  | change r => exact .refl _
  | suspension r => exact r.continues_validate a

/-- Validating a request continues it. -/
theorem Request.continues_validate {v₀ v₁ : Validators} {r r' : Request}
    (hsound : v₀.Sound c db.objects.rows) (hvalid : r.status.isValid = true)
    (h : r.validate c db v₀ = .ok (v₁, r')) : r.Continues r' := by
  cases r with
  | change q =>
    obtain ⟨⟨w, q'⟩, hq, heq⟩ := map_eq_ok_iff.mp h
    cases heq
    obtain ⟨obj, obj', hstep⟩ := ChangeRequest.validate_spec hsound hq
    refine .change q q' hstep.requestType hstep.rpslObjCurrent hstep.nonStrictMode
      (fun obj'' hobj'' ↦ ⟨obj, hstep.before, ?_⟩) (fun _ ↦ hvalid)
    cases hstep.after.symm.trans hobj''
    exact hstep.agrees
  | suspension q =>
    cases h
    exact q.continues_validate v₀.auth

/-- A round of a sound submission: it stays sound, and what it keeps took a step. -/
theorem round_spec (hs : s.Sound c db.objects.rows auth) (h : s.round c db = .ok s') :
    ∃ v, s.preloaded = .ok v ∧ List.Forall₂ (KeptByRound c db v) s.requests s'.requests ∧
      List.Forall₂ Request.Continues s.requests s'.requests ∧
      s'.Sound c db.objects.rows auth := by
  obtain ⟨v, v', requests, hv, hall, rfl⟩ := round_eq_ok h
  obtain ⟨hsound, hoverride⟩ := sound_of_preloaded hs hv
  obtain ⟨hpreloaded, hauth, -, -⟩ := preloaded_spec hv
  obtain ⟨hv', hsteps⟩ := validateAll_spec (P := v.Step c db.objects.rows) (by
    intro r hr v₀ v₁ r' hv₀ hvalid hvalidate
    cases r with
    | change q =>
      cases hq : q.validate c db v₀ with
      | error e =>
        simp only [Request.validate, hq] at hvalidate
        cases hvalidate
      | ok result =>
        obtain ⟨w, q'⟩ := result
        simp only [Request.validate, hq] at hvalidate
        cases hvalidate
        obtain ⟨obj, obj', hstep⟩ := ChangeRequest.validate_spec hv₀.sound hq
        exact ⟨hv₀.auth.trans hstep.validators.auth, hv₀.reference.trans hstep.validators.reference,
          hstep.validators.sound⟩
    | suspension q =>
      cases hvalidate
      exact hv₀) ⟨.refl _, ⟨rfl, rfl⟩, hsound⟩ hall
  have hkept : List.Forall₂ (KeptByRound c db v) s.requests
      (requests.map (Request.checked c v'.auth)) := by
    rw [List.forall₂_map_right_iff]
    refine hsteps.imp (fun r r' hstep hvalid ↦ ?_)
    have hsame : r'.checked c v'.auth = r' := Request.checked_of_isValid hvalid
    rw [hsame] at hvalid ⊢
    rcases hstep with ⟨hinvalid, rfl⟩ | ⟨hvalid', v₀, v₁, hv₀, hvalidate⟩
    · rw [hinvalid] at hvalid
      cases hvalid
    · refine ⟨hvalid', ?_⟩
      cases r with
      | change q =>
        cases hq : q.validate c db v₀ with
        | error e =>
          simp only [Request.validate, hq] at hvalidate
          cases hvalidate
        | ok result =>
          obtain ⟨w, q'⟩ := result
          simp only [Request.validate, hq] at hvalidate
          cases hvalidate
          obtain ⟨obj, obj', hstep⟩ := ChangeRequest.validate_spec hv₀.sound hq
          exact .change q q' obj obj' v₀ w hv₀ hq hstep
      | suspension q =>
        cases hvalidate
        have hvalidated : (q.validate c v₀.auth).validate c v'.auth = q.validate c v₀.auth :=
          SuspensionRequest.validate_of_isValid (by
            have hstatus := hvalid
            rw [← hsame] at hstatus
            exact hstatus)
        have hfirst : q.validate c v₀.auth = q := SuspensionRequest.validate_of_isValid hvalid
        rw [hfirst]
        refine .suspension q (fun hnone ↦ ?_)
        have hfailed : (q.validate c v₀.auth).status = .errorAuth := by
          unfold SuspensionRequest.validate
          rw [if_pos (hv₀.auth.checkOverride.trans hnone)]
        have hstatus : (q.validate c v₀.auth).status.isValid = true := hvalid
        rw [hfailed] at hstatus
        cases hstatus
  have hcontinues : List.Forall₂ Request.Continues s.requests
      (requests.map (Request.checked c v'.auth)) := by
    rw [List.forall₂_map_right_iff]
    refine hsteps.imp (fun r r' hstep ↦ ?_)
    rcases hstep with ⟨-, rfl⟩ | ⟨hvalid, v₀, v₁, hv₀, hvalidate⟩
    · exact r'.continues_checked v'.auth
    · exact (Request.continues_validate hv₀.sound hvalid hvalidate).trans
        (r'.continues_checked v'.auth)
  refine ⟨v, hv, hkept, hcontinues, ?_⟩
  have hclassified (r : Request) (hr : r ∈ s.requests) (hvalid : r.status.isValid = true)
      (q : ChangeRequest)
      (heq : r = .change q) : ∃ submitted obj, q.Classified c db.objects.rows submitted obj := by
    subst heq
    exact hs.classified q hr hvalid
  refine ⟨fun q hq hvalid ↦ ?_, ?_, hv'.sound.auth, fun key hkey ↦ ?_⟩
  · obtain ⟨r, hr, hkeptBy⟩ := exists_of_forall₂ hkept hq
    obtain ⟨hvalid', hstep⟩ := hkeptBy hvalid
    cases hstep with
    | change q₀ _ obj obj' v₀ v₁ hv₀ hvalidate hstep =>
      obtain ⟨submitted, obj₀, hc⟩ := hs.classified q₀ hr hvalid'
      exact ⟨submitted, obj', hc.step hstep⟩
  · exact (hs.login.trans hauth).trans hv'.auth.sameLogin
  · obtain ⟨hnotDeleted, hrow⟩ := hv'.sound.reference key hkey
    refine ⟨fun hmem ↦ hnotDeleted ?_, hrow⟩
    rw [hv'.reference.preloadedDeleted, hpreloaded.preloadedDeleted]
    obtain ⟨r', hr', hkeyOf⟩ := List.mem_filterMap.mp hmem
    obtain ⟨r, hr, hkeptBy⟩ := exists_of_forall₂ hkept hr'
    unfold Request.keyOf at hkeyOf
    split at hkeyOf
    · next hvalid =>
      obtain ⟨hvalid', hstep⟩ := hkeptBy hvalid.1
      obtain ⟨htype, hobj, -⟩ := hstep.keeps (hclassified r hr hvalid')
      refine List.mem_filterMap.mpr ⟨r, hr, ?_⟩
      rw [Request.keyOf, if_pos ⟨hvalid', htype ▸ hvalid.2⟩, ← hobj]
      exact hkeyOf
    · cases hkeyOf

end Rounds

section LastRound

variable {rows : List RPSLDatabaseObject} {s s' final last : Submission} {v : Validators}
  {auth : AuthValidator} {n : Nat} {requests : List Request}

/-- The submission is sound before the first round. -/
theorem sound_start (hnew : ∀ r ∈ requests, r.IsNew c rows) (hcache : auth.mntnerDbCache = []) :
    ((Submission.start requests auth).checked c).Sound c rows auth := by
  refine ⟨fun r hr hvalid ↦ ?_, ⟨rfl⟩, ?_, fun key hkey ↦ nomatch hkey⟩
  · obtain ⟨r₀, hr₀, heq⟩ := List.mem_map.mp hr
    cases r₀ with
    | suspension q => cases heq
    | change q =>
      cases heq
      cases hnew _ hr₀ with
      | change text deleteReason _ h =>
        obtain ⟨obj, hclassified⟩ := ChangeRequest.classified_of_new h hvalid
        exact ⟨obj, obj, hclassified⟩
  · change AuthValidator.CacheSound c rows auth.mntnerDbCache
    rw [hcache]
    exact fun obj hobj ↦ nomatch hobj

/-- The last round: its validators know of exactly the requests that are valid after it, and all of
these have passed it. -/
structure LastRound (c : SubmissionContext) (db : Database) (auth : AuthValidator) (v : Validators)
    (final : Submission) : Prop where
  preloaded : PreloadedWith final v
  sound : v.Sound c db.objects.rows
  login : auth.SameLogin v.auth
  change : ∀ r', Request.change r' ∈ final.requests → r'.isValid = true →
    ∃ (r : ChangeRequest) (submitted obj obj' : ParsedObject) (v₀ v₁ : Validators),
      v.Step c db.objects.rows v₀ ∧ r.validate c db v₀ = .ok (v₁, r') ∧
      ChangeRequest.ValidationStep c db v₀ v₁ r r' obj obj' ∧
      r'.Classified c db.objects.rows submitted obj'
  suspension : ∀ r, Request.suspension r ∈ final.requests → r.status.isValid = true →
    auth.checkOverride c ≠ .none

/-- Requests that are valid at the same places. -/
theorem forall₂_isValid_iff (hkept : List.Forall₂ (KeptByRound c db v) s.requests s'.requests)
    (hsame : s'.validIndices = s.validIndices) :
    List.Forall₂ (fun r r' ↦ (r.status.isValid = true ↔ r'.status.isValid = true) ∧
      KeptByRound c db v r r') s.requests s'.requests := by
  refine List.forall₂_iff_get.mpr ⟨hkept.length_eq, fun i hi hi' ↦ ⟨?_, hkept.get hi hi'⟩⟩
  have hvalid (t : Submission) (hlt : i < t.requests.length) :
      i ∈ t.validIndices ↔ t.requests[i].status.isValid = true := by
    rw [mem_validIndices, List.getElem?_eq_getElem hlt]
    simp
  have hplaces : i ∈ s.validIndices ↔ i ∈ s'.validIndices := by rw [hsame]
  exact (hvalid s hi).symm.trans (hplaces.trans (hvalid s' hi'))

/-- A round that left the valid requests as they were had validators that know of them. -/
theorem preloadedWith_of_round (hs : s.Sound c db.objects.rows auth)
    (hpreloaded : PreloadedWith s v)
    (hkept : List.Forall₂ (KeptByRound c db v) s.requests s'.requests)
    (hsame : s'.validIndices = s.validIndices) : PreloadedWith s' v := by
  have hiff := forall₂_isValid_iff hkept hsame
  -- the items of both lists give the same keys, valid or not
  have hcollect {A : Type} (f : Request → Option A)
      (hinvalid : ∀ r, r.status.isValid = false → f r = none)
      (hstep : ∀ r r', r ∈ s.requests → r.status.isValid = true → r'.status.isValid = true →
        RoundStep c db v r r' → f r' = f r) :
      s'.requests.filterMap f = s.requests.filterMap f := by
    have hmem := List.forall₂_iff_get.mp hiff
    refine (filterMap_eq_of_forall₂ (List.forall₂_iff_get.mpr
      ⟨hmem.1, fun i hi hi' ↦ ?_⟩)).symm
    obtain ⟨hvalid, hkeptBy⟩ := hmem.2 i hi hi'
    cases hr : (s.requests.get ⟨i, hi⟩).status.isValid with
    | false =>
      have hr' : (s'.requests.get ⟨i, hi'⟩).status.isValid = false := by
        rw [Bool.eq_false_iff, Ne, ← hvalid, hr]
        exact Bool.false_ne_true
      rw [hinvalid _ hr, hinvalid _ hr']
    | true =>
      have hr' := hvalid.mp hr
      exact (hstep _ _ (List.get_mem _ _) hr hr' (hkeptBy hr').2).symm
  have hkeeps (r r' : Request) (hr : r ∈ s.requests) (hvalid : r.status.isValid = true)
      (hstep : RoundStep c db v r r') := hstep.keeps (fun q heq ↦ by
    subst heq
    exact hs.classified q hr hvalid)
  have hkeys (types : List UpdateRequestType) : s'.keysOf types = s.keysOf types := by
    refine hcollect _ (fun r hr ↦ by simp [Request.keyOf, hr])
      (fun r r' hr hvalid hvalid' hstep ↦ ?_)
    obtain ⟨htype, hobj, -⟩ := hkeeps r r' hr hvalid hstep
    rw [Request.keyOf, Request.keyOf, hvalid, hvalid', htype, hobj]
  have hmntners : s'.createdMntners = s.createdMntners := by
    refine hcollect _ (fun r hr ↦ by simp [Request.createdMntner, hr])
      (fun r r' hr hvalid hvalid' hstep ↦ ?_)
    obtain ⟨htype, -, hmntner⟩ := hkeeps r r' hr hvalid hstep
    rw [Request.createdMntner, Request.createdMntner, hvalid, hvalid', htype, hmntner]
  exact ⟨by rw [hkeys, hpreloaded.preloadedNew], by rw [hkeys, hpreloaded.preloadedDeleted],
    by rw [hmntners, hpreloaded.preApproved]⟩

/-- Without valid requests, validators can be preloaded with them. -/
theorem exists_preloaded_of_nil (hnone : s.validIndices = []) : ∃ v, s.preloaded = .ok v := by
  have hrequests : s.validRequests = [] := by
    refine List.filter_eq_nil_iff.mpr (fun r hr hvalid ↦ ?_)
    obtain ⟨i, hi, rfl⟩ := List.getElem_of_mem hr
    have hmem : i ∈ s.validIndices :=
      mem_validIndices.mpr ⟨_, List.getElem?_eq_getElem hi, hvalid⟩
    rw [hnone] at hmem
    cases hmem
  unfold Submission.preloaded Submission.validChanges
  rw [hrequests]
  exact ⟨_, rfl⟩

/-- When the rounds end, there was a last round, or there are no valid requests. -/
theorem resolve_lastRound (hnew : ∀ r ∈ requests, r.IsNew c db.objects.rows)
    (hcache : auth.mntnerDbCache = [])
    (h : (Submission.start requests auth).resolve c db = .ok (final, n)) :
    n ≤ requests.length + 1 ∧
      final.validIndices.Sublist ((Submission.start requests auth).checked c).validIndices ∧
      List.Forall₂ Request.Continues requests final.requests ∧
      final.Sound c db.objects.rows auth ∧ ∃ v, LastRound c db auth v final := by
  have hstart : List.Forall₂ Request.Continues requests
      ((Submission.start requests auth).checked c).requests := by
    change List.Forall₂ Request.Continues requests (requests.map (Request.checked c auth))
    rw [List.forall₂_map_right_iff]
    exact List.forall₂_same.mpr (fun r _ ↦ r.continues_checked auth)
  obtain ⟨hcount, hsub, ⟨hfinal, hcontinues⟩, hlast⟩ := rounds_spec
    (P := fun s ↦ s.Sound c db.objects.rows auth ∧
      List.Forall₂ Request.Continues requests s.requests)
    (fun s s' hs hround ↦ by
      obtain ⟨-, -, -, hcontinues, hs'⟩ := round_spec hs.1 hround
      exact ⟨hs', forall₂_comp (fun _ _ _ h h' ↦ h.trans h') hs.2 hcontinues⟩)
    (fun s s' _ hround ↦ (round_shrinks hround).2) ⟨sound_start hnew hcache, hstart⟩ h
  have hlength := length_validIndices_le ((Submission.start requests auth).checked c)
  have hrequests : ((Submission.start requests auth).checked c).requests.length =
      requests.length := by
    simp [Submission.checked, Submission.start]
  refine ⟨by omega, hsub, hcontinues, hfinal, ?_⟩
  rcases hlast with ⟨-, rfl, hnone⟩ | ⟨last, ⟨hlast, -⟩, hround, hsame⟩
  · obtain ⟨v, hv⟩ := exists_preloaded_of_nil hnone
    obtain ⟨hsound, -⟩ := sound_of_preloaded hfinal hv
    obtain ⟨hpreloaded, hlogin, -, -⟩ := preloaded_spec hv
    have hinvalid (r : Request) (hr : r ∈ ((Submission.start requests auth).checked c).requests)
        (hvalid : r.status.isValid = true) : False := by
      obtain ⟨i, hi, rfl⟩ := List.getElem_of_mem hr
      have hmem := mem_validIndices.mpr ⟨_, List.getElem?_eq_getElem hi, hvalid⟩
      rw [hnone] at hmem
      cases hmem
    exact ⟨v, hpreloaded, hsound, hfinal.login.trans hlogin,
      fun r hr hvalid ↦ (hinvalid _ hr hvalid).elim, fun r hr hvalid ↦ (hinvalid _ hr hvalid).elim⟩
  · obtain ⟨v, hv, hkept, -, -⟩ := round_spec hlast hround
    obtain ⟨hsound, hoverride⟩ := sound_of_preloaded hlast hv
    obtain ⟨hpreloaded, hlogin, -, -⟩ := preloaded_spec hv
    refine ⟨v, preloadedWith_of_round hlast hpreloaded hkept hsame, hsound,
      hlast.login.trans hlogin, fun r' hr' hvalid ↦ ?_, fun r' hr' hvalid ↦ ?_⟩
    · obtain ⟨r, hr, hkeptBy⟩ := exists_of_forall₂ hkept hr'
      obtain ⟨hvalid', hstep⟩ := hkeptBy hvalid
      cases hstep with
      | change q _ obj obj' v₀ v₁ hv₀ hvalidate hstep =>
        obtain ⟨submitted, obj₀, hclassified⟩ := hlast.classified q hr hvalid'
        exact ⟨q, submitted, obj, obj', v₀, v₁, hv₀, hvalidate, hstep, hclassified.step hstep⟩
    · obtain ⟨r, hr, hkeptBy⟩ := exists_of_forall₂ hkept hr'
      obtain ⟨-, hstep⟩ := hkeptBy hvalid
      cases hstep with
      | suspension _ hsuspension => rwa [hoverride] at hsuspension

/-- The rounds end before their limit. -/
theorem resolve_eq (s : Submission) (excessive : SubmissionException) {limit : Nat}
    (hlimit : s.requests.length < limit) :
    rounds Submission.validIndices (Submission.round c db) excessive limit [] (s.checked c) =
      s.resolve c db := by
  have hlength := length_validIndices_le (s.checked c)
  have hrequests : (s.checked c).requests.length = s.requests.length := by
    simp [Submission.checked]
  exact rounds_eq_of_lt (fun s s' hround ↦ (round_shrinks hround).2) (by omega) (by omega)

end LastRound

end Irrd.Updates
