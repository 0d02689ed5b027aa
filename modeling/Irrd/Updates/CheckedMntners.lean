import Irrd.Base.Fallible
import Irrd.Rpsl.ParserExceptions
import Irrd.Updates.ObjectQueries

/-!
# Checked maintainers

What an authentication validator has established when its checks pass. The maintainers that it
compares with the credentials are objects of the database, some of them from its cache, unless they
are approved because the same submission creates them.
-/

namespace Irrd.Updates

open Irrd.Base Irrd.Rpsl Irrd.Storage Irrd.Utils

section Objects

/-- Two objects of a class that agree in all attributes but their auth lines. -/
structure AgreesOutsideAuth (obj obj' : ParsedObject) : Prop where
  objectClass : obj'.objectClass = obj.objectClass
  get : ∀ key ≠ "auth".toList, obj'.parsedData.get key = obj.parsedData.get key

variable {obj obj' obj'' : ParsedObject}

theorem AgreesOutsideAuth.refl (obj : ParsedObject) : AgreesOutsideAuth obj obj :=
  ⟨rfl, fun _ _ ↦ rfl⟩

theorem AgreesOutsideAuth.symm (h : AgreesOutsideAuth obj obj') : AgreesOutsideAuth obj' obj :=
  ⟨h.objectClass.symm, fun key hkey ↦ (h.get key hkey).symm⟩

theorem AgreesOutsideAuth.trans (h : AgreesOutsideAuth obj obj')
    (h' : AgreesOutsideAuth obj' obj'') : AgreesOutsideAuth obj obj'' :=
  ⟨h'.objectClass.trans h.objectClass, fun key hkey ↦ (h'.get key hkey).trans (h.get key hkey)⟩

/-- Replacing the hashes of a maintainer leaves the other attributes alone. -/
theorem agreesOutsideAuth_forceSingleNewPassword (f : PasswordHashFunctions) (obj : ParsedObject)
    (password : List Char) : AgreesOutsideAuth obj (obj.forceSingleNewPassword f password) := by
  refine ⟨rfl, fun key hkey ↦ ?_⟩
  unfold ParsedObject.forceSingleNewPassword ParsedObject.updateAttributeValue
  rw [ParsedData.get_set, if_neg hkey]

/-- Auth lines are neither part of a key nor refer to objects. -/
theorem auth_notMem : ∀ c ∈ objectClasses,
    "auth" ∉ c.pkFields ∧ "auth" ∉ c.referringStrongFields.map Prod.fst := by
  decide

theorem AgreesOutsideAuth.values (h : AgreesOutsideAuth obj obj') {key : String}
    (hkey : key ≠ "auth") : obj'.values key = obj.values key := by
  unfold ParsedObject.values
  rw [h.get key.toList (fun heq ↦ hkey (String.toList_inj.mp heq))]

theorem AgreesOutsideAuth.source (h : AgreesOutsideAuth obj obj') : obj'.source = obj.source := by
  unfold ParsedObject.source
  rw [h.get _ (by decide)]

theorem AgreesOutsideAuth.pk (h : AgreesOutsideAuth obj obj')
    (hclass : obj.objectClass ∈ objectClasses) : obj'.pk = obj.pk := by
  unfold ParsedObject.pk
  rw [h.objectClass]
  congr 2
  refine List.map_congr_left (fun name hname ↦ ?_)
  unfold ParsedObject.textOf
  rw [h.get]
  intro heq
  exact (auth_notMem _ hclass).1 (String.toList_inj.mp heq ▸ hname)

theorem AgreesOutsideAuth.objectKey (h : AgreesOutsideAuth obj obj')
    (hclass : obj.objectClass ∈ objectClasses) : objectKey obj' = objectKey obj := by
  unfold Updates.objectKey ParsedObject.rpslObjectClass
  rw [h.pk hclass, h.source, h.objectClass]

theorem AgreesOutsideAuth.referredStrongObjects (h : AgreesOutsideAuth obj obj')
    (hclass : obj.objectClass ∈ objectClasses) :
    obj'.referredStrongObjects = obj.referredStrongObjects := by
  unfold ParsedObject.referredStrongObjects
  rw [h.objectClass]
  refine List.filterMap_congr (fun field hfield ↦ ?_)
  have hname : field.1 ≠ "auth" := by
    intro heq
    exact (auth_notMem _ hclass).2 (heq ▸ List.mem_map_of_mem hfield)
  dsimp only
  rw [h.values hname]

end Objects

namespace AuthValidator

/-- Two validators that differ at most in the maintainers they have found. -/
structure SameCredentials (v v' : AuthValidator) : Prop where
  eq : v' = { v with mntnerDbCache := v'.mntnerDbCache }

/-- Two validators of one submission, which differ at most in the maintainers that they have found
or approved. -/
structure SameLogin (v v' : AuthValidator) : Prop where
  eq : v' = { v with mntnerDbCache := v'.mntnerDbCache, preApproved := v'.preApproved }

section Credentials

variable {c : SubmissionContext} {v v' v'' : AuthValidator}

theorem SameCredentials.refl (v : AuthValidator) : SameCredentials v v := ⟨rfl⟩

theorem SameCredentials.trans (h : SameCredentials v v') (h' : SameCredentials v' v'') :
    SameCredentials v v'' :=
  ⟨by rw [h'.eq, h.eq]⟩

theorem SameCredentials.preApproved (h : SameCredentials v v') :
    v'.preApproved = v.preApproved := by
  rw [h.eq]

theorem SameCredentials.checkOverride (h : SameCredentials v v') :
    v'.checkOverride c = v.checkOverride c := by
  rw [h.eq]
  rfl

theorem SameCredentials.sameLogin (h : SameCredentials v v') : SameLogin v v' :=
  ⟨by rw [h.eq]⟩

theorem SameLogin.trans (h : SameLogin v v') (h' : SameLogin v' v'') : SameLogin v v'' :=
  ⟨by rw [h'.eq, h.eq]⟩

theorem SameLogin.checkOverride (h : SameLogin v v') : v'.checkOverride c = v.checkOverride c := by
  rw [h.eq]
  rfl

/-- The names and objects that are checked depend on the credentials only. -/
theorem SameCredentials.checkMntnerName (h : SameCredentials v v') :
    v'.checkMntnerName c = v.checkMntnerName c := by
  rw [h.eq]
  rfl

theorem SameCredentials.checkMntnerObject (h : SameCredentials v v') :
    v'.checkMntnerObject c = v.checkMntnerObject c := by
  rw [h.eq]
  rfl

end Credentials

section Mntners

variable {c : SubmissionContext} {rows : List RPSLDatabaseObject} {v v' : AuthValidator}
  {names : List String} {source : String}

/-- A maintainer as it is parsed from the database. -/
def IsStoredMntner (c : SubmissionContext) (rows : List RPSLDatabaseObject) (obj : ParsedObject) :
    Prop :=
  ∃ row ∈ rows, row.objectClass = "mntner" ∧ c.parseObject row.objectText.toList false = .ok obj

/-- A maintainer from the database that some names of a source refer to, by its row or by itself. -/
def IsListedMntner (c : SubmissionContext) (rows : List RPSLDatabaseObject) (names : List String)
    (source : String) (obj : ParsedObject) : Prop :=
  ∃ row ∈ rows, row.objectClass = "mntner" ∧ c.parseObject row.objectText.toList false = .ok obj ∧
    ((row.source = queriedName source ∧ row.rpslPk ∈ names.map queriedName) ∨
      ((objectKey obj).source = source ∧ (objectKey obj).rpslPk ∈ names))

/-- A cache of maintainers from the database. -/
def CacheSound (c : SubmissionContext) (rows : List RPSLDatabaseObject)
    (cache : List ParsedObject) : Prop :=
  ∀ obj ∈ cache, IsStoredMntner c rows obj

theorem mem_foldl_addToCache {retrieved cache : List ParsedObject} {obj : ParsedObject}
    (h : obj ∈ retrieved.foldl addToCache cache) : obj ∈ cache ∨ obj ∈ retrieved := by
  induction retrieved generalizing cache with
  | nil => exact .inl h
  | cons first retrieved ih =>
    rcases ih h with hcache | hretrieved
    · unfold addToCache at hcache
      split at hcache
      · exact .inl hcache
      · rcases List.mem_append.mp hcache with hcache | hfirst
        · exact .inl hcache
        · exact .inr (List.mem_singleton.mp hfirst ▸ List.mem_cons_self)
    · exact .inr (List.mem_cons_of_mem _ hretrieved)

/-- Maintainers that are resolved are those that the names refer to, and a sound cache stays sound.
-/
theorem resolveMntners_spec {mntnerObjs : List ParsedObject}
    (hcache : CacheSound c rows v.mntnerDbCache)
    (h : v.resolveMntners c rows names source = .ok (v', mntnerObjs)) :
    SameCredentials v v' ∧ CacheSound c rows v'.mntnerDbCache ∧
      ∀ obj ∈ mntnerObjs, IsListedMntner c rows names source obj := by
  have hcached (obj : ParsedObject) (hobj : obj ∈ v.cachedMntners c names source) :
      IsListedMntner c rows names source obj := by
    unfold cachedMntners at hobj
    obtain ⟨hmem, hnamed⟩ := List.mem_filter.mp hobj
    obtain ⟨row, hrow, hclass, hparse⟩ := hcache obj ((c.cacheOrder.perm _).mem_iff.mp hmem)
    obtain ⟨hpk, hsource⟩ := of_decide_eq_true hnamed
    exact ⟨row, hrow, hclass, hparse, .inr ⟨hsource, hpk⟩⟩
  unfold resolveMntners at h
  dsimp only at h
  split at h
  · cases h
    exact ⟨.refl v, hcache, hcached⟩
  · obtain ⟨results, hresults, h⟩ := bind_eq_ok_iff.mp h
    obtain ⟨retrieved, hretrieved, h⟩ := bind_eq_ok_iff.mp h
    cases h
    have hlisted (obj : ParsedObject) (hobj : obj ∈ retrieved) :
        ∃ row ∈ rows, row.objectClass = "mntner" ∧
          c.parseObject row.objectText.toList false = .ok obj ∧ row.source = queriedName source ∧
          row.rpslPk ∈ names.map queriedName := by
      obtain ⟨row, hrow, hparse⟩ := exists_of_mem_mapM hretrieved hobj
      obtain ⟨hmem, hsource, hclass, hpk⟩ := (mem_executeQuery_keyCalls hresults).mp hrow
      refine ⟨row, hmem, List.mem_singleton.mp hclass, hparse, hsource, ?_⟩
      obtain ⟨name, hname, hpk⟩ := List.mem_map.mp hpk
      exact List.mem_map.mpr ⟨name, (List.mem_filter.mp hname).1, hpk⟩
    refine ⟨⟨rfl⟩, fun obj hobj ↦ ?_, fun obj hobj ↦ ?_⟩
    · rcases mem_foldl_addToCache hobj with hobj | hobj
      · exact hcache obj hobj
      · obtain ⟨row, hrow, hclass, hparse, -⟩ := hlisted obj hobj
        exact ⟨row, hrow, hclass, hparse⟩
    · rcases List.mem_append.mp hobj with hobj | hobj
      · exact hcached obj hobj
      · obtain ⟨row, hrow, hclass, hparse, hnamed⟩ := hlisted obj hobj
        exact ⟨row, hrow, hclass, hparse, .inl hnamed⟩

/-- How the credentials of a submission authenticate one of some maintainers of a source, for a
request about an object. -/
inductive Authenticates (c : SubmissionContext) (rows : List RPSLDatabaseObject) (v : AuthValidator)
    (rpslObjNew : ParsedObject) (names : List String) (source : String) : Prop
  | preApproved (name : String) (hname : name ∈ names) (happroved : name ∈ v.preApproved)
  | internal (user : AuthUser) (mntner : AuthMntner)
      (huser : v.internalAuthenticatedUser = some user)
      (hmntner : mntner ∈ userMntnerSet user rpslObjNew mntner.rpslMntnerPk source)
      (hname : mntner.rpslMntnerPk ∈ names) (hsource : mntner.rpslMntnerSource = source)
  | apiKey (t : AuthApiToken) (htoken : t ∈ c.authApiTokens) (hkey : t.token ∈ v.apiKeys)
      (hvalid : t.validFor v.origin v.remoteIp = true) (hclass : rpslObjNew.isMntner = false)
      (hname : t.mntner.rpslMntnerPk ∈ names) (hsource : t.mntner.rpslMntnerSource = source)
  | mntner (obj : ParsedObject) (hobj : IsListedMntner c rows names source obj)
      (hverified : (obj.verifyAuth c.env c.hashFunctions v.passwords v.keycertObjPk).isSome = true)

theorem mntnerMatchesInternalAuth_eq_some {rpslObjNew : ParsedObject} {rpslPk : String}
    {mntner : AuthMntner} (h : v.mntnerMatchesInternalAuth rpslObjNew rpslPk source = some mntner) :
    ∃ user, v.internalAuthenticatedUser = some user ∧
      mntner ∈ userMntnerSet user rpslObjNew rpslPk source ∧ mntner.rpslMntnerPk = rpslPk ∧
      mntner.rpslMntnerSource = source := by
  unfold mntnerMatchesInternalAuth at h
  split at h
  · cases h
  · next user huser =>
    have hfound := List.find?_some h
    obtain ⟨hpk, hsource⟩ := of_decide_eq_true hfound
    exact ⟨user, huser, List.mem_of_find?_eq_some h, hpk.symm, hsource.symm⟩

theorem apiKeyMatchForMntner_eq_some {rpslObjNew : ParsedObject} {rpslPk : String}
    {t : AuthApiToken} (h : v.apiKeyMatchForMntner c rpslObjNew rpslPk source = some t) :
    t ∈ c.authApiTokens ∧ t.token ∈ v.apiKeys ∧ t.validFor v.origin v.remoteIp = true ∧
      rpslObjNew.isMntner = false ∧ t.mntner.rpslMntnerPk = rpslPk ∧
      t.mntner.rpslMntnerSource = source := by
  unfold apiKeyMatchForMntner at h
  split at h
  · cases h
  · next hguard =>
    rw [not_or] at hguard
    have hfound := List.find?_some h
    obtain ⟨hpk, hsource, hkey, hvalid⟩ := of_decide_eq_true hfound
    exact ⟨List.mem_of_find?_eq_some h, hkey, hvalid, by simpa using hguard.2, hpk, hsource⟩

/-- What a name gives without an object authenticates it, and not by an override. -/
theorem checkMntnerName_eq_some {rpslObjNew : ParsedObject} {mntnerObjs : List ParsedObject}
    {name : String} {result : MntnerCheckResult} (hname : name ∈ names)
    (h : v.checkMntnerName c rpslObjNew source mntnerObjs name = some result) :
    result.authMethod.usedOverride = false ∧ Authenticates c rows v rpslObjNew names source := by
  unfold checkMntnerName at h
  split at h
  · cases h
    exact ⟨rfl, .preApproved name hname ‹_›⟩
  · split at h
    · next mntner hmntner =>
      cases h
      obtain ⟨user, huser, hlist, rfl, hsource⟩ := mntnerMatchesInternalAuth_eq_some hmntner
      exact ⟨rfl, .internal user mntner huser hlist hname hsource⟩
    · split at h
      · next t ht =>
        cases h
        obtain ⟨htoken, hkey, hvalid, hclass, rfl, hsource⟩ := apiKeyMatchForMntner_eq_some ht
        exact ⟨rfl, .apiKey t htoken hkey hvalid hclass hname hsource⟩
      · cases h

/-- What an object gives authenticates it, and not by an override. -/
theorem checkMntnerObject_eq_some {rpslObjNew mntnerObj : ParsedObject}
    {mntnerObjs : List ParsedObject} {result : MntnerCheckResult}
    (hlisted : IsListedMntner c rows names source mntnerObj)
    (h : v.checkMntnerObject c mntnerObjs mntnerObj = some result) :
    result.authMethod.usedOverride = false ∧ Authenticates c rows v rpslObjNew names source := by
  unfold checkMntnerObject at h
  obtain ⟨scheme, hscheme, rfl⟩ := Option.map_eq_some_iff.mp h
  refine ⟨?_, .mntner mntnerObj hlisted (by rw [hscheme]; rfl)⟩
  dsimp only
  split <;> rfl

/-- A step of an authentication validator: it keeps its credentials, and its cache sound. -/
structure Step (c : SubmissionContext) (rows : List RPSLDatabaseObject) (v v' : AuthValidator) :
    Prop where
  same : SameCredentials v v'
  cache : CacheSound c rows v'.mntnerDbCache

/-- A list of maintainers that passes has one that the credentials authenticate. -/
theorem checkMntners_spec {rpslObjNew : ParsedObject} {check : MntnerCheckResult}
    (hcache : CacheSound c rows v.mntnerDbCache)
    (h : v.checkMntners c rows rpslObjNew names source = .ok (v', check)) :
    Step c rows v v' ∧ check.authMethod.usedOverride = false ∧
      (check.valid = true → Authenticates c rows v rpslObjNew names source) := by
  obtain ⟨⟨v₁, mntnerObjs⟩, hresolve, h⟩ := bind_eq_ok_iff.mp h
  cases h
  obtain ⟨hsame, hcache', hlisted⟩ := resolveMntners_spec hcache hresolve
  rw [hsame.checkMntnerName, hsame.checkMntnerObject]
  refine ⟨⟨hsame, hcache'⟩, ?_⟩
  cases hname : names.findSome? (v.checkMntnerName c rpslObjNew source mntnerObjs) with
  | some result =>
    obtain ⟨name, hmem, hresult⟩ := List.exists_of_findSome?_eq_some hname
    obtain ⟨hmethod, hauthenticates⟩ := checkMntnerName_eq_some hmem hresult
    exact ⟨hmethod, fun _ ↦ hauthenticates⟩
  | none =>
    cases hobject : mntnerObjs.findSome? (v.checkMntnerObject c mntnerObjs) with
    | some result =>
      obtain ⟨obj, hmem, hresult⟩ := List.exists_of_findSome?_eq_some hobject
      obtain ⟨hmethod, hauthenticates⟩ := checkMntnerObject_eq_some (hlisted obj hmem) hresult
      exact ⟨hmethod, fun _ ↦ hauthenticates⟩
    | none => exact ⟨rfl, fun hvalid ↦ by cases hvalid⟩

theorem checkMntnersOrFail_spec {rpslObjNew : ParsedObject} {related : Option (String × String)}
    {result result' : ValidatorResult} {check : MntnerCheckResult}
    (hcache : CacheSound c rows v.mntnerDbCache)
    (h : v.checkMntnersOrFail c rows rpslObjNew names source related result =
      .ok (v', check, result')) :
    Step c rows v v' ∧ check.authMethod.usedOverride = false ∧ (result'.isValid = true →
      result.isValid = true ∧ Authenticates c rows v rpslObjNew names source) := by
  obtain ⟨⟨v₁, check₁⟩, hcheck, h⟩ := bind_eq_ok_iff.mp h
  cases h
  obtain ⟨hstep, hmethod, hauthenticates⟩ := checkMntners_spec hcache hcheck
  refine ⟨hstep, hmethod, fun hvalid ↦ ?_⟩
  split at hvalid
  · next hpassed => exact ⟨hvalid, hauthenticates hpassed⟩
  · simp at hvalid

end Mntners

section Authorisation

variable {c : SubmissionContext} {rows : List RPSLDatabaseObject} {v v' : AuthValidator}

theorem Authenticates.of_same {rpslObjNew : ParsedObject} {names : List String} {source : String}
    (hsame : SameCredentials v v') (h : Authenticates c rows v' rpslObjNew names source) :
    Authenticates c rows v rpslObjNew names source := by
  rw [hsame.eq] at h
  cases h with
  | preApproved name hname happroved => exact .preApproved name hname happroved
  | internal user mntner huser hmntner hname hsource =>
    exact .internal user mntner huser hmntner hname hsource
  | apiKey t htoken hkey hvalid hclass hname hsource =>
    exact .apiKey t htoken hkey hvalid hclass hname hsource
  | mntner obj hobj hverified => exact .mntner obj hobj hverified

/-- What authorises a change without an override: a maintainer of the new object, one of the current
object where there is one, and one of the related object where a new object has one. Maintainers
cannot be created. -/
structure Authorised (c : SubmissionContext) (rows : List RPSLDatabaseObject) (v : AuthValidator)
    (rpslObjNew : ParsedObject) (rpslObjCurrent : Option ParsedObject)
    (pkAsnSegment : Option (List Char)) : Prop where
  new : ∃ names, mntnersOf rpslObjNew = .ok names ∧
    Authenticates c rows v rpslObjNew names (objectKey rpslObjNew).source
  current : ∀ current, rpslObjCurrent = some current → ∃ names, mntnersOf current = .ok names ∧
    Authenticates c rows v rpslObjNew names (objectKey rpslObjNew).source
  related : rpslObjCurrent = none → ∃ related,
    findRelatedMntners c rows rpslObjNew pkAsnSegment = .ok (related, none) ∧
      ∀ relatedObjectClass relatedPk names,
        related = some (relatedObjectClass, relatedPk, names) →
          Authenticates c rows v rpslObjNew names (objectKey rpslObjNew).source
  mntner : rpslObjNew.isMntner = true → rpslObjCurrent.isSome = true

/-- How a maintainer keeps valid auth lines of its own: the credentials verify those that are
submitted, or their user manages it, or its dummy hashes are replaced with a hash of the only
password. -/
inductive KeepsAuth (c : SubmissionContext) (v : AuthValidator) (rpslObjNew : ParsedObject) :
    ParsedObject → Prop
  | verified (hdummy : rpslObjNew.hasDummyAuthValue = false)
      (hverified : (rpslObjNew.verifyAuth c.env c.hashFunctions v.passwords v.keycertObjPk).isSome =
        true) : KeepsAuth c v rpslObjNew rpslObjNew
  | managed (user : AuthUser) (mntner : AuthMntner)
      (hdummy : rpslObjNew.hasDummyAuthValue = false)
      (huser : v.internalAuthenticatedUser = some user)
      (hmntner : mntner ∈ user.mntnersUserManagement)
      (hpk : mntner.rpslMntnerPk = (objectKey rpslObjNew).rpslPk)
      (hsource : mntner.rpslMntnerSource = (objectKey rpslObjNew).source) :
      KeepsAuth c v rpslObjNew rpslObjNew
  | replaced (password : List Char) (hdummy : rpslObjNew.hasDummyAuthValue = true)
      (hpassword : v.passwords = [password]) :
      KeepsAuth c v rpslObjNew (rpslObjNew.forceSingleNewPassword c.hashFunctions password)

theorem KeepsAuth.of_same {rpslObjNew obj' : ParsedObject} (hsame : SameCredentials v v')
    (h : KeepsAuth c v' rpslObjNew obj') : KeepsAuth c v rpslObjNew obj' := by
  rw [hsame.eq] at h
  cases h with
  | verified hdummy hverified => exact .verified hdummy hverified
  | managed user mntner hdummy huser hmntner hpk hsource =>
    exact .managed user mntner hdummy huser hmntner hpk hsource
  | replaced password hdummy hpassword => exact .replaced password hdummy hpassword

theorem checkCurrentOrRelated_spec {rpslObjNew : ParsedObject}
    {rpslObjCurrent : Option ParsedObject}
    {pkAsnSegment : Option (List Char)} {source : String} {newMntnersResult : MntnerCheckResult}
    {result result' : ValidatorResult} {other : Option MntnerCheckResult}
    (hcache : CacheSound c rows v.mntnerDbCache)
    (h : v.checkCurrentOrRelated c rows rpslObjNew rpslObjCurrent pkAsnSegment source
      newMntnersResult result = .ok (v', other, result')) :
    Step c rows v v' ∧ (∀ check ∈ other, check.authMethod.usedOverride = false) ∧
      (result'.isValid = true → result.isValid = true ∧
        (∀ current, rpslObjCurrent = some current → ∃ names, mntnersOf current = .ok names ∧
          Authenticates c rows v rpslObjNew names source) ∧
        (rpslObjCurrent = none → ∃ related,
          findRelatedMntners c rows rpslObjNew pkAsnSegment = .ok (related, none) ∧
            ∀ relatedObjectClass relatedPk names,
              related = some (relatedObjectClass, relatedPk, names) →
                Authenticates c rows v rpslObjNew names source)) := by
  unfold checkCurrentOrRelated at h
  split at h
  · next current =>
    obtain ⟨names, hnames, h⟩ := bind_eq_ok_iff.mp h
    obtain ⟨⟨v₁, check, result₁⟩, hcheck, h⟩ := bind_eq_ok_iff.mp h
    cases h
    obtain ⟨hstep, hmethod, hvalid⟩ := checkMntnersOrFail_spec hcache hcheck
    refine ⟨hstep, fun _ hmem ↦ Option.some_inj.mp hmem ▸ hmethod, fun hresult ↦ ?_⟩
    obtain ⟨hresult, hauthenticates⟩ := hvalid hresult
    refine ⟨hresult, fun current' heq ↦ ?_, nofun⟩
    cases heq
    exact ⟨names, hnames, hauthenticates⟩
  · dsimp only at h
    obtain ⟨⟨related, message⟩, hrelated, h⟩ := bind_eq_ok_iff.mp h
    -- the error that a related object is missing is there before its maintainers are checked
    have hmissing (r : ValidatorResult) (hr : (message.elim r r.addError).isValid = true) :
        message = none ∧ r.isValid = true := by
      cases message with
      | none => exact ⟨rfl, hr⟩
      | some message => simp at hr
    cases related with
    | none =>
      cases h
      refine ⟨⟨.refl v, hcache⟩, by simp, fun hresult ↦ ?_⟩
      obtain ⟨rfl, hresult⟩ := hmissing _ hresult
      exact ⟨hresult, nofun, fun _ ↦ ⟨none, hrelated, nofun⟩⟩
    | some found =>
      obtain ⟨relatedObjectClass, relatedPk, names⟩ := found
      dsimp only at h
      obtain ⟨⟨v₁, check, result₁⟩, hcheck, h⟩ := bind_eq_ok_iff.mp h
      cases h
      obtain ⟨hstep, hmethod, hvalid⟩ := checkMntnersOrFail_spec hcache hcheck
      refine ⟨hstep, fun _ hmem ↦ Option.some_inj.mp hmem ▸ hmethod, fun hresult ↦ ?_⟩
      have hresult₁ : result₁.isValid = true := by
        split at hresult <;> exact hresult
      obtain ⟨hresult, hauthenticates⟩ := hvalid hresult₁
      obtain ⟨rfl, hresult⟩ := hmissing _ hresult
      refine ⟨hresult, nofun, fun _ ↦ ⟨_, hrelated, fun _ _ _ heq ↦ ?_⟩⟩
      cases heq
      exact hauthenticates

/-- A maintainer that passes these checks keeps valid auth lines. -/
theorem checkMntnerAuth_spec (c : SubmissionContext) (v : AuthValidator) (rpslObjNew : ParsedObject)
    (result : ValidatorResult) :
    let checked := v.checkMntnerAuth c rpslObjNew (objectKey rpslObjNew).source result
    AgreesOutsideAuth rpslObjNew checked.1 ∧
      (checked.2.isValid = true → result.isValid = true ∧ KeepsAuth c v rpslObjNew checked.1) := by
  unfold checkMntnerAuth
  split
  · next hdummy =>
    split
    · next password hpassword =>
      exact ⟨agreesOutsideAuth_forceSingleNewPassword _ _ _, fun hvalid ↦
        ⟨hvalid, .replaced password hdummy hpassword⟩⟩
    · exact ⟨.refl _, by simp⟩
  · next hdummy =>
    have hdummy := Bool.eq_false_iff.mpr hdummy
    split
    · next hauth =>
      refine ⟨.refl _, fun hvalid ↦ ⟨hvalid, ?_⟩⟩
      rcases (Bool.or_eq_true _ _).mp hauth with hverified | hmatches
      · exact .verified hdummy hverified
      · obtain ⟨mntner, hmntner⟩ := Option.isSome_iff_exists.mp hmatches
        obtain ⟨user, huser, hmem, hpk, hsource⟩ := mntnerMatchesInternalAuth_eq_some hmntner
        rw [userMntnerSet, if_pos ⟨rfl, rfl⟩] at hmem
        exact .managed user mntner hdummy huser hmem hpk hsource
    · exact ⟨.refl _, by simp⟩

/-- Authentication that passes without an override has authorised the change. -/
theorem processAuth_spec {rpslObjNew obj' : ParsedObject} {rpslObjCurrent : Option ParsedObject}
    {pkAsnSegment : Option (List Char)} {result : ValidatorResult}
    (hcache : CacheSound c rows v.mntnerDbCache)
    (h : v.processAuth c rows rpslObjNew rpslObjCurrent pkAsnSegment = .ok (v', obj', result)) :
    Step c rows v v' ∧ AgreesOutsideAuth rpslObjNew obj' ∧
      (v.checkOverride c = .none → result.isValid = true →
        result.authMethod.usedOverride = false ∧
          Authorised c rows v rpslObjNew rpslObjCurrent pkAsnSegment ∧
          (rpslObjNew.isMntner = true → KeepsAuth c v rpslObjNew obj')) := by
  unfold processAuth at h
  dsimp only at h
  split at h
  · next hoverride =>
    cases h
    exact ⟨⟨.refl v, hcache⟩, .refl _, fun hnone ↦ absurd hnone hoverride⟩
  · obtain ⟨mntnersNew, hmntnersNew, h⟩ := bind_eq_ok_iff.mp h
    obtain ⟨⟨v₁, checkNew, result₁⟩, hnew, h⟩ := bind_eq_ok_iff.mp h
    obtain ⟨⟨v₂, other, result₂⟩, hother, h⟩ := bind_eq_ok_iff.mp h
    obtain ⟨hstep₁, hmethod, hvalid₁⟩ := checkMntnersOrFail_spec hcache hnew
    obtain ⟨hstep₂, hmethods, hvalid₂⟩ := checkCurrentOrRelated_spec hstep₁.cache hother
    have hstep : Step c rows v v₂ := ⟨hstep₁.same.trans hstep₂.same, hstep₂.cache⟩
    split at h
    · next hcreation =>
      cases h
      exact ⟨hstep, .refl _, fun _ ↦ by simp⟩
    · next hcreation =>
      -- the object and the result after the checks of a maintainer
      obtain ⟨obj₃, result₃, hpair, hagrees, hvalid₃⟩ : ∃ obj₃ result₃,
          (if rpslObjNew.isMntner = true then
            v₂.checkMntnerAuth c rpslObjNew (objectKey rpslObjNew).source result₂
            else (rpslObjNew, result₂)) = (obj₃, result₃) ∧ AgreesOutsideAuth rpslObjNew obj₃ ∧
          (result₃.isValid = true → result₂.isValid = true ∧
            (rpslObjNew.isMntner = true → KeepsAuth c v₂ rpslObjNew obj₃)) := by
        split
        · obtain ⟨hagrees, hvalid⟩ := checkMntnerAuth_spec c v₂ rpslObjNew result₂
          exact ⟨_, _, rfl, hagrees, fun hresult ↦ ⟨(hvalid hresult).1, fun _ ↦ (hvalid hresult).2⟩⟩
        · next hother => exact ⟨_, _, rfl, .refl _, fun hresult ↦ ⟨hresult, (absurd · hother)⟩⟩
      rw [hpair] at h
      cases h
      refine ⟨hstep, hagrees, fun _ hresult ↦ ⟨?_, ?_, fun hmntner ↦ ?_⟩⟩
      · cases other with
        | none => exact hmethod
        | some check => exact hmethods check rfl
      · obtain ⟨hresult₁, hcurrent, hrelated⟩ := hvalid₂ (hvalid₃ hresult).1
        refine ⟨⟨mntnersNew, hmntnersNew, (hvalid₁ hresult₁).2⟩, fun current heq ↦ ?_,
          fun hnone ↦ ?_, fun hmntner ↦ ?_⟩
        · obtain ⟨names, hnames, hauthenticates⟩ := hcurrent current heq
          exact ⟨names, hnames, hauthenticates.of_same hstep₁.same⟩
        · obtain ⟨related, hfound, hauthenticates⟩ := hrelated hnone
          exact ⟨related, hfound, fun _ _ _ heq ↦ (hauthenticates _ _ _ heq).of_same hstep₁.same⟩
        · rw [not_and] at hcreation
          simpa [Option.isSome_iff_ne_none] using hcreation hmntner
      · exact ((hvalid₃ hresult).2 hmntner).of_same hstep.same

end Authorisation

end AuthValidator

end Irrd.Updates
