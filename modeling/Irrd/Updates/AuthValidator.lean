import Irrd.Rpsl.WrittenObject
import Irrd.Storage.OneLevelQueries
import Irrd.Updates.ParserState
import Irrd.Updates.Suspension

/-!
# Authentication of requests

A request is authenticated by a maintainer of the new object, of the current one and of a related
one. Maintainers come from the database or a cache of objects from it, or are about to be created by
the same submission. Sources: `irrd/updates/validators.py`, `irrd/storage/models.py`. The tables of
accounts are parameters, and so are the orders of queries and sets.
-/

namespace Irrd.Updates

open Irrd.Conf Irrd.Rpsl Irrd.Scopefilter Irrd.Storage Irrd.Utils

/-- `AuthoritativeChangeOrigin`. -/
inductive AuthoritativeChangeOrigin
  | webui
  | webapi
  | email
  | other
  deriving DecidableEq

/-- A migrated maintainer, `irrd/storage/models.py:540–565`. -/
structure AuthMntner where
  pk : Nat
  rpslMntnerPk : String
  rpslMntnerSource : String
  deriving DecidableEq

/-- `AuthUser`. -/
structure AuthUser where
  pk : Nat
  email : String
  override : Bool
  mntners : List AuthMntner
  mntnersUserManagement : List AuthMntner
  deriving DecidableEq

/-- `AuthApiToken`, with its restriction as networks. -/
structure AuthApiToken where
  pk : Nat
  token : String
  mntner : AuthMntner
  ipRestriction : Option (List IP)
  enabledWebapi : Bool
  enabledEmail : Bool
  deriving DecidableEq

/-- `valid_for`, `irrd/storage/models.py:524–537`. -/
def AuthApiToken.validFor (t : AuthApiToken) (origin : AuthoritativeChangeOrigin)
    (remoteIp : Option IP) : Bool :=
  ((t.enabledWebapi && origin = .webapi) || (t.enabledEmail && origin = .email)) &&
    match t.ipRestriction with
    | none => true
    | some networks => remoteIp.any (fun ip ↦ networks.any (fun network ↦ network.contains ip))

/-- What the processing of a submission reads apart from the tables that it writes. -/
structure SubmissionContext where
  settings : Settings
  env : Environment
  hashFunctions : PasswordHashFunctions
  scopefilter : ScopeFilterValidator
  render : RenderSettings
  setCreation : SetCreationSettings
  /-- `sources.*.authoritative_non_strict_mode_dangerous`. -/
  nonStrictMode : String → Bool
  /-- `sources.*.suspension_enabled`. -/
  suspensionEnabled : String → Bool
  /-- `sources.*.object_class_filter`. -/
  objectClassFilter : String → List String
  /-- `auth.override_password`. -/
  overridePassword : Option String
  /-- `auth.authenticate_parents_route_creation`. -/
  authenticateParentsRouteCreation : Bool
  /-- `rpki.roa_import_timer`. -/
  roaImportTimer : String
  /-- Comparison of keys by the collation of the database. -/
  collate : String → String → Bool
  /-- The orders of rows in queries of suspensions and reactivations. -/
  rowOrder : RowOrder RPSLDatabaseObject
  suspendedOrder : RowOrder RPSLDatabaseObjectSuspended
  /-- The order in which a set of maintainers is iterated. -/
  cacheOrder : RowOrder ParsedObject
  /-- `auth_mntner`. -/
  authMntners : List AuthMntner
  /-- `auth_api_token`. -/
  authApiTokens : List AuthApiToken

/-- The rows of a query for objects. -/
def SubmissionContext.executeQuery (c : SubmissionContext) (rows : List RPSLDatabaseObject)
    (calls : List QueryCall) : Except SubmissionException (List RPSLDatabaseObject) :=
  match queryOf false true true calls with
  | .ok q => .ok (q.execute c.collate rows)
  | .error e => .error (.valueError e)

/-- `rpsl_object_from_text` of a text, with its exceptions. -/
def SubmissionContext.parseObject (c : SubmissionContext) (text : List Char)
    (strictValidation : Bool) : Except SubmissionException ParsedObject :=
  (rpslObjectFromText c.env text strictValidation none).mapError .parser

/-- The class, primary key and source of an object. -/
def objectKey (obj : ParsedObject) : ObjectKey :=
  ⟨display obj.pk, display (obj.source.getD []), obj.rpslObjectClass⟩

/-- `parsed_data["mnt-by"]`. -/
def mntnersOf (obj : ParsedObject) : Except SubmissionException (List String) :=
  match obj.parsedData.get "mnt-by".toList with
  | none => .error (.keyError "mnt-by")
  | some _ => .ok ((obj.values "mnt-by").map display)

/-- `OrderedSet.add`. -/
def addMessage (messages : List String) (message : String) : List String :=
  if message ∈ messages then messages else messages ++ [message]

/-- `ValidatorResult`. -/
structure ValidatorResult where
  errorMessages : List String
  infoMessages : List String
  mntnersNotify : List ParsedObject
  authMethod : AuthMethod
  authThroughMntner : Option String
  authThroughInternalMntner : Option AuthMntner
  authThroughApiKey : Option AuthApiToken
  authThroughInternalUser : Option AuthUser

namespace ValidatorResult

/-- A new result. -/
def new : ValidatorResult := ⟨[], [], [], .none, none, none, none, none⟩

/-- `is_valid`. -/
def isValid (r : ValidatorResult) : Bool := r.errorMessages = []

/-- The result with an error. -/
def addError (r : ValidatorResult) (message : String) : ValidatorResult :=
  { r with errorMessages := addMessage r.errorMessages message }

/-- The result with an information. -/
def addInfo (r : ValidatorResult) (message : String) : ValidatorResult :=
  { r with infoMessages := addMessage r.infoMessages message }

end ValidatorResult

/-- `MntnerCheckResult`. -/
structure MntnerCheckResult where
  valid : Bool
  associatedMntners : List ParsedObject
  authMethod : AuthMethod
  mntnerPk : Option String
  authMntner : Option AuthMntner
  apiKey : Option AuthApiToken

/-- `AuthValidator`. -/
structure AuthValidator where
  passwords : List (List Char)
  overrides : List (List Char)
  apiKeys : List String
  origin : AuthoritativeChangeOrigin
  remoteIp : Option IP
  mntnerDbCache : List ParsedObject
  preApproved : List String
  keycertObjPk : Option (List Char)
  internalAuthenticatedUser : Option AuthUser

namespace AuthValidator

variable (c : SubmissionContext) (v : AuthValidator)

/-- `__init__`. -/
def new (origin : AuthoritativeChangeOrigin) (keycertObjPk : Option (List Char))
    (internalAuthenticatedUser : Option AuthUser) (remoteIp : Option IP) : AuthValidator :=
  ⟨[], [], [], origin, remoteIp, [], [], keycertObjPk, internalAuthenticatedUser⟩

/-- `pre_approve`, `irrd/updates/validators.py:325–336`. -/
def preApprove (presumedValidNewMntners : List ParsedObject) : AuthValidator :=
  { v with preApproved := presumedValidNewMntners.map (fun obj ↦ display obj.pk) }

/-- `check_override`, `irrd/updates/validators.py:437–466`. -/
def checkOverride : AuthMethod :=
  if v.internalAuthenticatedUser.any AuthUser.override then .overrideInternalAuth
  else
    match c.overridePassword with
    | none => .none
    | some overrideHash =>
      let verify (scheme : String) (override : List Char) : Option Bool :=
        c.hashFunctions.verify scheme override overrideHash.toList
      if overrideHash ≠ "" ∧ v.overrides.any (fun override ↦
          ((verify "BCRYPT-PW" override).or (verify "MD5-PW" override)).getD false) then
        .overridePassword
      else .none

/-- The maintainers that a user authenticates for, where the maintainer of this name is asked. To
change a maintainer itself takes user management. -/
def userMntnerSet (user : AuthUser) (rpslObjNew : ParsedObject) (rpslPk source : String) :
    List AuthMntner :=
  let key := objectKey rpslObjNew
  if key.rpslPk = rpslPk ∧ key.source = source then user.mntnersUserManagement else user.mntners

/-- `_mntner_matches_internal_auth`, `irrd/updates/validators.py:537–552`. -/
def mntnerMatchesInternalAuth (rpslObjNew : ParsedObject) (rpslPk source : String) :
    Option AuthMntner :=
  match v.internalAuthenticatedUser with
  | none => none
  | some user =>
    (userMntnerSet user rpslObjNew rpslPk source).find? (fun mntner ↦
      rpslPk = mntner.rpslMntnerPk ∧ source = mntner.rpslMntnerSource)

/-- `_api_key_match_for_mntner`, `irrd/updates/validators.py:554–575`. -/
def apiKeyMatchForMntner (rpslObjNew : ParsedObject) (rpslPk source : String) :
    Option AuthApiToken :=
  if v.apiKeys = [] ∨ rpslObjNew.isMntner then none
  else c.authApiTokens.find? (fun t ↦
    t.mntner.rpslMntnerPk = rpslPk ∧ t.mntner.rpslMntnerSource = source ∧ t.token ∈ v.apiKeys ∧
      t.validFor v.origin v.remoteIp)

/-- What one name of a maintainer gives without an object,
`irrd/updates/validators.py:494–519`. -/
def checkMntnerName (rpslObjNew : ParsedObject) (source : String) (mntnerObjs : List ParsedObject)
    (mntnerName : String) : Option MntnerCheckResult :=
  if mntnerName ∈ v.preApproved then
    some ⟨true, mntnerObjs, .mntnerInSameRequest, some mntnerName, none, none⟩
  else
    match v.mntnerMatchesInternalAuth rpslObjNew mntnerName source with
    | some mntner =>
      some ⟨true, mntnerObjs, .mntnerInternalAuth, some mntnerName, some mntner, none⟩
    | none =>
      match v.apiKeyMatchForMntner c rpslObjNew mntnerName source with
      | some apiKey =>
        some ⟨true, mntnerObjs, .mntnerApiKey, some mntnerName, some apiKey.mntner, some apiKey⟩
      | none => none

/-- What one maintainer gives, `irrd/updates/validators.py:521–533`. -/
def checkMntnerObject (mntnerObjs : List ParsedObject) (mntnerObj : ParsedObject) :
    Option MntnerCheckResult :=
  (mntnerObj.verifyAuth c.env c.hashFunctions v.passwords v.keycertObjPk).map (fun validScheme ↦
    ⟨true, mntnerObjs,
      if "PGPKEY".toList <:+: validScheme then .mntnerPgpKey else .mntnerPassword,
      some (display mntnerObj.pk), none, none⟩)

/-- `RPSLObject.__eq__`, `irrd/rpsl/parser.py:497–504`. -/
def sameObject (obj obj' : ParsedObject) : Bool :=
  obj.rpslObjectClass = obj'.rpslObjectClass && obj.pk = obj'.pk &&
    obj.parsedData.isPerm obj'.parsedData

/-- Add an object to the set of maintainers that were found. -/
def addToCache (cache : List ParsedObject) (obj : ParsedObject) : List ParsedObject :=
  if cache.any (sameObject obj) then cache else cache ++ [obj]

/-- The maintainers that the set of those found has under some names. -/
def cachedMntners (names : List String) (source : String) : List ParsedObject :=
  (c.cacheOrder.order v.mntnerDbCache).filter (fun m ↦
    (objectKey m).rpslPk ∈ names ∧ (objectKey m).source = source)

/-- The names to retrieve. -/
def namesToResolve (names : List String) (source : String) : List String :=
  let cached := (v.cachedMntners c names source).map (fun m ↦ (objectKey m).rpslPk)
  names.filter (· ∉ cached)

/-- The maintainers for some names: those found before, and others from the database,
`irrd/updates/validators.py:479–492`. -/
def resolveMntners (rows : List RPSLDatabaseObject) (names : List String) (source : String) :
    Except SubmissionException (AuthValidator × List ParsedObject) :=
  let mntnerObjs := v.cachedMntners c names source
  let mntnerPksToResolve := v.namesToResolve c names source
  if mntnerPksToResolve = [] then .ok (v, mntnerObjs)
  else do
    let results ← c.executeQuery rows [.filter (.sources [source]),
      .filter (.objectClasses ["mntner"]), .filter (.rpslPks mntnerPksToResolve)]
    let retrieved ← results.mapM (fun r ↦ c.parseObject r.objectText.toList false)
    return ({ v with mntnerDbCache := retrieved.foldl addToCache v.mntnerDbCache },
      mntnerObjs ++ retrieved)

/-- `_check_mntners`, `irrd/updates/validators.py:468–535`. -/
def checkMntners (rows : List RPSLDatabaseObject) (rpslObjNew : ParsedObject)
    (mntnerPkList : List String) (source : String) :
    Except SubmissionException (AuthValidator × MntnerCheckResult) := do
  let (v, mntnerObjs) ← v.resolveMntners c rows mntnerPkList source
  return (v,
    ((mntnerPkList.findSome? (v.checkMntnerName c rpslObjNew source mntnerObjs)).or
      (mntnerObjs.findSome? (v.checkMntnerObject c mntnerObjs))).getD
        ⟨false, mntnerObjs, .none, none, none, none⟩)

/-- The text of `_generate_failure_message`. -/
def failureMessage (rpslObj : ParsedObject) (failedMntnerList : List String)
    (related : Option (String × String)) : String :=
  s!"Authorisation for {rpslObj.rpslObjectClass} {display rpslObj.pk} failed: " ++
    "must be authenticated by one of: " ++ ", ".intercalate failedMntnerList ++
    match related with
    | some (relatedObjectClass, relatedPk) =>
      if relatedObjectClass ≠ "" ∧ relatedPk ≠ "" then
        s!" - from parent {relatedObjectClass} {relatedPk}"
      else ""
    | none => ""

/-- Check a list of maintainers, with an error where none of them passes. -/
def checkMntnersOrFail (rows : List RPSLDatabaseObject) (rpslObjNew : ParsedObject)
    (mntners : List String) (source : String) (related : Option (String × String))
    (result : ValidatorResult) :
    Except SubmissionException (AuthValidator × MntnerCheckResult × ValidatorResult) := do
  let (v, check) ← v.checkMntners c rows rpslObjNew mntners source
  return (v, check, if check.valid then result
    else result.addError (failureMessage rpslObjNew mntners related))

section Related

/-- The calls of `_init_related_object_query`. -/
def relatedObjectCalls (rpslObjectClass source : String) : List QueryCall :=
  [.filter (.sources [source]), .filter (.objectClasses [rpslObjectClass]), .firstOnly]

/-- The first object of a class one level less specific. -/
def lessSpecificOneLevel (rows : List RPSLDatabaseObject) (objectClass source : String) (ip : IP) :
    Except SubmissionException (Option RPSLDatabaseObject) :=
  match queryOf false true true (relatedObjectCalls objectClass source) >>=
      (·.ipLessSpecificOneLevel ip) with
  | .ok q => .ok (q.execute c.collate rows).head?
  | .error e => .error (.valueError e)

/-- `_find_related_object_route`, `irrd/updates/validators.py:621–655`, without its cache. -/
def findRelatedObjectRoute (rows : List RPSLDatabaseObject) (rpslObjNew : ParsedObject) :
    Except SubmissionException (Option RPSLDatabaseObject) :=
  if c.authenticateParentsRouteCreation then
    match rpslObjNew.resources.ipPrefix with
    | none => .error .attributeError
    | some ip => do
      let source := (objectKey rpslObjNew).source
      let objectClass := if rpslObjNew.rpslObjectClass = "route" then "inetnum" else "inet6num"
      let exact ← c.executeQuery rows
        (relatedObjectCalls objectClass source ++ [.filter (.ipExact ip)])
      let inetnum ← if exact = [] then lessSpecificOneLevel c rows objectClass source ip
        else pure exact.head?
      match inetnum with
      | some inetnum => return some inetnum
      | none => lessSpecificOneLevel c rows rpslObjNew.rpslObjectClass source ip
  else .ok none

/-- `_find_related_object_set`, `irrd/updates/validators.py:657–685`: the object, and whether an
error says that it is missing. -/
def findRelatedObjectSet (rows : List RPSLDatabaseObject) (rpslObjNew : ParsedObject)
    (pkAsnSegment : Option (List Char)) :
    Except SubmissionException (Option RPSLDatabaseObject × Option String) :=
  match pkAsnSegment with
  | none => .ok (none, none)
  | some pkAsnSegment => do
    match ← RPSLSetAutnumAuthenticationMode.forSetName c.setCreation rpslObjNew.rpslObjectClass with
    | .disabled => return (none, none)
    | mode =>
      let autNums ← c.executeQuery rows
        (relatedObjectCalls "aut-num" (objectKey rpslObjNew).source ++
          [.filter (.rpslPks [display pkAsnSegment])])
      match autNums.head? with
      | some autNum => return (some autNum, none)
      | none => return (none, if mode = .required then
          some s!"Creating this object requires an aut-num for {display pkAsnSegment} to exist."
        else none)

/-- `_find_related_mntners`, `irrd/updates/validators.py:592–618`: the related object, and the error
that it is missing. -/
def findRelatedMntners (rows : List RPSLDatabaseObject) (rpslObjNew : ParsedObject)
    (pkAsnSegment : Option (List Char)) :
    Except SubmissionException (Option (String × String × List String) × Option String) := do
  let (related, message) ←
    if rpslObjNew.isSet then findRelatedObjectSet c rows rpslObjNew pkAsnSegment
    else if rpslObjNew.rpslObjectClass ∈ ["route", "route6"] then
      (findRelatedObjectRoute c rows rpslObjNew).map (·, none)
    else pure (none, none)
  return (related.map (fun row ↦ (row.objectClass, row.rpslPk, mntBy row)), message)

/-- The maintainers that have to authenticate next to those of the new object, and who is notified,
`irrd/updates/validators.py:368–393`. -/
def checkCurrentOrRelated (rows : List RPSLDatabaseObject) (rpslObjNew : ParsedObject)
    (rpslObjCurrent : Option ParsedObject) (pkAsnSegment : Option (List Char)) (source : String)
    (newMntnersResult : MntnerCheckResult) (result : ValidatorResult) :
    Except SubmissionException (AuthValidator × Option MntnerCheckResult × ValidatorResult) :=
  match rpslObjCurrent with
  | some current => do
    let mntnersCurrent ← mntnersOf current
    let (v, check, result) ← v.checkMntnersOrFail c rows rpslObjNew mntnersCurrent
        source none result
    return (v, some check, { result with mntnersNotify := check.associatedMntners })
  | none => do
    let result := { result with mntnersNotify := newMntnersResult.associatedMntners }
    let (related, message) ← findRelatedMntners c rows rpslObjNew pkAsnSegment
    let result := message.elim result result.addError
    match related with
    | none => return (v, none, result)
    | some (relatedObjectClass, relatedPk, relatedMntnerList) =>
      let (v, check, result) ← v.checkMntnersOrFail c rows rpslObjNew relatedMntnerList source
        (some (relatedObjectClass, relatedPk)) result
      return (v, some check, if check.valid then result
        else { result with mntnersNotify := check.associatedMntners })

end Related

section Processing

/-- What is said of hashes that were replaced. -/
def dummyReplacedMessage : String :=
  "As you submitted dummy hash values, all password hashes on this object " ++
    "were replaced with a new BCRYPT-PW hash of the password you provided for authentication."

/-- What is said of dummy hashes without a password to replace them. -/
def dummyRefusedMessage : String :=
  "Object submitted with dummy hash values, but multiple or no passwords " ++
    "submitted. Either submit only full hashes, or a single password."

/-- The checks of a maintainer that is modified or deleted, `irrd/updates/validators.py:399–425`:
the object, with its dummy hashes replaced, and the result. -/
def checkMntnerAuth (rpslObjNew : ParsedObject) (source : String) (result : ValidatorResult) :
    ParsedObject × ValidatorResult :=
  if rpslObjNew.hasDummyAuthValue then
    match v.passwords with
    | [password] => (rpslObjNew.forceSingleNewPassword c.hashFunctions password,
        result.addInfo dummyReplacedMessage)
    | _ => (rpslObjNew, result.addError dummyRefusedMessage)
  else if (rpslObjNew.verifyAuth c.env c.hashFunctions v.passwords v.keycertObjPk).isSome ||
      (v.mntnerMatchesInternalAuth rpslObjNew (objectKey rpslObjNew).rpslPk source).isSome then
    (rpslObjNew, result)
  else (rpslObjNew,
    result.addError "Authorisation failed for the auth methods on this mntner object.")

/-- The result with how the request was authenticated, `irrd/updates/validators.py:427–434`. -/
def withAuthDetails (result : ValidatorResult) (check : MntnerCheckResult) : ValidatorResult :=
  { result with
    authMethod := check.authMethod
    authThroughMntner := check.mntnerPk
    authThroughApiKey := check.apiKey
    authThroughInternalMntner := check.authMntner
    authThroughInternalUser :=
      if check.authMethod = .mntnerInternalAuth then v.internalAuthenticatedUser
      else result.authThroughInternalUser }

/-- `process_auth`, `irrd/updates/validators.py:338–435`: the validator, the new object and the
result. -/
def processAuth (rows : List RPSLDatabaseObject) (rpslObjNew : ParsedObject)
    (rpslObjCurrent : Option ParsedObject) (pkAsnSegment : Option (List Char)) :
    Except SubmissionException (AuthValidator × ParsedObject × ValidatorResult) :=
  let source := (objectKey rpslObjNew).source
  let overrideMethod := v.checkOverride c
  if overrideMethod ≠ .none then
    .ok (v, rpslObjNew, { ValidatorResult.new with
      authMethod := overrideMethod
      authThroughInternalUser :=
        if overrideMethod = .overrideInternalAuth then v.internalAuthenticatedUser else none })
  else do
    let mntnersNew ← mntnersOf rpslObjNew
    let (v, newMntnersResult, result) ←
      v.checkMntnersOrFail c rows rpslObjNew mntnersNew source none .new
    let (v, otherResult, result) ← v.checkCurrentOrRelated c rows rpslObjNew rpslObjCurrent
      pkAsnSegment source newMntnersResult result
    if rpslObjNew.isMntner ∧ rpslObjCurrent.isNone then
      return (v, rpslObjNew,
        result.addError "New mntner objects must be added by an administrator.")
    else
      let (rpslObjNew, result) :=
        if rpslObjNew.isMntner then v.checkMntnerAuth c rpslObjNew source result
        else (rpslObjNew, result)
      return (v, rpslObjNew, v.withAuthDetails result (otherResult.getD newMntnersResult))

end Processing

end AuthValidator

end Irrd.Updates
