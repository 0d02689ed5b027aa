import Irrd.Updates.Reactivation
import Irrd.Updates.Validators

/-!
# Requests

A request creates, modifies or deletes an object, or suspends or reactivates a maintainer. It is
classified by what is in the database, validated once or more, and saved. Source:
`irrd/updates/parser.py`.
-/

namespace Irrd.Updates

open Irrd.Base Irrd.Conf Irrd.Rpki Irrd.Rpsl Irrd.Scopefilter Irrd.Storage Irrd.Utils

/-- The validators that the requests of a submission share. -/
structure Validators where
  auth : AuthValidator
  reference : ReferenceValidator

/-- `ChangeRequest`, with the AS number that the name of a new set begins with. -/
structure ChangeRequest where
  rpslTextSubmitted : List Char
  rpslObjNew : Option ParsedObject
  rpslObjCurrent : Option ParsedObject
  status : UpdateRequestStatus
  requestType : Option UpdateRequestType
  errorMessages : List String
  infoMessages : List String
  authResult : Option ValidatorResult
  cachedRoaValidity : Option Bool
  nonStrictMode : Bool
  pkAsnSegment : Option (List Char)

/-- `SuspensionRequest`. -/
structure SuspensionRequest where
  rpslTextSubmitted : List Char
  rpslObjNew : Option ParsedObject
  status : UpdateRequestStatus
  requestType : Option SuspensionRequestType
  errorMessages : List String
  infoMessages : List String

/-- What is written next to a saved change, `irrd/storage/models.py:584–636`. -/
structure ChangeLog where
  authByUserId : Option Nat
  authByUserEmail : Option String
  authByApiKeyId : Option Nat
  authThroughMntnerId : Option Nat
  authThroughRpslMntnerPk : Option String
  authByRpslMntnerPassword : Bool
  authByRpslMntnerPgpKey : Bool
  authByOverride : Bool
  fromEmail : Option String
  fromIp : Option String
  rpslTargetRequestType : Option UpdateRequestType
  rpslTarget : ObjectKey
  rpslTargetObjectTextOld : Option (List Char)
  rpslTargetObjectTextNew : Option (List Char)
  deriving DecidableEq

/-- The keys of `request_meta` that are read. -/
structure RequestMeta where
  httpClientIp : Option String
  sender : Option String

/-- `to_change_log` for a change, `irrd/updates/validators.py:61–83`. -/
def ValidatorResult.toChangeLog (r : ValidatorResult) (sender : RequestMeta)
    (requestType : Option UpdateRequestType) (target : ObjectKey)
    (textOld textNew : Option (List Char)) : ChangeLog where
  authByUserId := r.authThroughInternalUser.map AuthUser.pk
  authByUserEmail := r.authThroughInternalUser.map AuthUser.email
  authByApiKeyId := r.authThroughApiKey.map AuthApiToken.pk
  authThroughMntnerId := r.authThroughInternalMntner.map AuthMntner.pk
  authThroughRpslMntnerPk := r.authThroughMntner
  authByRpslMntnerPassword := r.authMethod = .mntnerPassword
  authByRpslMntnerPgpKey := r.authMethod = .mntnerPgpKey
  authByOverride := r.authMethod.usedOverride
  fromEmail := sender.sender
  fromIp := sender.httpClientIp
  rpslTargetRequestType := requestType
  rpslTarget := target
  rpslTargetObjectTextOld := textOld
  rpslTargetObjectTextNew := textNew

namespace ChangeRequest

variable (c : SubmissionContext) (r : ChangeRequest)

/-- `is_valid`. -/
def isValid : Bool := r.status.isValid

section Creation

/-- The request after its text has been parsed, `irrd/updates/parser.py:85–121`. -/
def parse (text : List Char) (isDelete : Bool) : Except SubmissionException ChangeRequest :=
  match rpslObjectFromText c.env text true none with
  | .error (.unknownRPSLObjectClass name) =>
    .ok ⟨text, none, none, .errorUnknownClass, none, [s!"unknown object class: {display name}"], [],
      none, none, false, none⟩
  | .error e => .error (.parser e)
  | .ok strictObj => do
    let nonStrictMode := strictObj.source.any (fun source ↦ c.nonStrictMode (display source))
    let obj ← if nonStrictMode || isDelete then c.parseObject text false else pure strictObj
    return ⟨text, some obj, none, if obj.errors = [] then .processing else .errorParsing,
      if isDelete then some .delete else none, obj.errors, obj.messages.infos, none, none,
      nonStrictMode, none⟩

/-- `_retrieve_existing_version`, `irrd/updates/parser.py:154–183`. -/
def retrieveExistingVersion (rows : List RPSLDatabaseObject) (obj : ParsedObject) :
    Except SubmissionException ChangeRequest := do
  let key := objectKey obj
  let results ← c.executeQuery rows [.filter (.sources [key.source]),
    .filter (.objectClasses [key.objectClass]), .filter (.rpslPks [key.rpslPk])]
  match results with
  | [] => return { r with requestType := r.requestType.or (some .create) }
  | [row] =>
    let current ← c.parseObject row.objectText.toList false
    return { r with
      requestType := r.requestType.or (some .modify)
      rpslObjCurrent := some current }
  | _ => .error .severalObjects

/-- The request after its source and class have been checked, and whether it goes on,
`irrd/updates/parser.py:123–143`. -/
def classify (rows : List RPSLDatabaseObject) : Except SubmissionException (ChangeRequest × Bool) :=
  match r.rpslObjNew with
  | none => .ok (r, true)
  | some obj =>
    if r.isValid then
      match obj.source with
      | none => .error .noSource
      | some source =>
        let source := display source
        let objectClassFilter := (c.objectClassFilter source).map (fun name ↦
          display (lower (strip name.toList)))
        if ¬ c.render.authoritative source then
          .ok ({ r with
            errorMessages := r.errorMessages ++
              [s!"This instance is not authoritative for source {source}"]
            status := .errorNonAuthoritive }, false)
        else if objectClassFilter ≠ [] ∧ obj.rpslObjectClass ∉ objectClassFilter then
          .ok ({ r with
            errorMessages := r.errorMessages ++
              [s!"Can not make changes to {obj.rpslObjectClass} objects in this database"]
            status := .errorObjectFilter }, false)
        else (r.retrieveExistingVersion c rows obj).map (·, true)
    else .ok (r, true)

/-- A deletion needs an object to delete, `irrd/updates/parser.py:145–152`. -/
def checkDeletable : ChangeRequest :=
  if r.requestType = some .delete ∧ r.rpslObjCurrent.isNone then
    { r with
      status := .errorParsing
      errorMessages := r.errorMessages ++
        ["Can not delete object: no object found for this key in this database."] }
  else r

/-- `__init__`, `irrd/updates/parser.py:50–152`. -/
def new (rows : List RPSLDatabaseObject) (text : List Char) (deleteReason : Option String) :
    Except SubmissionException ChangeRequest := do
  let parsed ← parse c text (Conf.isSet deleteReason)
  let (r, goesOn) ← parsed.classify c rows
  return if goesOn then r.checkDeletable else r

end Creation

section Checks

/-- The request after a check that does not come first: its messages, and its status unless it has
failed before. -/
def afterCheck (result : ValidatorResult) (failure : UpdateRequestStatus) : ChangeRequest :=
  { r with
    infoMessages := r.infoMessages ++ result.infoMessages
    errorMessages := r.errorMessages ++ result.errorMessages
    status := if result.isValid then r.status else r.status.failWith failure }

/-- Whether the last authentication was an override. -/
def usedOverride : Bool := r.authResult.any (fun result ↦ result.authMethod.usedOverride)

/-- `_check_references`, `irrd/updates/parser.py:367–399`. -/
def checkReferences (rows : List RPSLDatabaseObject) (v : ReferenceValidator) (obj : ParsedObject) :
    Except SubmissionException (ReferenceValidator × ChangeRequest) :=
  if r.nonStrictMode then .ok (v, r)
  else
    match r.requestType, r.rpslObjCurrent with
    | some .delete, some current => do
      let result ← v.checkReferencesFromOthersForDeletion c rows current r.usedOverride
      return (v, r.afterCheck result .errorReference)
    | _, _ => do
      let (v, result) ← v.checkReferencesToOthers c rows obj
      return (v, r.afterCheck result .errorReference)

/-- `_check_protected_names`, `irrd/updates/parser.py:401–424`. -/
def checkProtectedNames (db : Database) (v : ReferenceValidator) (obj : ParsedObject) :
    Except SubmissionException ChangeRequest :=
  if r.requestType = some .create then
    (v.checkProtectedName c db obj r.usedOverride).map (fun result ↦
      r.afterCheck result .errorProtectedName)
  else .ok r

/-- What is said of ROAs that conflict with a route. -/
def roaMessage : String :=
  "RPKI ROAs were found that conflict with this object. " ++
    s!"(This IRRd refreshes ROAs every {c.roaImportTimer} seconds.)"

/-- `_check_conflicting_roa`, `irrd/updates/parser.py:426–461`, whose result is kept. -/
def checkRoa (roas : List ROADatabaseObject) (requestType : UpdateRequestType)
    (obj : ParsedObject) : Except SubmissionException ChangeRequest :=
  let o := writtenObject c.render obj
  if r.cachedRoaValidity.isSome then .ok r
  else
    match checkConflictingRoa c.settings requestType o roas with
    | none => .error .assertionError
    | some true =>
      if Conf.isSet c.settings.roaSource ∧ o.isRoute ∧ requestType ≠ .delete then
        .ok { r with cachedRoaValidity := some true }
      else .ok r
    | some false => .ok { r with
        status := r.status.failWith .errorRoa
        errorMessages := r.errorMessages ++ [roaMessage c]
        cachedRoaValidity := some false }

/-- What is said of an object that is out of scope. -/
def outOfScopeMessage (o : RPSLObject) (status : ScopeFilterStatus) : String :=
  "Contains out of scope information: " ++
    match status, o.ipPrefix, o.asnFirst with
    | .outScopePrefix, some ip, _ => s!"prefix {display (c.env.strIp ip)} is out of scope"
    | .outScopeAs, _, some asn => s!"ASN {asn} is out of scope"
    | _, _, _ => ""

/-- `_check_scopefilter`, `irrd/updates/parser.py:463–479`. -/
def checkScope (requestType : UpdateRequestType) (obj : ParsedObject) : ChangeRequest :=
  let o := writtenObject c.render obj
  let message := outOfScopeMessage c o (c.scopefilter.validateRpslObject c.settings o)
  if ¬ checkScopefilter c.settings requestType o c.scopefilter then
    { r with
      status := r.status.failWith .errorScopefilter
      errorMessages := r.errorMessages ++ [message] }
  else if requestType = .modify ∧ c.scopefilter.validateRpslObject c.settings o ≠ .inScope then
    { r with infoMessages := r.infoMessages ++ [message] }
  else r

/-- The request after its name and the rules have been checked, and whether it passed,
`irrd/updates/parser.py:330–343`. -/
def checkNameAndRules (db : Database) (requestType : UpdateRequestType) (obj : ParsedObject) :
    Except SubmissionException (ChangeRequest × Bool) :=
  let named := if requestType = .create then obj.cleanForCreate c.setCreation
    else .ok r.pkAsnSegment
  match named with
  | .error message =>
    let obj := obj.addError message
    .ok ({ r with
      rpslObjNew := some obj
      errorMessages := r.errorMessages ++ obj.errors
      status := .errorParsing }, false)
  | .ok pkAsnSegment =>
    let r := { r with pkAsnSegment }
    if requestType = .delete then .ok (r, true)
    else do
      let result ← rulesValidate c db obj requestType
      let r := { r with
        infoMessages := r.infoMessages ++ result.infoMessages
        errorMessages := r.errorMessages ++ result.errorMessages }
      return if result.isValid then (r, true) else ({ r with status := .errorRules }, false)

/-- `_check_auth`, `irrd/updates/parser.py:353–365`: the validator, and the request with its new
object. -/
def checkAuth (rows : List RPSLDatabaseObject) (v : AuthValidator) (obj : ParsedObject) :
    Except SubmissionException (AuthValidator × ParsedObject × ChangeRequest) := do
  let (v, obj, result) ← v.processAuth c rows obj r.rpslObjCurrent r.pkAsnSegment
  let r := { r with
    rpslObjNew := some obj
    authResult := some result
    infoMessages := r.infoMessages ++ result.infoMessages }
  return (v, obj, if result.isValid then r
    else { r with
      status := .errorAuth
      errorMessages := r.errorMessages ++ result.errorMessages })

/-- The checks after authentication, which are all made. -/
def checkOthers (db : Database) (v : ReferenceValidator) (requestType : UpdateRequestType)
    (obj : ParsedObject) : Except SubmissionException (ReferenceValidator × ChangeRequest) := do
  let (v, r) ← r.checkReferences c db.objects.rows v obj
  let r ← r.checkProtectedNames c db v obj
  let r ← r.checkRoa c db.roas.rows requestType obj
  return (v, r.checkScope c requestType obj)

/-- `validate`, `irrd/updates/parser.py:329–351`. Requests that are valid have a new object and have
been classified. -/
def validate (db : Database) (v : Validators) :
    Except SubmissionException (Validators × ChangeRequest) :=
  match r.rpslObjNew, r.requestType with
  | some obj, some requestType => do
    let (r, passed) ← r.checkNameAndRules c db requestType obj
    if passed then
      let (auth, obj, r) ← r.checkAuth c db.objects.rows v.auth obj
      if r.authResult.any ValidatorResult.isValid then
        let (reference, r) ← r.checkOthers c db v.reference requestType obj
        return (⟨auth, reference⟩, r)
      else return (⟨auth, v.reference⟩, r)
    else return (v, r)
  | _, _ => .error .assertionError

end Checks

section Saving

/-- Whether the new object renders like the current one. -/
def isIdentical (obj current : ParsedObject) : Bool :=
  (writtenObject c.render obj).renderRpslText datetimeSentinel =
    (writtenObject c.render current).renderRpslText datetimeSentinel

/-- The entry for a saved change, if it was authenticated, `irrd/updates/parser.py:210–223`. -/
def changeLog (sender : RequestMeta) (obj : ParsedObject) : Option ChangeLog :=
  r.authResult.map (fun result ↦ result.toChangeLog sender r.requestType (objectKey obj)
    (r.rpslObjCurrent.map ParsedObject.renderRpslText)
    (if r.requestType = some .delete then none else some obj.renderRpslText))

/-- `save`, `irrd/updates/parser.py:185–225`. -/
def save (sender : RequestMeta) (h : DatabaseHandler) :
    Except SubmissionException (DatabaseHandler × ChangeRequest × Option ChangeLog) :=
  match r.status, r.rpslObjNew with
  | .processing, some obj =>
    let saved := { r with status := .saved }
    let logged (h : Option DatabaseHandler) :=
      match h with
      | none => .error .database
      | some h => .ok (h, saved, r.changeLog sender obj)
    match r.requestType, r.rpslObjCurrent with
    | some .delete, some current =>
      logged (h.deleteRpslObject c.settings .authChange
        ⟨some (writtenObject c.render current), none, none, none⟩ none true)
    | _, current =>
      if current.any (isIdentical c obj) then
        .ok (h, { saved with infoMessages := r.infoMessages ++
          ["Submitted object was identical to current object, no change recorded."] }, none)
      else logged (h.upsertRpslObject c.settings (writtenObject c.render obj) .authChange false none
        none)
  | _, _ => .error .notProcessing

end Saving

end ChangeRequest

namespace SuspensionRequest

variable (c : SubmissionContext) (r : SuspensionRequest)

/-- `getattr(SuspensionRequestType, ..)`. -/
def suspensionType (suspensionState : String) : Option SuspensionRequestType :=
  match upper suspensionState with
  | "SUSPEND" => some .suspend
  | "REACTIVATE" => some .reactivate
  | _ => none

/-- The request after its source and class have been checked. -/
def classify (obj : ParsedObject) : Except SubmissionException SuspensionRequest :=
  match obj.source with
  | none => .error .noSource
  | some source =>
    let source := display source
    if ¬ c.suspensionEnabled source then
      .ok { r with
        errorMessages := r.errorMessages ++
          [s!"This instance is not authoritative for source {source} or suspension is not enabled"]
        status := .errorNonAuthoritive }
    else if ¬ obj.isMntner then
      .ok { r with
        errorMessages := r.errorMessages ++
          ["Suspensions/reactivations can only be done on mntner objects"]
        status := .errorParsing }
    else .ok r

/-- `__init__`, `irrd/updates/parser.py:497–559`. -/
def new (text : List Char) (suspensionState : String) :
    Except SubmissionException SuspensionRequest :=
  match suspensionType suspensionState with
  | none => .ok ⟨text, none, .errorParsing, none,
    [s!"Unknown suspension type: {suspensionState}"], []⟩
  | some requestType =>
    match rpslObjectFromText c.env text false none with
    | .error (.unknownRPSLObjectClass name) =>
      .ok ⟨text, none, .errorUnknownClass, some requestType,
        [s!"unknown object class: {display name}"], []⟩
    | .error e => .error (.parser e)
    | .ok obj =>
      if obj.errors = [] then
        classify c ⟨text, some obj, .processing, some requestType, [], obj.messages.infos⟩ obj
      else .ok ⟨text, some obj, .errorParsing, some requestType, obj.errors, obj.messages.infos⟩

/-- `validate`, `irrd/updates/parser.py:632–640`, which `is_valid` calls as well. -/
def validate (v : AuthValidator) : SuspensionRequest :=
  if v.checkOverride c = .none then
    { r with
      status := .errorAuth
      errorMessages := r.errorMessages ++
        ["Invalid authentication: override password invalid or missing"] }
  else r

/-- `suspend_for_mntner` with the `ValueError`s that it raises before it writes: the handler, and
their message or the messages about suspended objects. -/
def suspend (source mntner : String) (h : DatabaseHandler) :
    Except SubmissionException (DatabaseHandler × Except String (List String)) :=
  if ¬ c.render.authoritative source then
    .ok (h, .error s!"Not authoritative for source {source}")
  else
    match h.flushRpslObjectWritingBuffer c.settings with
    | none => .error .database
    | some h =>
      if ¬ mntnerActive source h.working.objects.rows mntner then
        .ok (h, .error s!"mntner {mntner} does not exist in {source} (or may already be suspended)")
      else
        match suspendForMntner c.settings source mntner c.render.authoritative c.rowOrder h with
        | none => .error .database
        | some (h, suspended) => .ok (h, .ok (suspended.map (fun row ↦
            s!"Suspended {row.objectClass}/{row.rpslPk}/{row.source}")))

/-- The parser of suspended texts. -/
def parseSuspended (text : String) : Option RPSLObject :=
  (rpslObjectFromText c.env text.toList false none).toOption.map (writtenObject c.render)

/-- `reactivate_for_mntner` with the `ValueError`s that it raises before it writes: the handler, and
their message or the messages about restored objects. -/
def reactivate (source mntner : String) (h : DatabaseHandler) :
    Except SubmissionException (DatabaseHandler × Except String (List String)) :=
  if ¬ c.render.authoritative source then
    .ok (h, .error s!"Not authoritative for source {source}")
  else
    match h.flushRpslObjectWritingBuffer c.settings with
    | none => .error .database
    | some h =>
      if pkExists source h mntner "mntner" then
        .ok (h, .error (s!"source {source} has a currently active mntner {mntner} - can not "
          ++ "restore the suspended one"))
      else if ¬ h.working.suspended.any (fun row ↦ row.source = source ∧
          row.objectClass = "mntner" ∧ row.rpslPk = mntner) then
        .ok (h, .error s!"mntner {mntner} not found in suspended store for source {source}")
      else
        match reactivateForMntner c.settings c.scopefilter (parseSuspended c) source mntner
          c.render.authoritative c.suspendedOrder h with
        | none => .error .database
        | some (h, restored, infoMessages) => .ok (h, .ok (infoMessages ++ restored.map (fun o ↦
            s!"Restored {o.rpslObjectClass}/{o.pk}/{o.source}")))

/-- The suspension or reactivation that a request is for. -/
def perform (key : ObjectKey) (h : DatabaseHandler) :
    Except SubmissionException (DatabaseHandler × Except String (List String)) :=
  match r.requestType with
  | some .suspend => suspend c key.source key.rpslPk h
  | some .reactivate => reactivate c key.source key.rpslPk h
  | none => .ok (h, .ok [])

/-- `save`, `irrd/updates/parser.py:561–583`. -/
def save (h : DatabaseHandler) :
    Except SubmissionException (DatabaseHandler × SuspensionRequest) :=
  match r.status, r.rpslObjNew with
  | .processing, some obj => do
    let (h, result) ← r.perform c (objectKey obj) h
    match result with
    | .error message => return (h, { r with
        status := .errorParsing
        errorMessages := r.errorMessages ++ [message] })
    | .ok messages => return (h, { r with
        status := .saved
        infoMessages := r.infoMessages ++ messages })
  | _, _ => .error .notProcessing

end SuspensionRequest

end Irrd.Updates
