import Irrd.Updates.AuthValidator

/-!
# References and rules of requests

References of an object have to exist, also after the other requests of the submission, and an
object that others refer to can neither be deleted nor created. Source:
`irrd/updates/validators.py`.
-/

namespace Irrd.Updates

open Irrd.Conf Irrd.Rpsl Irrd.Storage Irrd.Utils

/-- `ReferenceValidator`. -/
structure ReferenceValidator where
  cache : List ObjectKey
  preloadedNew : List ObjectKey
  preloadedDeleted : List ObjectKey

namespace ReferenceValidator

variable (c : SubmissionContext) (v : ReferenceValidator)

/-- `__init__`. -/
def new : ReferenceValidator := ⟨[], [], []⟩

/-- `preload`, `irrd/updates/validators.py:111–132`, of the types and new objects of requests. -/
def preload (requests : List (Option UpdateRequestType × ParsedObject)) : ReferenceValidator :=
  { v with
    preloadedNew := (requests.filter (fun r ↦ r.1 ∈ [some .create, some .modify])).map
      (fun r ↦ objectKey r.2)
    preloadedDeleted := (requests.filter (fun r ↦ r.1 = some .delete)).map
      (fun r ↦ objectKey r.2) }

/-- What is known of an object without a query. -/
def known (key : ObjectKey) : Option Bool :=
  if key ∈ v.cache then some true
  else if key ∈ v.preloadedNew then some true
  else if key ∈ v.preloadedDeleted then some false
  else none

/-- `_check_reference_to_others`, `irrd/updates/validators.py:156–179`. -/
def checkReferenceToOthers (rows : List RPSLDatabaseObject) (objectClasses : List String)
    (objectPk source : String) : Except SubmissionException (ReferenceValidator × Bool) :=
  match objectClasses.findSome? (fun objectClass ↦ v.known ⟨objectPk, source, objectClass⟩) with
  | some found => .ok (v, found)
  | none => do
    let results ← c.executeQuery rows [.filter (.sources [source]),
      .filter (.objectClasses objectClasses), .filter (.rpslPks [objectPk])]
    return ({ v with cache := v.cache ++ results.map (fun r ↦ ⟨objectPk, source, r.objectClass⟩) },
      decide (results ≠ []))

/-- What is said of a reference to an object that is not there. -/
def notFoundMessage (fieldName objectPk source : String) (objectsReferred : List String) : String :=
  s!"Object {objectPk} referenced in field {fieldName} not found in database {source} - " ++
    "must reference " ++
    (if 1 < objectsReferred.length then "one of " ++ ", ".intercalate objectsReferred
      else objectsReferred.headD "") ++ "."

/-- One reference of an object. -/
def checkReference (rows : List RPSLDatabaseObject) (source : String)
    (t : ReferenceValidator × ValidatorResult) (reference : String × List String × String) :
    Except SubmissionException (ReferenceValidator × ValidatorResult) := do
  let (fieldName, objectsReferred, objectPk) := reference
  let (v, found) ← t.1.checkReferenceToOthers c rows objectsReferred objectPk source
  return (v, if found then t.2
    else t.2.addError (notFoundMessage fieldName objectPk source objectsReferred))

/-- The references of an object, one by one. -/
def referencesOf (rpslObj : ParsedObject) : List (String × List String × String) :=
  rpslObj.referredStrongObjects.flatMap (fun (fieldName, objectsReferred, objectPks) ↦
    objectPks.map (fun objectPk ↦ (fieldName, objectsReferred, display objectPk)))

/-- `check_references_to_others`, `irrd/updates/validators.py:134–154`. -/
def checkReferencesToOthers (rows : List RPSLDatabaseObject) (rpslObj : ParsedObject) :
    Except SubmissionException (ReferenceValidator × ValidatorResult) :=
  (referencesOf rpslObj).foldlM (checkReference c rows (objectKey rpslObj).source)
    (v, ValidatorResult.new)

/-- `_check_references_from_others`, `irrd/updates/validators.py:257–288`: the objects that refer to
an object and are not deleted. -/
def referencesFromOthers (rows : List RPSLDatabaseObject) (rpslObj : ParsedObject) :
    Except SubmissionException (List RPSLDatabaseObject) :=
  if rpslObj.referencesStrongInbound = [] then .ok []
  else do
    let results ← c.executeQuery rows [.filter (.sources [(objectKey rpslObj).source]),
      .lookupAttrsIn rpslObj.referencesStrongInbound [.text (display rpslObj.pk)]]
    return results.filter (fun r ↦ r.key ∉ v.preloadedDeleted)

/-- `check_references_from_others_for_deletion`, `irrd/updates/validators.py:181–208`. -/
def checkReferencesFromOthersForDeletion (rows : List RPSLDatabaseObject) (rpslObj : ParsedObject)
    (usedOverride : Bool) : Except SubmissionException ValidatorResult := do
  let referring ← v.referencesFromOthers c rows rpslObj
  let rpslPk := display rpslObj.pk
  return if usedOverride ∧ rpslObj.rpslObjectClass ∈ protectedNameObjectClasses then
    referring.foldl (fun result r ↦ result.addInfo
      (s!"NOTE: object {rpslPk} still referenced by {r.objectClass} {r.rpslPk}. "
        ++ "Delete permitted due to override. This creates a broken reference.")) .new
  else referring.foldl (fun result r ↦ result.addError
    (s!"Object {rpslPk} to be deleted, but still referenced by {r.objectClass} {r.rpslPk}")) .new

/-- `ProtectedRPSLNameQuery` for an object. -/
def isProtectedName (protectedNames : List ProtectedRPSLName) (rpslObj : ParsedObject) : Bool :=
  let key := objectKey rpslObj
  protectedNames.any (fun row ↦ row.protectedName = key.rpslPk ∧
    row.objectClass = key.objectClass ∧ row.source = key.source)

/-- `check_protected_name`, `irrd/updates/validators.py:210–255`. -/
def checkProtectedName (db : Database) (rpslObj : ParsedObject) (usedOverride : Bool) :
    Except SubmissionException ValidatorResult := do
  let referring ← v.referencesFromOthers c db.objects.rows rpslObj
  let rpslPk := display rpslObj.pk
  let isProtected := isProtectedName db.protectedNames rpslObj
  return if usedOverride then
    let result := referring.foldl (fun result r ↦ result.addInfo
      (s!"NOTE: existing references to {rpslPk} exist from {r.objectClass} {r.rpslPk}, "
        ++ "permitted due to override")) ValidatorResult.new
    if isProtected then result.addInfo
      s!"NOTE: object {rpslPk} has a protected name, creation permitted due to override."
    else result
  else
    let result := referring.foldl (fun result r ↦ result.addError
      (s!"Object {rpslPk} to be created, but existing references exist from "
        ++ s!"{r.objectClass} {r.rpslPk}")) ValidatorResult.new
    if isProtected then result.addError
      (s!"Object {rpslPk} has a protected name that can not be reused. "
        ++ "Create the object under a different name.")
    else result

end ReferenceValidator

section Rules

variable (c : SubmissionContext) (db : Database) (rpslObj : ParsedObject)

/-- `BLOCKLIST_ROUTES`. -/
def blocklistRoutes : List IP := [⟨4, 0, 0⟩, ⟨4, 0, 32⟩, ⟨6, 0, 0⟩, ⟨6, 0, 128⟩]

/-- `_check_suspended_mntner_with_same_pk`. -/
def checkSuspendedMntnerWithSamePk : Bool :=
  db.suspended.any (fun row ↦ row.objectClass = "mntner" ∧
    row.rpslPk = display (strip (upperText rpslObj.pk)) ∧
    row.source = display (strip (upper (objectKey rpslObj).source).toList))

/-- `_check_mntner_migrated`. -/
def checkMntnerMigrated : Bool :=
  c.authMntners.any (fun m ↦ m.rpslMntnerPk = (objectKey rpslObj).rpslPk ∧
    m.rpslMntnerSource = (objectKey rpslObj).source)

/-- The rule for a maintainer, by whether it is migrated and whether it has the internal method. -/
def internalAuthRule (isMigrated hasInternalAuth : Bool) (result : ValidatorResult) :
    ValidatorResult :=
  if isMigrated && !hasInternalAuth then result.addError
    s!"This maintainer is migrated and must include the {rpslMntnerAuthInternal} method."
  else if !isMigrated && hasInternalAuth then result.addError
    ("This maintainer is not migrated, and therefore can not use the "
      ++ s!"{rpslMntnerAuthInternal} method.")
  else result

/-- `RulesValidator.validate`, `irrd/updates/validators.py:710–742`. -/
def rulesValidate (requestType : UpdateRequestType) :
    Except SubmissionException ValidatorResult :=
  let key := objectKey rpslObj
  let result := ValidatorResult.new
  let result := match rpslObj.resources.ipPrefix with
    | some ip =>
      if requestType ≠ .delete ∧ rpslObj.rpslObjectClass ∈ ["route", "route6"] ∧
          ip ∈ blocklistRoutes then
        result.addError s!"Route(6) objects for {display (c.env.strIp ip)} are not permitted."
      else result
    | none => result
  if rpslObj.isMntner then
    let result := if requestType = .create ∧ checkSuspendedMntnerWithSamePk db rpslObj then
        result.addError (s!"A suspended mntner with primary key {key.rpslPk} already exists for "
          ++ key.source)
      else result
    match rpslObj.hasInternalAuth with
    | none => .error (.keyError "auth")
    | some hasInternalAuth => .ok
      (internalAuthRule (checkMntnerMigrated c rpslObj) hasInternalAuth result)
  else .ok result

end Rules

end Irrd.Updates
