import Irrd.Base.ShrinkingRounds
import Irrd.Storage.Rollback
import Irrd.Updates.Requests

/-!
# Submissions

The requests of a submission are validated in rounds, because each of them may depend on others that
turn out to be invalid. When a round leaves the valid requests as they were, these are saved in the
order in which they were submitted. Sources: `irrd/updates/handler.py`, `irrd/updates/parser.py`.
-/

namespace Irrd.Updates

open Irrd.Base Irrd.Conf Irrd.Rpsl Irrd.Storage Irrd.Utils

/-- A request of a submission. -/
inductive Request
  | change (r : ChangeRequest)
  | suspension (r : SuspensionRequest)

namespace Request

variable (c : SubmissionContext)

/-- `status`. -/
def status : Request → UpdateRequestStatus
  | change r => r.status
  | suspension r => r.status

/-- `rpsl_obj_new`. -/
def rpslObjNew : Request → Option ParsedObject
  | change r => r.rpslObjNew
  | suspension r => r.rpslObjNew

/-- `request_type`, where it is that of a change. -/
def changeType : Request → Option UpdateRequestType
  | change r => r.requestType
  | suspension _ => none

/-- The request after `is_valid` was called, which validates suspensions again,
`irrd/updates/parser.py:227–228,585–587`. -/
def checked (v : AuthValidator) : Request → Request
  | change r => .change r
  | suspension r => .suspension (r.validate c v)

/-- `validate`. -/
def validate (db : Database) (v : Validators) :
    Request → Except SubmissionException (Validators × Request)
  | change r => (r.validate c db v).map (fun (v, r) ↦ (v, .change r))
  | suspension r => .ok (v, .suspension (r.validate c v.auth))

/-- `save`, with what it adds to the log of changes. -/
def save (sender : RequestMeta) (h : DatabaseHandler) :
    Request → Except SubmissionException (DatabaseHandler × Request × List ChangeLog)
  | change r => (r.save c sender h).map (fun (h, r, log) ↦ (h, .change r, log.toList))
  | suspension r => (r.save c h).map (fun (h, r) ↦ (h, .suspension r, []))

/-- Validate the request if its status is valid. -/
def validateIfValid (db : Database) (v : Validators) (r : Request) :
    Except SubmissionException (Validators × Request) :=
  if r.status.isValid then r.validate c db v else .ok (v, r)

/-- Save the request if its status is valid. -/
def saveIfValid (sender : RequestMeta) (h : DatabaseHandler) (r : Request) :
    Except SubmissionException (DatabaseHandler × Request × List ChangeLog) :=
  if r.status.isValid then r.save c sender h else .ok (h, r, [])

end Request

/-- The requests of a submission and the validators that they share. -/
structure Submission where
  requests : List Request
  validators : Validators

namespace Submission

variable (c : SubmissionContext) (db : Database) (s : Submission)

/-- The places of the requests whose status is valid. -/
def validIndices : List Nat :=
  (List.range s.requests.length).filter (fun i ↦ s.requests[i]?.any (·.status.isValid))

/-- The requests whose status is valid. -/
def validRequests : List Request := s.requests.filter (·.status.isValid)

/-- The submission after `is_valid` was called on each request. -/
def checked : Submission :=
  { s with requests := s.requests.map (·.checked c s.validators.auth) }

/-- The types and new objects of the valid requests. -/
def validChanges : Except SubmissionException (List (Option UpdateRequestType × ParsedObject)) :=
  s.validRequests.mapM (fun r ↦
    match r.rpslObjNew with
    | none => .error .assertionError
    | some obj => .ok (r.changeType, obj))

/-- The validators for a round, `irrd/updates/handler.py:167–173`. -/
def preloaded : Except SubmissionException Validators :=
  s.validChanges.map (fun changes ↦
    ⟨s.validators.auth.preApprove ((changes.filter (fun (requestType, obj) ↦
        requestType = some .create && obj.isMntner)).map Prod.snd),
      s.validators.reference.preload changes⟩)

/-- Validate the valid ones among some requests in their order. -/
def validateAll : Validators → List Request → Except SubmissionException (Validators × List Request)
  | v, [] => .ok (v, [])
  | v, r :: requests => do
    let (v, r) ← r.validateIfValid c db v
    let (v, requests) ← validateAll v requests
    return (v, r :: requests)

/-- One round, `irrd/updates/handler.py:166–177`. -/
def round : Except SubmissionException Submission := do
  let v ← s.preloaded
  let (v, requests) ← validateAll c db v s.requests
  return ({ requests, validators := v } : Submission).checked c

/-- The loop over rounds, with `loop_max`, `irrd/updates/handler.py:160–186`: the submission at its
end, and how many rounds it took. -/
def resolve : Except SubmissionException (Submission × Nat) :=
  rounds validIndices (round c db) .excessiveLoops (s.requests.length + 10) [] (s.checked c)

/-- Save the requests that are valid, `irrd/updates/handler.py:188–190`. -/
def saveAll (sender : RequestMeta) (v : AuthValidator) :
    DatabaseHandler → List Request →
      Except SubmissionException (DatabaseHandler × List Request × List ChangeLog)
  | h, [] => .ok (h, [], [])
  | h, r :: requests => do
    let (h, r, log) ← (r.checked c v).saveIfValid c sender h
    let (h, requests, logs) ← saveAll sender v h requests
    return (h, r :: requests, log ++ logs)

/-- The submission `SUCCESS` or `FAILED`, `irrd/updates/handler.py:214–218`. -/
def status : String :=
  if s.requests.all (·.status = .saved) then "SUCCESS" else "FAILED"

end Submission

/-- What processing a submission leaves: the handler after its commit, the requests, and the new
entries of the change log. -/
structure SubmissionResult where
  handler : DatabaseHandler
  requests : List Request
  changeLogs : List ChangeLog

section Handling

variable (c : SubmissionContext) (sender : RequestMeta) (h : DatabaseHandler)

/-- `_handle_change_requests` and the commit after it, `irrd/updates/handler.py:140–192`. -/
def handleChangeRequests (s : Submission) : Except SubmissionException SubmissionResult := do
  let (s, _) ← s.resolve c h.working
  let (h, requests, logs) ← Submission.saveAll c sender s.validators.auth h s.requests
  match h.commit c.settings with
  | none => .error .database
  | some h => return ⟨h, requests, logs⟩

end Handling

section Texts

/-- `str.split` at two newlines. -/
def splitAtEmptyLines : List Char → List (List Char)
  | [] => [[]]
  | [char] => [[char]]
  | '\n' :: '\n' :: text => [] :: splitAtEmptyLines text
  | char :: text =>
    match splitAtEmptyLines text with
    | [] => [[char]]
    | first :: rest => (char :: first) :: rest

/-- The value of a meta attribute, if the line has it. -/
def metaValue (name : String) (line : List Char) : Option (List Char) :=
  let start := name.toList ++ [':']
  if start.isPrefixOf line then some (strip (line.drop start.length)) else none

/-- What the lines of an object say: its text without the meta attributes, and their values. -/
structure RequestText where
  rpslText : List Char
  passwords : List (List Char)
  overrides : List (List Char)
  apiKeys : List String
  deleteReason : Option String
  suspensionState : Option String

namespace RequestText

/-- No lines. -/
def empty : RequestText := ⟨[], [], [], [], none, none⟩

/-- The text with another line, `irrd/updates/parser.py:680–694`. -/
def addLine (t : RequestText) (line : List Char) : RequestText :=
  match metaValue "password" line with
  | some value => { t with passwords := t.passwords ++ [value] }
  | none =>
    match metaValue "override" line with
    | some value => { t with overrides := t.overrides ++ [value] }
    | none =>
      match metaValue "api-key" line with
      | some value => { t with apiKeys := t.apiKeys ++ [display value] }
      | none =>
        match metaValue "delete" line with
        | some value => { t with deleteReason := some (display value) }
        | none =>
          match metaValue "suspension" line with
          | some value => { t with suspensionState := some (display value) }
          | none => { t with rpslText := t.rpslText ++ line ++ ['\n'] }

/-- The lines of an object. -/
def ofObjectText (objectText : List Char) : RequestText :=
  (splitlineUnicodesafe objectText).foldl addLine empty

end RequestText

variable (c : SubmissionContext) (rows : List RPSLDatabaseObject)

/-- The texts of the objects in a blob. -/
def requestTexts (requestsText : List Char) : List RequestText :=
  (((splitAtEmptyLines (requestsText.filter (· ≠ '\r'))).map strip).filter (· ≠ [])).map
    RequestText.ofObjectText

/-- The request for an object. -/
def Request.ofText (t : RequestText) : Except SubmissionException Request :=
  match t.suspensionState with
  | some state =>
    if state ≠ "" then (SuspensionRequest.new c t.rpslText state).map .suspension
    else (ChangeRequest.new c rows t.rpslText t.deleteReason).map .change
  | none => (ChangeRequest.new c rows t.rpslText t.deleteReason).map .change

/-- `parse_change_requests`, `irrd/updates/parser.py:643–721`: the requests, and the validator with
the credentials. -/
def parseChangeRequests (requestsText : List Char) (v : AuthValidator) :
    Except SubmissionException (List Request × AuthValidator) := do
  let texts := requestTexts requestsText
  let requests ← (texts.filter (·.rpslText ≠ [])).mapM (Request.ofText c rows)
  return (requests, { v with
    passwords := texts.flatMap RequestText.passwords
    overrides := texts.flatMap RequestText.overrides
    apiKeys := texts.flatMap RequestText.apiKeys })

end Texts

/-- One attribute of an object in an `RPSLChangeSubmission`. -/
structure RPSLChangeSubmissionObjectAttribute where
  name : String
  value : String

/-- `RPSLChangeSubmissionObject`: a text, or attributes. -/
inductive RPSLChangeSubmissionObject
  | objectText (text : String)
  | attributes (attributes : List RPSLChangeSubmissionObjectAttribute)

/-- The text of an object, `irrd/updates/handler.py:84–91`. -/
def RPSLChangeSubmissionObject.text : RPSLChangeSubmissionObject → List Char
  | .objectText text => text.toList
  | .attributes pairs =>
    joinWith '\n' (pairs.map (fun pair ↦
      pair.name.toList ++ ": ".toList ++ pair.value.toList)) ++ ['\n']

/-- `RPSLChangeSubmission`. -/
structure RPSLChangeSubmission where
  objects : List RPSLChangeSubmissionObject
  passwords : List String
  override : Option String
  apiKeys : List String
  deleteReason : String

/-- `RPSLSuspensionSubmissionObject`. -/
structure RPSLSuspensionSubmissionObject where
  mntner : String
  source : String
  requestType : SuspensionRequestType

/-- `RPSLSuspensionSubmission`. -/
structure RPSLSuspensionSubmission where
  objects : List RPSLSuspensionSubmissionObject
  override : Option String

section Loading

variable (c : SubmissionContext) (sender : RequestMeta) (h : DatabaseHandler)

/-- `_resolve_pgp_key_id`, `irrd/updates/handler.py:194–212`. -/
def resolvePgpKeyId (rows : List RPSLDatabaseObject) (pgpFingerprint : String) :
    Except SubmissionException (Option (List Char)) := do
  let withoutSpaces (text : String) : List Char := text.toList.filter (· ≠ ' ')
  let cleanFingerprint := withoutSpaces pgpFingerprint
  let keyId := "PGPKEY-".toList ++ cleanFingerprint.drop (cleanFingerprint.length - 8)
  let results ← c.executeQuery rows [.filter (.objectClasses ["key-cert"]),
    .filter (.rpslPks [display keyId])]
  return if results.any (fun row ↦
      withoutSpaces (((row.parsedData.lookup "fingerpr").getD []).headD "") = cleanFingerprint) then
    some keyId
  else none

/-- The name of the key that a text blob was signed with, if it was, `irrd/updates/handler.py:41`.
-/
def signingKey (rows : List RPSLDatabaseObject) (pgpFingerprint : Option String) :
    Except SubmissionException (Option (List Char)) :=
  if isSet pgpFingerprint then resolvePgpKeyId c rows (pgpFingerprint.getD "") else .ok none

/-- The validator for references before any round, beside one for authentication. -/
def Submission.start (requests : List Request) (auth : AuthValidator) : Submission :=
  ⟨requests, ⟨auth, .new⟩⟩

/-- `load_text_blob`, `irrd/updates/handler.py:31–58`. -/
def loadTextBlob (objectTextsBlob : String) (origin : AuthoritativeChangeOrigin)
    (pgpFingerprint : Option String) (internalAuthenticatedUser : Option AuthUser) :
    Except SubmissionException SubmissionResult := do
  let h := DatabaseHandler.opened h.committed h
  let rows := h.working.objects.rows
  let keycertObjPk ← signingKey c rows pgpFingerprint
  let (requests, auth) ← parseChangeRequests c rows objectTextsBlob.toList
    (.new origin keycertObjPk internalAuthenticatedUser none)
  handleChangeRequests c sender h (.start requests auth)

/-- The overrides of a submission. -/
def overridesOf (override : Option String) : List (List Char) :=
  if isSet override then override.toList.map String.toList else []

/-- `load_change_submission`, `irrd/updates/handler.py:60–108`. -/
def loadChangeSubmission (data : RPSLChangeSubmission) (origin : AuthoritativeChangeOrigin)
    (delete : Bool) (remoteIp : Option IP) : Except SubmissionException SubmissionResult := do
  let h := DatabaseHandler.opened h.committed h
  let deleteReason := if delete then some data.deleteReason else none
  let auth := { AuthValidator.new origin none none remoteIp with
    passwords := data.passwords.map String.toList
    overrides := overridesOf data.override
    apiKeys := data.apiKeys }
  let requests ← data.objects.mapM (fun obj ↦
    (ChangeRequest.new c h.working.objects.rows obj.text deleteReason).map Request.change)
  handleChangeRequests c sender h (.start requests auth)

/-- The value of a `SuspensionRequestType`. -/
def SuspensionRequestType.value : SuspensionRequestType → String
  | suspend => "suspend"
  | reactivate => "reactivate"

/-- `load_suspension_submission`, `irrd/updates/handler.py:110–138`. -/
def loadSuspensionSubmission (data : RPSLSuspensionSubmission) :
    Except SubmissionException SubmissionResult := do
  let h := DatabaseHandler.opened h.committed h
  let auth := { AuthValidator.new .other none none none with
    overrides := overridesOf data.override }
  let requests ← data.objects.mapM (fun obj ↦
    (SuspensionRequest.new c s!"mntner: {obj.mntner}\nsource: {obj.source}\n".toList
      obj.requestType.value).map Request.suspension)
  handleChangeRequests c sender h (.start requests auth)

end Loading

end Irrd.Updates
