import Irrd.Rpsl.Auth
import Irrd.Updates.ChangeRequest

/-!
# States of requests

How a request stands, how it was authenticated, and the exceptions that end the processing of a
submission. Source: `irrd/updates/parser_state.py`.
-/

namespace Irrd.Updates

open Irrd.Rpsl

/-- `SuspensionRequestType`. -/
inductive SuspensionRequestType
  | suspend
  | reactivate
  deriving DecidableEq

/-- `UpdateRequestStatus`. -/
inductive UpdateRequestStatus
  | saved
  | processing
  | errorUnknownClass
  | errorParsing
  | errorAuth
  | errorRules
  | errorReference
  | errorProtectedName
  | errorRoa
  | errorScopefilter
  | errorNonAuthoritive
  | errorObjectFilter
  deriving DecidableEq

/-- The statuses of `is_valid`, `irrd/updates/parser.py:227–228`. -/
def UpdateRequestStatus.isValid (status : UpdateRequestStatus) : Bool :=
  status ∈ [.saved, .processing]

/-- The status after a check has failed, unless one has failed before. -/
def UpdateRequestStatus.failWith (status failure : UpdateRequestStatus) : UpdateRequestStatus :=
  if status.isValid then failure else status

/-- `AuthMethod`. -/
inductive AuthMethod
  | overridePassword
  | overrideInternalAuth
  | mntnerPassword
  | mntnerPgpKey
  | mntnerInternalAuth
  | mntnerApiKey
  | mntnerInSameRequest
  | none
  deriving DecidableEq

/-- `used_override`. -/
def AuthMethod.usedOverride (method : AuthMethod) : Bool :=
  method ∈ [.overridePassword, .overrideInternalAuth]

/-- `RPSLSetAutnumAuthenticationMode`. -/
inductive RPSLSetAutnumAuthenticationMode
  | disabled
  | opportunistic
  | required
  deriving DecidableEq

/-- The exceptions that end the processing of a submission. -/
inductive SubmissionException
  | parser (exception : ParserException)
  | keyError (key : String)
  | attributeError
  | assertionError
  | noSource
  | severalObjects
  | notProcessing
  | valueError (message : String)
  | excessiveLoops
  | database
  deriving DecidableEq

/-- `for_set_name`, where the names of modes are in any case. -/
def RPSLSetAutnumAuthenticationMode.forSetName (c : SetCreationSettings) (setName : String) :
    Except SubmissionException RPSLSetAutnumAuthenticationMode :=
  let setting := c.autnumAuthentication setName
  let setting := if Conf.isSet setting then setting
    else c.autnumAuthentication authSetCreationCommonKey
  match setting.map Utils.upper with
  | some "DISABLED" => .ok .disabled
  | some "OPPORTUNISTIC" => .ok .opportunistic
  | some "REQUIRED" => .ok .required
  | _ => .error .attributeError

section Statuses

variable {status failure : UpdateRequestStatus}

theorem failWith_isValid (hfailure : failure.isValid = false) :
    (status.failWith failure).isValid = false := by
  unfold UpdateRequestStatus.failWith
  split
  · exact hfailure
  · next hstatus => exact Bool.eq_false_iff.mpr hstatus

end Statuses

end Irrd.Updates
