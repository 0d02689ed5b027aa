import Irrd.Rpki.Validators
import Irrd.Scopefilter.Validators

/-!
# Change requests

The checks that a change request makes of its new object. Source: `irrd/updates/parser.py`.
-/

namespace Irrd.Updates

open Irrd.Conf Irrd.Rpki Irrd.Rpsl Irrd.Scopefilter Irrd.Storage Irrd.Utils

/-- `UpdateRequestType`, `irrd/updates/parser_state.py:6–10`. -/
inductive UpdateRequestType
  | create
  | modify
  | delete
  deriving DecidableEq

section Checks

variable (s : Settings) (requestType : UpdateRequestType) (o : RPSLObject)

/-- `_check_conflicting_roa`, `irrd/updates/parser.py:426–462`. The assertion fails for a route of
AS 0, and the validator for a route without a prefix. -/
def checkConflictingRoa (roas : List ROADatabaseObject) : Option Bool :=
  if !isSet s.roaSource || !o.isRoute then some true
  else if requestType = .delete then some true
  else
    match o.ipPrefix, o.asnFirst with
    | some ip, some asn =>
      if asn = 0 then none
      else some (singleValidateRoute s roas ip asn o.source ≠ .invalid)
    | _, _ => none

/-- `_check_scopefilter`, `irrd/updates/parser.py:464–479`: a modification out of scope is only
noted. -/
def checkScopefilter (v : ScopeFilterValidator) : Bool :=
  if requestType = .delete then true
  else if v.validateRpslObject s o ≠ .inScope then requestType ≠ .create
  else true

end Checks

end Irrd.Updates
