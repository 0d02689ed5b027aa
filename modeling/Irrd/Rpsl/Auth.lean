import Irrd.Rpsl.Parser

/-!
# Authentication by objects

Passwords and keys are verified against the lines of a maintainer, all hashes of a maintainer can be
replaced by one, and the name of a new set has to begin with an AS number. The hash functions are
parameters. Sources: `irrd/rpsl/auth.py`, `irrd/rpsl/rpsl_objects.py`.
-/

namespace Irrd.Rpsl

open Irrd.Utils

/-- The hash functions of `PASSWORD_HASHERS_ALL` and `PASSWORD_REPLACEMENT_HASH`: whether a password
verifies a hash of a scheme, with no result where the hash is malformed, and the hash of a new
password. -/
structure PasswordHashFunctions where
  verify : String → List Char → List Char → Option Bool
  hash : List Char → List Char

section Verification

variable (env : Environment) (f : PasswordHashFunctions)

/-- One line of `verify_auth_lines`, `irrd/rpsl/auth.py:54–67`. -/
def verifyAuthLine (passwords : List (List Char)) (keycertObjPk : Option (List Char))
    (auth : List Char) : Option (List Char) :=
  if keycertObjPk.any (fun pk ↦ pk ≠ [] && upperText auth = upperText pk) then
    keycertObjPk.map upperText
  else
    match splitOnce ' ' auth with
    | none => none
    | some (scheme, hash) =>
      match (getPasswordHashers env true).find? (fun hasher ↦ hasher.toList = upperText scheme) with
      | none => none
      | some hasher =>
        if passwords.any (fun password ↦ f.verify hasher password hash = some true) then
          some (upperText scheme)
        else none

/-- `verify_auth_lines`, `irrd/rpsl/auth.py:43–68`. -/
def verifyAuthLines (authLines passwords : List (List Char)) (keycertObjPk : Option (List Char)) :
    Option (List Char) :=
  authLines.findSome? (verifyAuthLine env f passwords keycertObjPk)

end Verification

/-- `auth.set_creation`, by the class of a set. -/
structure SetCreationSettings where
  prefixRequired : String → Option Bool
  autnumAuthentication : String → Option String

/-- `AUTH_SET_CREATION_COMMON_KEY`, `irrd/conf/__init__.py:29`. -/
def authSetCreationCommonKey : String := "COMMON"

/-- The classes of `RPSLSet`. -/
def rpslSetClasses : List String :=
  ["as-set", "filter-set", "peering-set", "route-set", "rtr-set"]

namespace ParsedObject

variable (env : Environment) (f : PasswordHashFunctions) (obj : ParsedObject)

/-- `isinstance(.., RPSLMntner)`. -/
def isMntner : Bool := obj.rpslObjectClass = "mntner"

/-- `isinstance(.., RPSLSet)`. -/
def isSet : Bool := obj.rpslObjectClass ∈ rpslSetClasses

/-- `verify_auth`. -/
def verifyAuth (passwords : List (List Char)) (keycertObjPk : Option (List Char)) :
    Option (List Char) :=
  verifyAuthLines env f (obj.values "auth") passwords keycertObjPk

/-- `has_dummy_auth_value`. -/
def hasDummyAuthValue : Bool :=
  obj.authHashes ≠ [] && obj.authHashes.all (fun auth ↦ auth.2 = passwordHashDummyValue.toList)

/-- `force_single_new_password`. -/
def forceSingleNewPassword (password : List Char) : ParsedObject :=
  let auths := (obj.values "auth").filter (' ' ∉ ·)
  obj.updateAttributeValue "auth" (auths ++ ["BCRYPT-PW ".toList ++ f.hash password]) false

/-- `has_internal_auth`, which needs a list of lines. -/
def hasInternalAuth : Option Bool :=
  (obj.parsedData.get "auth".toList).map (fun _ ↦
    decide (rpslMntnerAuthInternal.toList ∈ obj.values "auth"))

/-- `clean_for_create`: the error it adds, or the AS number that the name of a set begins with,
`irrd/rpsl/rpsl_objects.py:55–71`. The error names it after it was reset. -/
def cleanForCreate (c : SetCreationSettings) : Except String (Option (List Char)) :=
  if obj.isSet then
    let pkAsnSegment := beforeFirst ':' obj.pk
    match asNumber pkAsnSegment with
    | .ok _ => .ok (some pkAsnSegment)
    | .error e =>
      if c.prefixRequired obj.rpslObjectClass = some false then .ok none
      else if c.prefixRequired authSetCreationCommonKey = some false then .ok none
      else .error (s!"{obj.rpslObjectClass} names must be hierarchical and the first component "
        ++ s!"must be an AS number, e.g. \"AS65537:None\": {e}")
  else .ok none

end ParsedObject

end Irrd.Rpsl
