import Irrd.Base.Fallible
import Irrd.Utils.UnicodeText

/-!
# Validators

AS numbers as text. Source: `irrd/utils/validators.py`.
-/

namespace Irrd.Utils

open Irrd.Base

/-- `str.upper` of a string. -/
def upper (text : String) : String := String.ofList (upperText text.toList)

/-- `str.split` at a separator. -/
def splitAt (separator : Char) (text : String) : List String :=
  (text.toList.splitOn separator).map String.ofList

/-- A number in asdot format, or what is wrong with it, `irrd/utils/validators.py:19–40`. -/
def asdotInt (number : List Char) : Except String Int :=
  match number.splitOn '.' with
  | [highStr, lowStr] =>
    match int highStr with
    | none => .error "high order value missing or invalid"
    | some high =>
      match int lowStr with
      | none => .error "low order value missing or invalid"
      | some low =>
        if high > 65535 then .error "high order value out of range"
        else if low > 65535 then .error "low order value out of range"
        else .ok (high * 65536 + low)
  | _ => .error "number is not valid asdot format"

/-- The number after the start, `irrd/utils/validators.py:19–46`. -/
def numberInt (asdot : Bool) (number : List Char) : Except String Int :=
  if asdot && '.' ∈ number then asdotInt number
  else
    match int number with
    | some n => .ok n
    | none => .error "number part is not numeric"

/-- The text of an AS number. -/
def asNumberText (n : Nat) : List Char := ("AS" ++ toString n).toList

/-- The text of the `ValidationError` about a value. -/
def invalidAsNumber (value : List Char) (message : String) : String :=
  s!"Invalid AS number {String.ofList value}: {message}"

/-- `parse_as_number` of a text, `irrd/utils/validators.py:7–56`: the text in the format ASxxxx and
the number, or the text of its `ValidationError`. -/
def parseAsNumberText (permitPlain asdotPermitted asdotQueries : Bool) (value : List Char) :
    Except String (List Char × Nat) := do
  let value := upperText value
  let startsWithAs := value.take 2 = ['A', 'S']
  if !permitPlain && !startsWithAs then
    .error (invalidAsNumber value "must start with \"AS\"")
  let number := if startsWithAs then value.drop 2 else value
  let n ← (numberInt (asdotPermitted && asdotQueries) number).mapError (invalidAsNumber value)
  if 0 ≤ n ∧ n ≤ 4294967295 then return (asNumberText n.toNat, n.toNat)
  else .error (invalidAsNumber value "valid range is 0-4294967295")

/-- `parse_as_number` of a string without options, or nothing where it raises an exception. -/
def parseAsNumber (value : String) : Option (String × Nat) :=
  (parseAsNumberText false false false value.toList).toOption.map (fun (parsedStr, parsedInt) ↦
    (String.ofList parsedStr, parsedInt))

example : parseAsNumber "as065537" = some ("AS65537", 65537) := by decide +kernel

end Irrd.Utils
