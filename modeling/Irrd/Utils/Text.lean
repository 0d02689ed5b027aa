import Mathlib.Algebra.Ring.Nat
import Mathlib.Data.List.Infix

/-!
# Text of objects

What responses change in the text of objects: password hashes are removed, and attributes are
replaced by dummy values. Source: `irrd/utils/text.py`. Case is ASCII case: no other character
has the case of a letter of a password scheme.
-/

namespace Irrd.Utils

/-- Whether a text is among others is decided by comparing characters. -/
instance lawfulBEq_text : LawfulBEq (List Char) := List.instLawfulBEq

/-- `PASSWORD_HASHERS_ALL`, `irrd/rpsl/auth.py:15–19`. -/
def passwordHashersAll : List String := ["CRYPT-PW", "MD5-PW", "BCRYPT-PW"]

/-- `PASSWORD_HASH_DUMMY_VALUE`, `irrd/conf/__init__.py:24`. -/
def passwordHashDummyValue : String := "DummyValue"

/-- `str.lower`. -/
def lower (text : List Char) : List Char := text.map Char.toLower

section AuthHashes

/-- What follows a password scheme in place of the hash. -/
def filteredHash : List Char :=
  (" " ++ passwordHashDummyValue ++ "  # Filtered for security").toList

/-- The length of the password scheme that a text starts with, if something follows it. -/
def matchHasher (text : List Char) : Option Nat :=
  passwordHashersAll.findSome? (fun hasher ↦
    let n := hasher.toList.length
    if lower (text.take n) = lower hasher.toList ∧ text.drop n ≠ [] then some n else none)

/-- `re_remove_passwords.sub` on one line: the first scheme loses what follows it. -/
def removeLineHashes : List Char → List Char
  | [] => []
  | c :: line =>
    match matchHasher (c :: line) with
    | some n => (c :: line).take n ++ filteredHash
    | none => c :: removeLineHashes line

/-- `re_remove_passwords.sub`, `irrd/utils/text.py:9`: a match does not go past its line. -/
def removeHashes (text : List Char) : List Char :=
  ['\n'].intercalate ((text.splitOn '\n').map removeLineHashes)

/-- `remove_auth_hashes`, `irrd/utils/text.py:14–23`. -/
def removeAuthHashes (input : String) : String :=
  if passwordHashersAll.any (fun hasher ↦ lower hasher.toList <:+: lower input.toList) then
    String.ofList (removeHashes input.toList)
  else input

end AuthHashes

section Dummify

/-- Characters that `str.splitlines` splits at. -/
def lineBreaks : List Char :=
  ['\n', '\r', '\x0b', '\x0c', '\x1c', '\x1d', '\x1e', '\u0085', '\u2028', '\u2029']

/-- Characters that `str.strip` removes. -/
def whitespace : List Char :=
  lineBreaks ++ ['\t', '\x1f', ' ', '\u00a0', '\u1680', '\u2000', '\u2001', '\u2002', '\u2003',
    '\u2004', '\u2005', '\u2006', '\u2007', '\u2008', '\u2009', '\u200a', '\u202f', '\u205f',
    '\u3000']

/-- `str.splitlines(keepends=True)`: lines with the characters that end them. -/
def splitlinesKeepends : List Char → List (List Char × List Char)
  | [] => []
  | '\r' :: '\n' :: text => ([], ['\r', '\n']) :: splitlinesKeepends text
  | c :: text =>
    if c ∈ lineBreaks then ([], [c]) :: splitlinesKeepends text
    else
      match splitlinesKeepends text with
      | [] => [([c], [])]
      | (line, ending) :: lines => (c :: line, ending) :: lines

/-- `str.splitlines`. -/
def splitlines (text : List Char) : List (List Char) := (splitlinesKeepends text).map Prod.fst

/-- `str.strip`. -/
def strip (text : List Char) : List Char :=
  ((text.dropWhile (· ∈ whitespace)).reverse.dropWhile (· ∈ whitespace)).reverse

/-- `textwrap.indent`: lines of whitespace stay as they are. -/
def indent (text indentation : List Char) : List Char :=
  (splitlinesKeepends text).flatMap (fun (line, ending) ↦
    if strip line = [] then line ++ ending else indentation ++ line ++ ending)

/-- `str.ljust`. -/
def ljust (text : List Char) (width : Nat) : List Char :=
  text ++ List.replicate (width - text.length) ' '

/-- `str.replace("%s", ..)`. -/
def replacePk (pk : List Char) : List Char → List Char
  | '%' :: 's' :: text => pk ++ replacePk pk text
  | c :: text => c :: replacePk pk text
  | [] => []

/-- `RPSL_ATTRIBUTE_TEXT_WIDTH`. -/
def rpslAttributeTextWidth : Nat := 16

/-- The settings `nrtm_dummified_*` of a source. -/
structure DummifySettings where
  objectClasses : List String
  attributes : List (String × String)
  remarks : Option String
  deriving DecidableEq

/-- The line after dummifying: the last attribute of the setting that it starts with counts. -/
def dummifyLine (attributes : List (String × String)) (pk : List Char) (line : List Char) :
    List Char :=
  attributes.foldl (fun current (key, value) ↦
    let start := key.toList ++ [':']
    if start.isPrefixOf line then
      ljust start rpslAttributeTextWidth ++ replacePk pk value.toList
    else current) line

/-- `dummify_object_text`, `irrd/utils/text.py:118–174`. -/
def dummifyObjectText (d : DummifySettings) (rpslText objectClass pk : String) : String :=
  let classes := d.objectClasses.map (fun c ↦ lower (strip c.toList))
  if rpslText = "" ∨ objectClass.toList ∉ classes ∨ d.attributes = [] then rpslText
  else
    let lines := (splitlines rpslText.toList).map (dummifyLine d.attributes pk.toList)
    let dummified := ['\n'].intercalate lines ++ ['\n']
    match d.remarks with
    | some remarks =>
      if remarks ≠ "" ∧ rpslText.toList ≠ dummified then
        String.ofList (dummified ++
          strip (indent remarks.toList (ljust "remarks:".toList rpslAttributeTextWidth)) ++ ['\n'])
      else String.ofList dummified
    | none => String.ofList dummified

end Dummify

end Irrd.Utils
