import Irrd.Rpsl.ObjectClasses
import Irrd.Utils.Text

/-!
# Parsing objects

Object text is taken apart into attributes, their counts are validated, and their values are
parsed and indexed. Rendering writes the attributes again. Source: `irrd/rpsl/parser.py`,
`irrd/rpsl/rpsl_objects.py`.
-/

namespace Irrd.Rpsl

open Irrd.Utils

/-- The exceptions that parsing raises. -/
inductive ParserException
  | unknownRPSLObjectClass (name : List Char)
  | invalidUrl (value : List Char)
  | alreadySet (value : List Char) (attr : String)
  | typeError (attr : List Char)
  | attributeError (attr : List Char)
  | noSource
  deriving DecidableEq

/-- A value in `parsed_data`. -/
inductive ParsedValue
  | text (value : List Char)
  | list (values : List (List Char))
  deriving DecidableEq

/-- An element of `_object_data`: name, value and continuation characters. -/
structure Attribute where
  name : List Char
  value : List Char
  continuationChars : List Char
  deriving DecidableEq

/-- `parsed_data`, in the order of insertion. -/
abbrev ParsedData := List (List Char × ParsedValue)

namespace ParsedData

/-- The value under a key. -/
def get (d : ParsedData) (key : List Char) : Option ParsedValue := d.lookup key

/-- Set the value of a key, which keeps its place. -/
def set (d : ParsedData) (key : List Char) (value : ParsedValue) : ParsedData :=
  if (d.get key).isSome then d.map (fun e ↦ if e.1 = key then (key, value) else e)
  else d ++ [(key, value)]

end ParsedData

/-- `RPSLObject` after parsing, `irrd/rpsl/parser.py:58–157`. -/
structure ParsedObject where
  objectClass : RPSLObjectClass
  strictValidation : Bool
  defaultSource : List Char
  messages : RPSLParserMessages
  objectData : List Attribute
  parsedData : ParsedData
  resources : Resources

section Values

variable (env : Environment)

/-- `RPSLFieldListMixin.parse`. -/
def listFieldParse (parseOne : List Char → Except ParserException FieldOutcome)
    (value : List Char) : Except ParserException FieldOutcome := do
  let singleValues := ((value.splitOn ',').map strip).filter (· ≠ [])
  let outcomes ← singleValues.mapM parseOne
  let messages := (outcomes.map Prod.snd).flatten
  match outcomes.mapM Prod.fst with
  | none => return (none, messages)
  | some results =>
    let values := results.map RPSLFieldParseResult.value
    return (some ⟨joinWith ',' values, values, .none⟩, messages)

/-- `parse` of fields that are no references. -/
def FieldKind.parseDirect (kind : FieldKind) (value : List Char) (strictValidation : Bool) :
    Except ParserException FieldOutcome :=
  match kind with
  | .text => .ok (textFieldParse env value)
  | .ipv4Prefix => .ok (ipv4PrefixFieldParse env value)
  | .ipv4Prefixes => listFieldParse (fun v ↦ .ok (ipv4PrefixFieldParse env v)) value
  | .ipv6Prefix => .ok (ipv6PrefixFieldParse env value)
  | .ipv6Prefixes => listFieldParse (fun v ↦ .ok (ipv6PrefixFieldParse env v)) value
  | .ipv4AddressRange => .ok (ipv4AddressRangeFieldParse env value)
  | .routeSetMembers ipVersion =>
    listFieldParse (fun v ↦ .ok (routeSetMemberFieldParse env ipVersion v strictValidation)) value
  | .asNumber => .ok (asNumberFieldParse value)
  | .asBlock => .ok (asBlockFieldParse value)
  | .setName setPrefix => .ok (parseSetName [setPrefix ++ "-"] value strictValidation)
  | .email => .ok (emailFieldParse value)
  | .changed => .ok (changedFieldParse value)
  | .dnsName => .ok (dnsNameFieldParse value)
  | .url =>
    match urlFieldParse env value with
    | some outcome => .ok outcome
    | none => .error (.invalidUrl value)
  | .genericName allowedPrefixes nonStrictAllowAny =>
    .ok (genericNameFieldParse allowedPrefixes nonStrictAllowAny value strictValidation)
  | .auth => .ok (authFieldParse env value strictValidation)
  | .reference _ | .referenceList .. => .ok (none, [])

/-- `RPSLReferenceField.parse`: the first identifier field that parses the value decides, and no
identifier field is a reference. -/
def referenceFieldParse (value : List Char) (strictValidation : Bool) :
    List String → RPSLParserMessages → Except ParserException FieldOutcome
  | [], messages => .ok (none, messages)
  | name :: referring, messages =>
    match identifierField name with
    | none => referenceFieldParse value strictValidation referring messages
    | some f => do
      let (result, fieldMessages) ← f.kind.parseDirect env value strictValidation
      match result with
      | some r => return (some r, [])
      | none =>
        referenceFieldParse value strictValidation referring (messages ++ fieldMessages)

/-- `parse` of a field. -/
def FieldKind.parse (kind : FieldKind) (value : List Char) (strictValidation : Bool) :
    Except ParserException FieldOutcome :=
  match kind with
  | .reference referring => referenceFieldParse env value strictValidation referring []
  | .referenceList referring allowKwAny _ =>
    if allowKwAny ∧ upperText value = "ANY".toList then
      .ok (some ⟨"ANY".toList, ["ANY".toList], .none⟩, [])
    else
      listFieldParse (fun v ↦ referenceFieldParse env v strictValidation referring []) value
  | kind => kind.parseDirect env value strictValidation

/-- `_normalise_rpsl_value`, `irrd/rpsl/parser.py:440–467`. -/
def normaliseRpslValue (value : List Char) : List Char :=
  if '\n' ∉ value then strip (beforeFirst '#' value)
  else
    joinWith ',' (((splitlineUnicodesafe value).map (fun line ↦
      stripChars ['\n', '\t', ',', ' '] (beforeFirst '#' line))).filter (· ≠ []))

end Values

section Extraction

variable (c : RPSLObjectClass)

/-- Save the data of a finished attribute, unless it is discarded. -/
def saveAttribute (data : List Attribute) (current : Option Attribute) : List Attribute :=
  match current with
  | some a => if a.name = [] ∨ isWord c.discardedFields a.name then data else data ++ [a]
  | none => data

/-- A character that continues an attribute. -/
def isContinuation (char : Char) : Bool := char ∈ [' ', '+', '\t']

/-- `_extract_attributes_values` from a line on: the attributes, and the error that it stopped at,
`irrd/rpsl/parser.py:258–310`. -/
def extractLines : Nat → List Attribute → Option Attribute → List (List Char) →
    List Attribute × RPSLParserMessages
  | _, data, current, [] => (saveAttribute c data current, [])
  | lineNo, data, _, [] :: _ =>
    (data, [(.error, s!"Line {lineNo + 1}: encountered empty line in the middle of object: []")])
  | lineNo, data, current, (char :: rest) :: lines =>
    if isContinuation char then
      extractLines (lineNo + 1) data (current.map (fun a ↦ { a with
        value := a.value ++ '\n' :: strip rest
        continuationChars := a.continuationChars ++ [char] })) lines
    else
      let data := saveAttribute c data current
      match splitOnce ':' (char :: rest) with
      | none =>
        (data, [(.error, s!"Line {lineNo + 1}: line is neither continuation nor valid attribute "
          ++ s!"[{display (char :: rest)}]")])
      | some (attr, value) =>
        let attr := lower attr
        if ¬ isWord c.attrsAllowed attr ∧ ¬ reAttrName attr then
          (data, [(.error, s!"Line {lineNo + 1}: encountered malformed attribute name: "
            ++ s!"[{display attr}]")])
        else extractLines (lineNo + 1) data (some ⟨attr, strip value, []⟩) lines

/-- `_extract_attributes_values`. -/
def extractAttributesValues (text : List Char) : List Attribute × RPSLParserMessages :=
  extractLines c 0 [] none (splitlineUnicodesafe (strip text))

end Extraction

namespace ParsedObject

variable (env : Environment) (obj : ParsedObject)

/-- `rpsl_object_class`. -/
def rpslObjectClass : String := obj.objectClass.rpslObjectClass

/-- The errors of an object. -/
def errors : List String := obj.messages.errors

/-- A text in `parsed_data`, empty if there is none. -/
def textOf (key : String) : List Char :=
  match obj.parsedData.get key.toList with
  | some (.text value) => value
  | _ => []

/-- `pk`. -/
def pk : List Char := upperText ((obj.objectClass.pkFields.map obj.textOf).flatten)

/-- `source`, which raises an exception where there is none. -/
def source : Option (List Char) := (obj.parsedData.get "source".toList).map (fun
  | .text value => value
  | .list _ => [])

/-- The values of an attribute in `parsed_data`. -/
def values (key : String) : List (List Char) :=
  match obj.parsedData.get key.toList with
  | some (.text value) => [value]
  | some (.list values) => values
  | none => []

/-- The errors of `_validate_attribute_counts`, `irrd/rpsl/parser.py:326–361`. -/
def validateAttributeCounts : RPSLParserMessages :=
  let c := obj.objectClass
  let name := c.rpslObjectClass
  let attrs := obj.objectData.map Attribute.name
  let missing (required : List String) (message : String → String) : RPSLParserMessages :=
    (required.filter (fun attr ↦ attr.toList ∉ attrs)).map (fun attr ↦ (.error, message attr))
  if obj.strictValidation then
    let validated := attrs.eraseDups.filter (· ≠ "last-modified".toList)
    validated.flatMap (fun attr ↦
      (if isWord c.attrsAllowed attr then []
        else [(.error, s!"Unrecognised attribute {display attr} on object {name}")]) ++
      (if 1 < attrs.count attr ∧ ¬ isWord c.attrsMultiple attr then
        [(.error, s!"Attribute \"{display attr}\" on object {name} occurs multiple times, "
          ++ "but is only allowed once")]
        else [])) ++
      missing c.attrsRequired (fun attr ↦
        s!"Mandatory attribute \"{attr}\" on object {name} is missing")
  else
    missing (c.pkFields ++ if obj.defaultSource = [] then ["source"] else []) (fun attr ↦
      s!"Primary key attribute \"{attr}\" on object {name} is missing")

end ParsedObject

section Attributes

variable (env : Environment)

/-- The first of the resources that is set already, in the order of
`irrd/rpsl/parser.py:426`. Numbers that are zero do not count as set. -/
def Resources.conflict (existing new : Resources) : Option String :=
  if existing.ipFirst.isSome ∧ new.ipFirst.isSome then some "ip_first"
  else if existing.ipLast.isSome ∧ new.ipLast.isSome then some "ip_last"
  else if existing.asnFirst.any (· ≠ 0) ∧ new.asnFirst.isSome then some "asn_first"
  else if existing.asnLast.any (· ≠ 0) ∧ new.asnLast.isSome then some "asn_last"
  else if existing.ipPrefix.isSome ∧ new.ipPrefix.isSome then some "prefix"
  else if existing.prefixLength.any (· ≠ 0) ∧ new.prefixLength.isSome then some "prefix_length"
  else Option.none

/-- Set the resources that a value has. -/
def Resources.update (existing new : Resources) : Resources :=
  ⟨new.ipFirst.or existing.ipFirst, new.ipLast.or existing.ipLast,
    new.asnFirst.or existing.asnFirst, new.asnLast.or existing.asnLast,
    new.ipPrefix.or existing.ipPrefix, new.prefixLength.or existing.prefixLength⟩

/-- Store a parsed value in `parsed_data`, `irrd/rpsl/parser.py:401–421`. -/
def storeValue (f : RPSLField) (attr : List Char) (r : RPSLFieldParseResult) (d : ParsedData) :
    Except ParserException ParsedData :=
  let case (text : List Char) : List Char := if f.kind.keepCase then text else upperText text
  if r.valuesList ≠ [] then
    match d.get attr with
    | none => .ok (d.set attr (.list (r.valuesList.map case)))
    | some (.list values) => .ok (d.set attr (.list (values ++ r.valuesList.map case)))
    | some (.text _) => .error (.typeError attr)
  else if f.multiple then
    match d.get attr with
    | none => .ok (d.set attr (.list [case r.value]))
    | some (.list values) => .ok (d.set attr (.list (values ++ [case r.value])))
    | some (.text _) => .error (.attributeError attr)
  else
    match d.get attr with
    | none => .ok (d.set attr (.text (case r.value)))
    | some _ => .ok (d.set attr (.text ('\n' :: case r.value)))

/-- The resources after those of a value, unless some are set already. -/
def updateResources (f : RPSLField) (allowInvalidMetadata : Bool) (existing : Resources)
    (r : RPSLFieldParseResult) : Except ParserException Resources :=
  if f.isKey then
    match existing.conflict r.resources with
    | some attr =>
      if allowInvalidMetadata then .ok (existing.update r.resources)
      else .error (.alreadySet r.value attr)
    | none => .ok (existing.update r.resources)
  else .ok existing

/-- Whether the errors of a field count, `irrd/rpsl/parser.py:387–389`. -/
def RPSLField.raisesErrors (f : RPSLField) (strictValidation : Bool) : Bool :=
  strictValidation || f.isKey || f.name = "source"

/-- The value of an attribute after its parsed value has replaced the normalised one. -/
def replacedValue (value : List Char) (r : RPSLFieldParseResult) : List Char :=
  let normalised := normaliseRpslValue value
  if r.value ≠ normalised then replace normalised r.value value else value

/-- The iteration of `_parse_attribute_data` for one attribute, `irrd/rpsl/parser.py:376–435`. -/
def parseAttribute (allowInvalidMetadata : Bool) (obj : ParsedObject) (a : Attribute) :
    Except ParserException ParsedObject :=
  match obj.objectClass.field? a.name with
  | none => .ok { obj with objectData := obj.objectData ++ [a] }
  | some f => do
    let (result, fieldMessages) ← f.kind.parse env (normaliseRpslValue a.value) obj.strictValidation
    let messages :=
      if f.raisesErrors obj.strictValidation then obj.messages ++ fieldMessages else obj.messages
    match result with
    | none => return { obj with messages, objectData := obj.objectData ++ [a] }
    | some r =>
      let objectData := obj.objectData ++ [{ a with value := replacedValue a.value r }]
      let parsedData ← storeValue f a.name r obj.parsedData
      let resources ← updateResources f allowInvalidMetadata obj.resources r
      return { obj with messages, objectData, parsedData, resources }

/-- The source of an object without one is the default source, `irrd/rpsl/parser.py:437–438`. -/
def ParsedObject.withDefaultSource (obj : ParsedObject) : ParsedObject :=
  if (obj.parsedData.get "source".toList).isNone ∧ obj.defaultSource ≠ [] then
    { obj with parsedData := obj.parsedData.set "source".toList (.text obj.defaultSource) }
  else obj

/-- `_parse_attribute_data`. -/
def parseAttributeData (allowInvalidMetadata : Bool) (obj : ParsedObject) :
    Except ParserException ParsedObject :=
  (obj.objectData.foldlM (parseAttribute env allowInvalidMetadata)
    { obj with objectData := [] }).map ParsedObject.withDefaultSource

end Attributes

namespace ParsedObject

variable (env : Environment) (obj : ParsedObject)

/-- `_update_attribute_value`: every value is a new attribute after the first one,
`irrd/rpsl/parser.py:469–491`. -/
def updateAttributeValue (attr : String) (newValues : List (List Char)) (flatten : Bool) :
    ParsedObject :=
  let data := obj.objectData.filter (fun a ↦ a.name ≠ attr.toList)
  { obj with
    parsedData := obj.parsedData.set attr.toList
      (if flatten then .text (joinWith '\n' newValues) else .list newValues)
    objectData := data.take 1 ++ newValues.map (⟨attr.toList, ·, []⟩) ++ data.drop 1 }

/-- An error added to the messages. -/
def addError (message : String) : ParsedObject :=
  { obj with messages := obj.messages ++ [(.error, message)] }

/-- `_auth_lines(True)`: schemes and hashes. -/
def authHashes : List (List Char × List Char) := (obj.values "auth").filterMap (splitOnce ' ')

/-- `RPSLMntner.clean`. -/
def cleanMntner : ParsedObject :=
  let dummyMatches := obj.authHashes.map (fun auth ↦
    decide (auth.2 = passwordHashDummyValue.toList))
  if dummyMatches.any id ∧ ¬ dummyMatches.all id then
    obj.addError ("Either all password auth hashes in a submitted mntner must be dummy objects, "
      ++ "or none.")
  else obj

/-- `RPSLKeyCert.format_fingerprint`. -/
def formatFingerprint (fingerprint : List Char) : List Char :=
  joinWith ' ' ((List.range 10).flatMap (fun i ↦
    let part := (fingerprint.drop (4 * i)).take 4
    if i = 4 then [part, []] else [part]))

/-- The name of a key-cert with this fingerprint. -/
def keyCertName (fingerprint : List Char) : List Char :=
  "PGPKEY-".toList ++ fingerprint.drop (fingerprint.length - 8)

/-- `RPSLKeyCert.clean`. -/
def cleanKeyCert : ParsedObject :=
  let certif := (joinWith '\n' (obj.values "certif")).map (fun c ↦ if c = ',' then '\n' else c)
  match env.importKeys certif with
  | ([fingerprint], _) =>
    let formatted := formatFingerprint fingerprint
    let actual := upperText (obj.textOf "key-cert")
    if keyCertName fingerprint ≠ actual then
      obj.addError (s!"Invalid object name {display actual}: does not match key fingerprint "
        ++ s!"{display formatted}, expected object name {display (keyCertName fingerprint)}")
    else
      ((obj.updateAttributeValue "fingerpr" [formatted] true).updateAttributeValue "owner"
        (env.uids fingerprint) true).updateAttributeValue "method" ["PGP".toList] true
  | (_, results) =>
    obj.addError ("Unable to read public PGP key: key corrupt or multiple keys provided"
      ++ (results.head?.elim "" (": " ++ ·)))

/-- `clean`. -/
def clean : ParsedObject :=
  if obj.rpslObjectClass = "mntner" then obj.cleanMntner
  else if obj.rpslObjectClass = "key-cert" then obj.cleanKeyCert env
  else obj

end ParsedObject

section Objects

variable (env : Environment)

/-- An object with the attributes of a text, `irrd/rpsl/parser.py:113–126`. -/
def extractObject (c : RPSLObjectClass) (text : List Char) (strictValidation : Bool)
    (defaultSource : Option (List Char)) : ParsedObject :=
  let (objectData, messages) := extractAttributesValues c text
  ⟨c, strictValidation, (defaultSource.map (upperText ∘ strip)).getD [], messages, objectData, [],
    .none⟩

/-- An object with the errors in the counts of its attributes, unless it has errors already. -/
def ParsedObject.validateCounts (obj : ParsedObject) : ParsedObject :=
  if obj.errors = [] then { obj with messages := obj.messages ++ obj.validateAttributeCounts }
  else obj

/-- An object is cleaned in strict mode, if it has no errors. -/
def ParsedObject.cleanIfValid (obj : ParsedObject) : ParsedObject :=
  if obj.strictValidation ∧ obj.errors = [] then obj.clean env else obj

/-- `_validate_object`, `irrd/rpsl/parser.py:312–324`. -/
def validateObject (obj : ParsedObject) : Except ParserException ParsedObject :=
  (parseAttributeData env (obj.validateCounts.errors ≠ []) obj.validateCounts).map
    (ParsedObject.cleanIfValid env)

/-- `rpsl_object_from_text`, `irrd/rpsl/rpsl_objects.py:43–51`. -/
def rpslObjectFromText (text : List Char) (strictValidation : Bool)
    (defaultSource : Option (List Char)) : Except ParserException ParsedObject :=
  let name := strip (beforeFirst ':' text)
  match findClass name with
  | none => .error (.unknownRPSLObjectClass name)
  | some c => validateObject env (extractObject c text strictValidation defaultSource)

end Objects

namespace ParsedObject

variable (obj : ParsedObject)

/-- The text of an attribute, `irrd/rpsl/parser.py:206–217`. -/
def renderAttribute (a : Attribute) : List Char :=
  match splitlineUnicodesafe a.value with
  | [] => a.name ++ ":\n".toList
  | first :: rest =>
    ljust (a.name ++ [':']) rpslAttributeTextWidth ++ first ++ ['\n'] ++
      (rest.zipIdx.flatMap (fun (line, idx) ↦
        let continuationChar := if line = [] then '+' else a.continuationChars.getD idx '+'
        continuationChar :: List.replicate (rpslAttributeTextWidth - 1) ' ' ++ line ++ ['\n']))

/-- `render_rpsl_text` without a time of last modification. -/
def renderRpslText : List Char := obj.objectData.flatMap renderAttribute

/-- `render_rpsl_text` with a time of last modification, which replaces those of the object where
the source is authoritative and does not retain them, `irrd/rpsl/parser.py:184–222`. -/
def renderRpslTextModified (authoritative retain : Bool) (lastModified : List Char) : List Char :=
  if authoritative ∧ ¬ retain then
    (obj.objectData.filter (fun a ↦ a.name ≠ "last-modified".toList)).flatMap renderAttribute ++
      ljust "last-modified:".toList rpslAttributeTextWidth ++ lastModified ++ ['\n']
  else obj.renderRpslText

/-- `referred_strong_objects`. -/
def referredStrongObjects : List (String × List String × List (List Char)) :=
  obj.objectClass.referringStrongFields.filterMap (fun (name, referring) ↦
    let values := obj.values name
    if values = [] then none else some (name, referring, values))

/-- `references_strong_inbound`: the fields of any class that refer to objects of this class. -/
def referencesStrongInbound : List String :=
  (objectClasses.flatMap (fun c ↦ (c.fields.filter (fun f ↦
    f.kind.strong && obj.rpslObjectClass ∈ f.kind.referring)).map RPSLField.name)).eraseDups

end ParsedObject

end Irrd.Rpsl
