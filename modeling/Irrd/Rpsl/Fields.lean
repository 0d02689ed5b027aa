import Irrd.Utils.IP
import Irrd.Utils.Lines
import Irrd.Utils.Validators

/-!
# Fields

How the value of an attribute is parsed, for each kind of field. Source:
`irrd/rpsl/fields.py`. IPy, GnuPG, `str.isprintable`, normalisation and the settings of the parser
are parameters.
-/

namespace Irrd.Rpsl

open Irrd.Utils

/-- `PasswordHasherAvailability`, `irrd/rpsl/auth.py:8–12`. -/
inductive PasswordHasherAvailability
  | enabled
  | legacy
  | disabled
  deriving DecidableEq

/-- What parsing relies on besides the text. -/
structure Environment where
  /-- `IPy.IP(text, ipversion)`: the network, or the text of the `ValueError` after
  `clean_ip_value_error`. -/
  parseIp : List Char → Nat → Except String IP
  /-- `str` of a network. -/
  strIp : IP → List Char
  /-- `str.isprintable`. -/
  isprintable : Char → Bool
  /-- `unicodedata.normalize("NFKC", ..)`. -/
  nfkc : List Char → List Char
  /-- Whether `urllib.parse` accepts what is between brackets in a network location. -/
  bracketedHost : List Char → Bool
  /-- `gpg.import_keys`: the fingerprints, and the texts of the results. -/
  importKeys : List Char → List (List Char) × List String
  /-- The user ids that `gpg.list_keys` has for a fingerprint. -/
  uids : List Char → List (List Char)
  /-- `auth.password_hashers.*`. -/
  passwordHashers : String → PasswordHasherAvailability

/-- `RPSLParserMessages.levels`. -/
inductive MessageLevel
  | info
  | error
  deriving DecidableEq

/-- `RPSLParserMessages`, `irrd/rpsl/parser_state.py:8–36`. -/
abbrev RPSLParserMessages := List (MessageLevel × String)

/-- `RPSLParserMessages.infos`. -/
def RPSLParserMessages.infos (messages : RPSLParserMessages) : List String :=
  (messages.filter (fun m ↦ m.1 = .info)).map Prod.snd

/-- `RPSLParserMessages.errors`. -/
def RPSLParserMessages.errors (messages : RPSLParserMessages) : List String :=
  (messages.filter (fun m ↦ m.1 = .error)).map Prod.snd

/-- The addresses and AS numbers that a value pertains to. -/
structure Resources where
  ipFirst : Option IP
  ipLast : Option IP
  asnFirst : Option Nat
  asnLast : Option Nat
  ipPrefix : Option IP
  prefixLength : Option Nat
  deriving DecidableEq

/-- No addresses and AS numbers. -/
def Resources.none : Resources := ⟨.none, .none, .none, .none, .none, .none⟩

/-- `RPSLFieldParseResult`, `irrd/rpsl/parser_state.py:39–59`. A missing list of values is an
empty one. -/
structure RPSLFieldParseResult where
  value : List Char
  valuesList : List (List Char)
  resources : Resources
  deriving DecidableEq

/-- What parsing a value returns, and the messages it leaves. -/
abbrev FieldOutcome := Option RPSLFieldParseResult × RPSLParserMessages

/-- The value could not be parsed. -/
def invalid (message : String) : FieldOutcome := (none, [(.error, message)])

/-- A single value, with the message that it was reformatted, if it was. -/
def parsed (value : List Char) (resources : Resources) (reformatted : Bool) (message : String) :
    FieldOutcome :=
  (some ⟨value, [], resources⟩, if reformatted then [(.info, message)] else [])

/-- A single value as it is. -/
def unchanged (value : List Char) : FieldOutcome := (some ⟨value, [], .none⟩, [])

/-- Text in a message. -/
def display (text : List Char) : String := String.ofList text

section Patterns

/-- `\d`. -/
def isDecimal (c : Char) : Bool := (decimalDigit c).isSome

theorem isDecimal_of_isDigit {c : Char} (hc : c.isDigit = true) : isDecimal c = true := by
  unfold isDecimal
  rw [decimalDigit_of_isDigit hc]
  rfl

/-- `\d+`. -/
def isDigits (text : List Char) : Bool := text ≠ [] && text.all isDecimal

/-- A character that `[A-Z]` matches without regard to case. -/
def isNameLetter (c : Char) : Bool :=
  c.isAlpha || c ∈ ['\u0130', '\u0131', '\u017f', '\u212a']

/-- A character that `[A-Z0-9]` matches without regard to case. -/
def isNameLetterOrDigit (c : Char) : Bool := isNameLetter c || c.isDigit

/-- Four groups of digits. -/
def isDottedQuad (text : List Char) : Bool :=
  let groups := text.splitOn '.'
  groups.length = 4 && groups.all isDigits

/-- `re_ipv4_prefix`. -/
def reIpv4Prefix (text : List Char) : Bool :=
  match text.splitOn '/' with
  | [address, length] => isDottedQuad address && isDigits length
  | _ => false

/-- A character that `[A-F\d]` matches without regard to case. -/
def isHexDigit (c : Char) : Bool := isDecimal c || c.toUpper ∈ ['A', 'B', 'C', 'D', 'E', 'F']

/-- `re_ipv6_prefix`. -/
def reIpv6Prefix (text : List Char) : Bool :=
  match text.splitOn '/' with
  | [address, length] =>
    address ≠ [] && address.all (fun c ↦ isHexDigit c || c = ':') && isDigits length
  | _ => false

/-- The inside of a text in brackets. -/
def inBrackets (text : List Char) : Option (List Char) :=
  match text with
  | '[' :: rest => if rest.getLast? = some ']' then some rest.dropLast else none
  | _ => none

/-- A character of the part of an e-mail address before the at sign. -/
def isLocalPartChar (c : Char) : Bool :=
  isNameLetterOrDigit c || c ∈ "$!#%&\"*+/=?^_`\x7b|\x7d~\\.-".toList

/-- A character between `A` and `f`, in either case, or a digit or colon. -/
def isBracketedChar (c : Char) : Bool :=
  isNameLetter c || isDecimal c || c ∈ "[\\]^_`:".toList

/-- `re_email`. -/
def reEmail (text : List Char) : Bool :=
  match text.splitOn '@' with
  | [localPart, domain] =>
    localPart ≠ [] && localPart.all isLocalPartChar &&
      ((domain ≠ [] && domain.all (fun c ↦ isNameLetterOrDigit c || c ∈ ['\\', '.', '-'])) ||
        (inBrackets domain).any (fun host ↦
          isDottedQuad host || (host ≠ [] && host.all isBracketedChar)))
  | _ => false

/-- `\d{1,3}`. -/
def isRangeLength (text : List Char) : Bool := isDigits text && text.length ≤ 3

/-- `re_range_operator`: the numbers at the start, at the end, or alone. -/
def reRangeOperator (text : List Char) : Option (Option Nat × Option Nat × Option Nat) :=
  let number (digits : List Char) := digitsValue 0 false digits
  if text = ['-'] ∨ text = ['+'] then some (none, none, none)
  else
    match splitOnce '-' text with
    | some (first, last) =>
      if isRangeLength first && isRangeLength last then some (number first, number last, none)
      else none
    | none => if isRangeLength text then some (none, none, number text) else none

/-- `re_pgpkey`. -/
def rePgpkey (text : List Char) : Bool :=
  text.take 7 = "PGPKEY-".toList && (text.drop 7).length = 8 &&
    (text.drop 7).all (fun c ↦ c.isDigit || c ∈ ['A', 'B', 'C', 'D', 'E', 'F'])

/-- One label of `re_dnsname`. -/
def isDnsLabel (label : List Char) : Bool :=
  label.head?.any isNameLetterOrDigit && label.getLast?.any isNameLetterOrDigit &&
    label.all (fun c ↦ isNameLetterOrDigit c || c = '-')

/-- `re_dnsname`. -/
def reDnsname (text : List Char) : Bool := (text.splitOn '.').all isDnsLabel

/-- `re_generic_name`, which permits a newline at the end. -/
def reGenericName (text : List Char) : Bool :=
  let name := if text.getLast? = some '\n' then text.dropLast else text
  2 ≤ name.length && name.head?.any isNameLetter && name.getLast?.any isNameLetterOrDigit &&
    name.all (fun c ↦ isNameLetterOrDigit c || c ∈ ['_', '-'])

/-- `_re_attr_name`, `irrd/rpsl/parser.py:97`. -/
def reAttrName (text : List Char) : Bool :=
  text ≠ [] && text.all (fun c ↦ c.isLower || c.isDigit || c ∈ ['_', '-'])

/-- `reserved_words`. -/
def reservedWords : List String :=
  ["ANY", "AS-ANY", "RS_ANY", "PEERAS", "AND", "OR", "NOT", "ATOMIC", "FROM", "TO", "AT", "ACTION",
    "ACCEPT", "ANNOUNCE", "EXCEPT", "REFINE", "NETWORKS", "INTO", "INBOUND", "OUTBOUND"]

/-- `reserved_prefixes`. -/
def reservedPrefixes : List String := ["AS-", "RS-", "RTRS-", "FLTR-", "PRNG-"]

/-- Whether a text starts with one of these. -/
def startsWithAny (starts : List String) (text : List Char) : Bool :=
  starts.any (fun s ↦ s.toList.isPrefixOf text)

/-- Whether a text is one of these words. -/
def isWord (words : List String) (text : List Char) : Bool := words.any (fun w ↦ w.toList = text)

end Patterns

section Values

variable (env : Environment)

/-- `ALLOWED_CONTROL_CHARS`. -/
def allowedControlChars : List Char := ['\n', '\r', '\t', '\u200d']

/-- `str.translate(NOPRINT_TRANS_TABLE)`. -/
def removeNoprint (value : List Char) : List Char :=
  value.filter (fun c ↦ env.isprintable c || c ∈ allowedControlChars)

/-- `RPSLTextField.parse`. -/
def textFieldParse (value : List Char) : FieldOutcome := unchanged (removeNoprint env value)

/-- The resources of a network. -/
def networkResources (ip : IP) : Resources :=
  ⟨some ip.net, some ip.broadcast, none, none, some ip, some ip.prefixlen⟩

/-- `RPSLIPv4PrefixField.parse` and `RPSLIPv6PrefixField.parse`: a prefix of an IP version, after
a screening of its text. IPy leaves out the full length. -/
def ipPrefixFieldParse (ipVersion fullLength : Nat) (screen : List Char → Bool)
    (value : List Char) : FieldOutcome :=
  if screen value then
    match env.parseIp value ipVersion with
    | .error e => invalid s!"Invalid address prefix: {display value}: {e}"
    | .ok ip =>
      let parsedIpStr := env.strIp ip ++
        (if ip.prefixlen = fullLength then '/' :: (toString fullLength).toList else [])
      parsed parsedIpStr (networkResources ip) (parsedIpStr ≠ value)
        s!"Address prefix {display value} was reformatted as {display parsedIpStr}"
  else invalid s!"Invalid address prefix: {display value}"

/-- `RPSLIPv4PrefixField.parse`. -/
def ipv4PrefixFieldParse : List Char → FieldOutcome := ipPrefixFieldParse env 4 32 reIpv4Prefix

/-- `RPSLIPv6PrefixField.parse`. -/
def ipv6PrefixFieldParse : List Char → FieldOutcome := ipPrefixFieldParse env 6 128 reIpv6Prefix

/-- `RPSLIPv4AddressRangeField.parse`. -/
def ipv4AddressRangeFieldParse (value : List Char) : FieldOutcome :=
  let value := value.filter (· ≠ ',')
  let inputs := splitOnce '-' value
  let (ip1Input, ip2Input) := inputs.getD (value, value)
  match env.parseIp ip1Input 0, env.parseIp ip2Input 0 with
  | .error e, _ => invalid s!"Invalid address range: {display value}: {e}"
  | .ok _, .error e => invalid s!"Invalid address range: {display value}: {e}"
  | .ok ip1, .ok ip2 =>
    if ¬ (ip1.version = ip2.version ∧ ip2.version = 4) then
      invalid s!"Invalid address range: {display value}: IP version mismatch"
    else if ip1.int > ip2.int then
      invalid s!"Invalid address range: {display value}: first IP is higher than second IP"
    else
      let parsedValue :=
        if inputs.isSome then env.strIp ip1 ++ " - ".toList ++ env.strIp ip2 else env.strIp ip1
      parsed parsedValue ⟨some ip1, some ip2, none, none, none, none⟩ (parsedValue ≠ value)
        s!"Address range {display value} was reformatted as {display parsedValue}"

/-- `parse_as_number` without options. -/
def asNumber (value : List Char) : Except String (List Char × Nat) :=
  parseAsNumberText false false false value

/-- `RPSLASNumberField.parse`. -/
def asNumberFieldParse (value : List Char) : FieldOutcome :=
  match asNumber value with
  | .error e => invalid e
  | .ok (parsedStr, parsedInt) =>
    parsed parsedStr ⟨none, none, some parsedInt, some parsedInt, none, none⟩
      (upperText parsedStr ≠ upperText value)
      s!"AS number {display value} was reformatted as {display parsedStr}"

/-- `RPSLASBlockField.parse`. -/
def asBlockFieldParse (value : List Char) : FieldOutcome :=
  match splitOnce '-' value with
  | none => invalid s!"Invalid AS range: {display value}: does not contain a hyphen"
  | some (as1Raw, as2Raw) =>
    match asNumber (strip as1Raw), asNumber (strip as2Raw) with
    | .error e, _ => invalid e
    | .ok _, .error e => invalid e
    | .ok (as1Str, as1Int), .ok (as2Str, as2Int) =>
      if as1Int > as2Int then
        invalid s!"Invalid AS range: {display value}: first AS is higher then second AS"
      else
        let parsedValue := as1Str ++ " - ".toList ++ as2Str
        parsed parsedValue ⟨none, none, some as1Int, some as2Int, none, none⟩
          (parsedValue ≠ value)
          s!"AS range {display value} was reformatted as {display parsedValue}"

/-- The text of the AS number in a component, if it is one. -/
def parsedAsNumber (component : List Char) : Option (List Char) :=
  (asNumber component).toOption.map Prod.fst

/-- One component in `parse_set_name`, `irrd/rpsl/fields.py:676–701`. -/
def parseSetComponent (prefixes : List String) (value : List Char) (strictValidation : Bool)
    (component : List Char) : Except String (List Char) :=
  if strictValidation ∧ isWord reservedWords (upperText component) then
    .error s!"Invalid set name {display value}: component {display component} is a reserved word"
  else if ¬ reGenericName (upperText component) ∧ (parsedAsNumber component).isNone then
    .error (s!"Invalid set {display value}: component {display component} is not a valid AS number "
      ++ "nor a valid set name")
  else if strictValidation ∧ (parsedAsNumber component).isNone ∧
      ¬ startsWithAny prefixes (upperText component) then
    .error (s!"Invalid set {display value}: component {display component} is not a valid AS "
      ++ "number, nor does it start with " ++ "/".intercalate prefixes)
  else .ok ((parsedAsNumber component).getD component)

/-- `parse_set_name`, `irrd/rpsl/fields.py:657–706`. -/
def parseSetName (prefixes : List String) (value : List Char) (strictValidation : Bool) :
    FieldOutcome :=
  let inputComponents := value.splitOn ':'
  if strictValidation ∧ inputComponents.length > 5 then
    invalid "Set names can have a maximum of five components."
  else if strictValidation ∧
      ¬ inputComponents.any (fun c ↦ startsWithAny prefixes (upperText c)) then
    invalid (s!"Invalid set name {display value}: at least one component must be an actual set "
      ++ "name (i.e. start with " ++ "/".intercalate prefixes ++ ")")
  else
    match inputComponents.mapM (parseSetComponent prefixes value strictValidation) with
    | .error e => invalid e
    | .ok outputComponents =>
      let parsedValue := joinWith ':' outputComponents
      parsed parsedValue .none (parsedValue ≠ value)
        s!"Set name {display value} was reformatted as {display parsedValue}"

/-- The operator of a member, checked against the length of its prefix,
`irrd/rpsl/fields.py:319–350`. -/
def checkRangeOperator (rangeOperator value : List Char) (prefixlen : Nat) : Option String :=
  match reRangeOperator rangeOperator with
  | none => some s!"Invalid range operator {display rangeOperator} in value: {display value}"
  | some (start, last, single) =>
    if single.any (· < prefixlen) then
      some (s!"Invalid range operator: operator length ({single.getD 0}) must be equal "
        ++ s!"to or longer than prefix length ({prefixlen}) {display value}")
    else if start.any (· < prefixlen) then
      some (s!"Invalid range operator: operator start ({start.getD 0}) must be equal "
        ++ s!"to or longer than prefix length ({prefixlen}) {display value}")
    else if last.any (· < start.getD 0) then
      some (s!"Invalid range operator: operator end ({last.getD 0}) must be equal "
        ++ s!"to or longer than operator start ({start.getD 0}) {display value}")
    else none

/-- `RPSLRouteSetMemberField.parse`; version 0 is any version. -/
def routeSetMemberFieldParse (ipVersion : Nat) (value : List Char) (strictValidation : Bool) :
    FieldOutcome :=
  let (address, rangeOperator) :=
    match splitOnce '^' value with
    | some (address, rangeOperator) => (address, some rangeOperator)
    | none => (value, none)
  let withOperator (text : List Char) : List Char :=
    match rangeOperator with
    | some rangeOperator => text ++ '^' :: rangeOperator
    | none => text
  let result (text : List Char) : FieldOutcome :=
    parsed text .none (text ≠ value)
      s!"Route set member {display value} was reformatted as {display text}"
  if rangeOperator = some [] then invalid s!"Missing range operator in value: {display value}"
  else
    match (parseSetName ["RS-", "AS-"] address strictValidation).1, asNumber address with
    | some name, _ => result (withOperator name.value)
    | none, .ok (parsedStr, _) => result (withOperator parsedStr)
    | none, .error _ =>
      match env.parseIp address ipVersion with
      | .error e =>
        invalid s!"Value is neither a valid set name nor a valid prefix: {display address}: {e}"
      | .ok ip =>
        match rangeOperator.bind (checkRangeOperator · value ip.prefixlen) with
        | some e => invalid e
        | none =>
          let length :=
            if ip.version = 4 ∧ ip.prefixlen = 32 then "/32".toList
            else if ip.version = 6 ∧ ip.prefixlen = 128 then "/128".toList
            else []
          result (withOperator (env.strIp ip ++ length))

/-- `RPSLEmailField.parse`. -/
def emailFieldParse (value : List Char) : FieldOutcome :=
  if reEmail value then unchanged value
  else invalid s!"Invalid e-mail address: {display value}"

/-- The ways to read a month at the start of a text, in the order of `strptime`. -/
def readMonth : List Char → List (Nat × List Char)
  | '1' :: c :: text =>
    (if c ∈ ['0', '1', '2'] then [(10 + (c.toNat - '0'.toNat), text)] else []) ++ [(1, c :: text)]
  | '0' :: c :: text => if c.isDigit ∧ c ≠ '0' then [(c.toNat - '0'.toNat, text)] else []
  | c :: text => if c.isDigit ∧ c ≠ '0' then [(c.toNat - '0'.toNat, text)] else []
  | [] => []

/-- The first way to read a day at the start of a text, in the order of `strptime`. -/
def readDay : List Char → Option (Nat × List Char)
  | '3' :: '0' :: text => some (30, text)
  | '3' :: '1' :: text => some (31, text)
  | c :: d :: text =>
    if c ∈ ['1', '2'] ∧ isDecimal d ∨ c = '0' ∧ d.isDigit ∧ d ≠ '0' then
      some (10 * (c.toNat - '0'.toNat) + (decimalDigit d).getD 0, text)
    else if c.isDigit ∧ c ≠ '0' then some (c.toNat - '0'.toNat, d :: text)
    else none
  | [c] => if c.isDigit ∧ c ≠ '0' then some (c.toNat - '0'.toNat, []) else none
  | [] => none

/-- The number of days of a month. -/
def daysInMonth (year month : Nat) : Nat :=
  if month = 2 then if year % 4 = 0 ∧ (year % 100 ≠ 0 ∨ year % 400 = 0) then 29 else 28
  else if month ∈ [4, 6, 9, 11] then 30
  else 31

/-- Whether `datetime.strptime(date, "%Y%m%d")` succeeds. -/
def isDate (date : List Char) : Bool :=
  (digitsValue 0 false (date.take 4)).any (fun year ↦
    isDigits (date.take 4) && (date.take 4).length = 4 && 1 ≤ year &&
      (((readMonth (date.drop 4)).filterMap (fun (month, text) ↦
        (readDay text).map (fun (day, rest) ↦ (month, day, rest)))).head?.any
          (fun (month, day, rest) ↦ rest = [] && day ≤ daysInMonth year month)))

/-- `RPSLChangedField.parse`. The text of the error in a date is that of `strptime`. -/
def changedFieldParse (value : List Char) : FieldOutcome :=
  let (email, date) :=
    match value.splitOn ' ' with
    | [email, date] => (email, some date)
    | _ => (value, none)
  if ¬ reEmail email then invalid s!"Invalid e-mail address: {display email}"
  else if date.any (fun date ↦ date ≠ [] ∧ ¬ isDate date) then
    invalid s!"Invalid changed date: {display (date.getD [])}"
  else unchanged value

/-- `RPSLDNSNameField.parse`. -/
def dnsNameFieldParse (value : List Char) : FieldOutcome :=
  if reDnsname value then unchanged value
  else invalid s!"Invalid DNS name: {display value}"

/-- `RPSLGenericNameField.parse`. -/
def genericNameFieldParse (allowedPrefixes : List String) (nonStrictAllowAny : Bool)
    (value : List Char) (strictValidation : Bool) : FieldOutcome :=
  let upperValue := upperText value
  if ¬ strictValidation ∧ nonStrictAllowAny then unchanged value
  else if strictValidation ∧ isWord reservedWords upperValue then
    invalid s!"Invalid name: {display value}: this is a reserved word"
  else
    match reservedPrefixes.find? (fun p ↦
        strictValidation && p.toList.isPrefixOf upperValue && p ∉ allowedPrefixes) with
    | some p => invalid s!"Invalid name: {display value}: {p} is a reserved prefix"
    | none =>
      if reGenericName value then unchanged value
      else invalid (s!"Invalid name: {display value}: contains invalid characters, does not start "
        ++ "with a letter, or does not end in a letter/digit")

/-- `RPSL_MNTNER_AUTH_INTERNAL`, `irrd/conf/__init__.py:30`. -/
def rpslMntnerAuthInternal : String := "IRRD-INTERNAL-AUTH"

/-- `get_password_hashers`, `irrd/rpsl/auth.py:22–37`. -/
def getPasswordHashers (permitLegacy : Bool) : List String :=
  passwordHashersAll.filter (fun hasher ↦ env.passwordHashers hasher = .enabled ||
    (permitLegacy && env.passwordHashers hasher = .legacy))

/-- `RPSLAuthField.parse`. -/
def authFieldParse (value : List Char) (strictValidation : Bool) : FieldOutcome :=
  let hashers := getPasswordHashers env (!strictValidation)
  let hasValidBeginning := startsWithAny (hashers.map (· ++ " ")) (upperText value)
  let isValidHash := hasValidBeginning && value.count ' ' = 1 && value.count ',' = 0
  if isValidHash || rePgpkey (upperText value) || value = rpslMntnerAuthInternal.toList then
    unchanged value
  else
    invalid (s!"Invalid auth attribute: {display value}: supported options are "
      ++ ", ".intercalate hashers
      ++ s!", PGPKEY-xxxxxxxx and {rpslMntnerAuthInternal} for migrated objects")

end Values

section Urls

variable (env : Environment)

/-- The network location after the scheme, `urllib.parse.urlsplit`. -/
def urlNetloc (rest : List Char) : List Char :=
  match rest with
  | '/' :: '/' :: rest => rest.takeWhile (fun c ↦ c ∉ ['/', '?', '#'])
  | _ => []

/-- The scheme, and what follows it. -/
def urlScheme (url : List Char) : List Char × List Char :=
  match splitOnce ':' url with
  | some (scheme, rest) =>
    if scheme.head?.any Char.isAlpha &&
        scheme.all (fun c ↦ c.isAlphanum || c ∈ ['+', '-', '.']) then (lower scheme, rest)
    else ([], url)
  | none => ([], url)

/-- What is between the first opening and the first closing bracket after it. -/
def bracketed (netloc : List Char) : List Char :=
  beforeFirst ']' ((netloc.dropWhile (· ≠ '[')).drop 1)

/-- Whether a network location is refused: brackets that do not match or hold no host, or
characters that decompose into separators. -/
def refusesNetloc (netloc : List Char) : Bool :=
  ('[' ∈ netloc && ']' ∉ netloc) || (']' ∈ netloc && '[' ∉ netloc) ||
    ('[' ∈ netloc && ']' ∈ netloc && !env.bracketedHost (bracketed netloc)) ||
    (let n := netloc.filter (· ∉ ['@', ':', '#', '?'])
    netloc.any (fun c ↦ 128 ≤ c.toNat) && env.nfkc n ≠ n &&
      (env.nfkc n).any (· ∈ ['/', '?', '#', '@', ':']))

/-- `urllib.parse.urlparse`: the scheme and the network location, or an exception. -/
def urlparse (value : List Char) : Option (List Char × List Char) :=
  let url := (value.dropWhile (fun c ↦ c.toNat ≤ 32)).filter (· ∉ ['\t', '\r', '\n'])
  let (scheme, rest) := urlScheme url
  let netloc := urlNetloc rest
  if refusesNetloc env netloc then none else some (scheme, netloc)

/-- `RPSLURLField.parse`; an exception of `urlparse` is not handled. -/
def urlFieldParse (value : List Char) : Option FieldOutcome :=
  (urlparse env value).map (fun (scheme, netloc) ↦
    if isWord ["http", "https"] scheme ∧ netloc ≠ [] then unchanged value
    else invalid s!"Invalid http/https URL: {display value}")

end Urls

end Irrd.Rpsl
