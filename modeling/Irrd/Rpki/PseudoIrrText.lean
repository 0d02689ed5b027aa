import Irrd.Rpki.PseudoIrrLines
import Irrd.Rpsl.AttributeOutcomes
import Irrd.Storage.HandlerRun
import Irrd.Utils.AsNumbers

/-!
# Pseudo-IRR text as RPSL

Whether the text of a pseudo-IRR object parses into the object that is stored. IPy leaves out the
length of a host prefix and prints IPv4-mapped IPv6 networks with dots, which the fields for
prefixes refuse, and a line break in the name of a trust anchor ends its comment. Source:
`irrd/rpki/importer.py`, `irrd/rpsl/fields.py`.
-/

namespace Irrd.Rpki

open Irrd.Base Irrd.Conf Irrd.Rpsl Irrd.Scopefilter Irrd.Storage Irrd.Utils

section Networks

/-- IPy prints these networks with a dotted quad. -/
def isIpv4Mapped (ip : IP) : Bool := ip.version = 6 && ip.int / 2 ^ 32 = 65535

/-- How IPy prints the address of a network. -/
structure PrintsAddress (ip : IP) (address : List Char) : Prop where
  chars : ∀ c ∈ address, isHexDigit c = true ∨ c = ':' ∨ c = '.'
  nonempty : address ≠ []
  ipv4 : ip.version = 4 → isDottedQuad address = true
  ipv6 : ip.version = 6 → ('.' ∈ address ↔ isIpv4Mapped ip = true)

/-- How IPy prints a network: with its length, unless it is a single address. What is printed is
read back. -/
structure PrintsNetwork (env : Environment) (ipy : IPyFunctions) (ip : IP) : Prop where
  version : ip.version = 4 ∨ ip.version = 6
  strIp : env.strIp ip = (ipy.str ip).toList
  parseIp : env.parseIp (ipy.str ip).toList ip.version = .ok ip
  address : ∃ address, PrintsAddress ip address ∧ (ipy.str ip).toList = address ++
    (if ip.prefixlen = ip.bits then [] else '/' :: (toString ip.prefixlen).toList)

/-- The screening of the field for prefixes of a version. -/
def prefixScreen (version : Nat) : List Char → Bool :=
  if version = 4 then reIpv4Prefix else reIpv6Prefix

variable {env : Environment} {ipy : IPyFunctions} {ip : IP}

theorem isDigits_toString (n : Nat) : isDigits (toString n).toList = true := by
  unfold isDigits
  rw [Bool.and_eq_true, List.all_eq_true]
  exact ⟨decide_eq_true (toString_ne_nil n),
    fun c hc ↦ isDecimal_of_isDigit (isDigit_of_mem_toString hc)⟩

/-- The characters that IPy prints a network with. -/
theorem PrintsNetwork.chars (h : PrintsNetwork env ipy ip) : ∀ c ∈ (ipy.str ip).toList,
    isHexDigit c = true ∨ c = ':' ∨ c = '.' ∨ c = '/' := by
  obtain ⟨address, haddress, htext⟩ := h.address
  intro c hc
  rw [htext] at hc
  rcases List.mem_append.mp hc with hc | hc
  · rcases haddress.chars c hc with hc | hc | hc
    · exact .inl hc
    · exact .inr (.inl hc)
    · exact .inr (.inr (.inl hc))
  · split at hc
    · cases hc
    · rcases List.mem_cons.mp hc with hc | hc
      · exact .inr (.inr (.inr hc))
      · exact .inl (by simp [isHexDigit, isDecimal_of_isDigit (isDigit_of_mem_toString hc)])

/-- The field for prefixes accepts what IPy prints unless it is a single address, or has dots in
an IPv6 address. -/
theorem PrintsNetwork.screen_iff (h : PrintsNetwork env ipy ip) :
    prefixScreen ip.version (ipy.str ip).toList = true ↔
      ip.prefixlen ≠ ip.bits ∧ isIpv4Mapped ip = false := by
  obtain ⟨address, haddress, htext⟩ := h.address
  have hslash : '/' ∉ address := fun hmem ↦ by
    rcases haddress.chars '/' hmem with hc | hc | hc <;> exact absurd hc (by decide)
  rw [htext]
  by_cases hlength : ip.prefixlen = ip.bits
  · rw [if_pos hlength, List.append_nil]
    refine iff_of_false ?_ (fun hfull ↦ hfull.1 hlength)
    unfold prefixScreen
    split <;> simp [reIpv4Prefix, reIpv6Prefix, List.splitOn_eq_singleton hslash]
  · have hdigits := isDigits_toString ip.prefixlen
    have hsplit : (address ++ '/' :: (toString ip.prefixlen).toList).splitOn '/' =
        [address, (toString ip.prefixlen).toList] := by
      have hnumber : '/' ∉ (toString ip.prefixlen).toList :=
        fun hmem ↦ absurd (isDigit_of_mem_toString hmem) (by decide)
      rw [List.splitOn_append_cons_self, List.splitOn_eq_singleton hslash,
        List.splitOn_eq_singleton hnumber]
      rfl
    rw [if_neg hlength]
    unfold prefixScreen
    rcases h.version with hversion | hversion
    · rw [if_pos hversion, reIpv4Prefix, hsplit]
      dsimp only
      rw [haddress.ipv4 hversion, hdigits]
      exact iff_of_true rfl ⟨hlength, by simp [isIpv4Mapped, hversion]⟩
    · rw [if_neg (by omega), reIpv6Prefix, hsplit]
      dsimp only
      rw [hdigits, Bool.and_true, Bool.and_eq_true, List.all_eq_true,
        ← Bool.not_eq_true, ← haddress.ipv6 hversion]
      constructor
      · rintro ⟨-, hall⟩
        refine ⟨hlength, fun hdot ↦ ?_⟩
        exact absurd (hall '.' hdot) (by decide)
      · rintro ⟨-, hdot⟩
        refine ⟨by simpa using haddress.nonempty, fun c hc ↦ ?_⟩
        rcases haddress.chars c hc with hhex | rfl | rfl
        · simp [hhex]
        · rfl
        · exact absurd hc hdot

/-- A value without comments and whitespace stands for itself. -/
theorem normaliseRpslValue_eq_self {value : List Char}
    (hvalue : ∀ c ∈ value, c ∉ '#' :: whitespace) :
    normaliseRpslValue value = value ∧ strip value = value ∧ '\n' ∉ value := by
  have hstrip : strip value = value :=
    stripChars_eq_self
      (fun c hc hspace ↦ hvalue c (List.mem_of_mem_head? hc) (List.mem_cons_of_mem _ hspace))
      (fun c hc hspace ↦ hvalue c (List.mem_of_mem_getLast? hc) (List.mem_cons_of_mem _ hspace))
  have hnewline : '\n' ∉ value := fun hc ↦ hvalue _ hc (by decide)
  have hcomment : beforeFirst '#' value = value :=
    List.takeWhile_eq_self_iff.mpr (fun c hc ↦ by
      simpa using fun hsame : c = '#' ↦ hvalue c hc (hsame ▸ List.mem_cons_self))
  refine ⟨?_, hstrip, hnewline⟩
  unfold normaliseRpslValue
  rw [if_pos hnewline, hcomment, hstrip]

/-- What IPy prints stands for itself. -/
theorem PrintsNetwork.normalise (h : PrintsNetwork env ipy ip) :
    normaliseRpslValue (ipy.str ip).toList = (ipy.str ip).toList ∧
      strip (ipy.str ip).toList = (ipy.str ip).toList ∧ '\n' ∉ (ipy.str ip).toList := by
  have hspecial : ∀ c ∈ '#' :: whitespace,
      ¬ (isHexDigit c = true ∨ c = ':' ∨ c = '.' ∨ c = '/') :=
    List.forall_iff_forall_mem.mp (by decide)
  exact normaliseRpslValue_eq_self (fun c hc hmem ↦ hspecial c hmem (h.chars c hc))

end Networks

section Fields

variable {env : Environment} {r : ROA} {a : Attribute}

/-- The field for the prefix. -/
theorem ROA.exists_classField (hversion : r.ipPrefix.version = 4 ∨ r.ipPrefix.version = 6) :
    ∃ f, SingleField r.routeClass r.objectClass.toList f ∧ f.isKey = true ∧
      f.kind.keepCase = true ∧ ∀ env value, f.kind.parse env value false =
        .ok (ipPrefixFieldParse env r.ipPrefix.version r.ipPrefix.bits
          (prefixScreen r.ipPrefix.version) value) := by
  rcases hversion with hversion | hversion
  · refine ⟨(field "route" .ipv4Prefix).primary.lookup, ?_, rfl, rfl, fun env value ↦ ?_⟩
    · have hclass : r.routeClass = rpslRoute := if_pos hversion
      have hname : r.objectClass = "route" := if_pos hversion
      rw [hclass, hname]
      exact ⟨rfl, rfl, rfl⟩
    · unfold IP.bits prefixScreen
      rw [hversion]
      rfl
  · refine ⟨(field "route6" .ipv6Prefix).primary.lookup, ?_, rfl, rfl, fun env value ↦ ?_⟩
    · have hclass : r.routeClass = rpslRoute6 := if_neg (by omega)
      have hname : r.objectClass = "route6" := if_neg (by omega)
      rw [hclass, hname]
      exact ⟨rfl, rfl, rfl⟩
    · unfold IP.bits prefixScreen
      rw [hversion]
      rfl

/-- The field for the origin. -/
def originField : RPSLField := (field "origin" .asNumber).primary

theorem ROA.singleField_origin (r : ROA) :
    SingleField r.routeClass "origin".toList originField := by
  rcases r.class_cases with ⟨hclass, -⟩ | ⟨hclass, -⟩ <;> rw [hclass] <;> exact ⟨rfl, rfl, rfl⟩

theorem ROA.singleField_source (r : ROA) : SingleField r.routeClass "source".toList source := by
  rcases r.class_cases with ⟨hclass, -⟩ | ⟨hclass, -⟩ <;> rw [hclass] <;> exact ⟨rfl, rfl, rfl⟩

/-- No field of a route is a URL. -/
theorem ROA.not_hasRefusedUrl (r : ROA) (a : Attribute) : ¬ HasRefusedUrl env r.routeClass a := by
  rintro ⟨f, hf, hurl, -⟩
  have hkinds : ∀ c ∈ [rpslRoute, rpslRoute6], ∀ f ∈ c.fields, f.kind ≠ .url := by decide
  refine hkinds r.routeClass ?_ f (mem_of_field? hf).1 hurl
  rcases r.class_cases with ⟨hclass, -⟩ | ⟨hclass, -⟩ <;> rw [hclass] <;> simp

/-- References to contacts, maintainers and sets have no resources. -/
theorem resources_parse_reference {kind : FieldKind}
    (hkind : kind ∈ [.reference ["role", "person"], .referenceList ["mntner"] false true,
      .referenceList ["route-set"] false false])
    {value : List Char} {result : RPSLFieldParseResult} {messages : RPSLParserMessages}
    (hresult : kind.parse env value false = .ok (some result, messages)) :
    result.resources = .none := by
  have hlist {parseOne : List Char → Except ParserException FieldOutcome}
      (h : listFieldParse parseOne value = .ok (some result, messages)) :
      result.resources = .none := by
    unfold listFieldParse at h
    obtain ⟨outcomes, -, h⟩ := bind_eq_ok_iff.mp h
    dsimp only at h
    split at h
    · cases h
    · cases h
      rfl
  simp only [List.mem_cons, List.not_mem_nil, or_false] at hkind
  rcases hkind with rfl | rfl | rfl
  · have hname (name : String) (hname : name ∈ ["role", "person"]) :
        identifierField name = some nicHdl := by
      simp only [List.mem_cons, List.not_mem_nil, or_false] at hname
      rcases hname with rfl | rfl <;> rfl
    have hparse : nicHdl.kind.parseDirect env value false = .ok (unchanged value) := rfl
    simp only [FieldKind.parse, referenceFieldParse, hname "role" (by decide), hparse, bind,
      Except.bind] at hresult
    cases hresult
    rfl
  · exact hlist hresult
  · exact hlist hresult

/-- Only the prefix and the origin have resources. -/
theorem ROA.attributeResources_of_ne (hclass : a.name ≠ r.objectClass.toList)
    (horigin : a.name ≠ "origin".toList) :
    ∀ resources ∈ attributeResources env r.routeClass false a, resources = .none := by
  intro resources hresources
  unfold attributeResources at hresources
  split at hresources
  · cases hresources
  · next f hf =>
    split at hresources
    · next hkey =>
      have hkinds : ∀ c ∈ [rpslRoute, rpslRoute6], ∀ f ∈ c.fields, f.isKey = true →
          f.name = c.rpslObjectClass ∨ f.name = "origin" ∨
            f.kind ∈ [.reference ["role", "person"], .referenceList ["mntner"] false true,
              .referenceList ["route-set"] false false] := by decide
      obtain ⟨hmem, hname⟩ := mem_of_field? hf
      have hroute : r.routeClass ∈ [rpslRoute, rpslRoute6] := by
        rcases r.class_cases with ⟨hclass, -⟩ | ⟨hclass, -⟩ <;> rw [hclass] <;> simp
      rcases hkinds _ hroute f hmem hkey with hf' | hf' | hf'
      · rw [← hname, hf', r.objectClass_routeClass] at hclass
        exact absurd rfl hclass
      · rw [← hname, hf'] at horigin
        exact absurd rfl horigin
      · split at hresources
        · next result messages hparse =>
          cases hresources
          exact resources_parse_reference hf' hparse
        · cases hresources
    · cases hresources

/-- The text of an AS number stands for itself. -/
theorem normalise_asNumber (n : Nat) :
    normaliseRpslValue ("AS".toList ++ (toString n).toList) = "AS".toList ++ (toString n).toList ∧
      strip ("AS".toList ++ (toString n).toList) = "AS".toList ++ (toString n).toList ∧
      '\n' ∉ "AS".toList ++ (toString n).toList := by
  have hspecial : ∀ c ∈ '#' :: whitespace, c.isDigit = false ∧ c ∉ "AS".toList :=
    List.forall_iff_forall_mem.mp (by decide)
  refine normaliseRpslValue_eq_self (fun c hc hmem ↦ ?_)
  obtain ⟨hdigit, hletter⟩ := hspecial c hmem
  rcases List.mem_append.mp hc with hc | hc
  · exact hletter hc
  · rw [isDigit_of_mem_toString hc] at hdigit
    cases hdigit

/-- An AS number is read back. -/
theorem asNumber_toString {n : Nat} (hn : n ≤ 4294967295) :
    asNumber ("AS".toList ++ (toString n).toList) =
      .ok ("AS".toList ++ (toString n).toList, n) := by
  rw [← String.toList_append]
  exact parseAsNumberText_eq_ok_iff.mpr ⟨n, readable_asNumberText hn, rfl⟩

end Fields

section Attributes

variable {env : Environment} {ipy : IPyFunctions} {r : ROA}

/-- The attribute of the prefix. -/
def ROA.classAttribute (ipy : IPyFunctions) (r : ROA) : Attribute :=
  ⟨r.objectClass.toList, r.prefixText ipy, []⟩

/-- The attribute of the origin. -/
def ROA.originAttribute (r : ROA) : Attribute :=
  ⟨"origin".toList, "AS".toList ++ (toString r.asn).toList, []⟩

/-- The resources of an origin. -/
def asnResources (n : Nat) : Resources := ⟨none, none, some n, some n, none, none⟩

/-- The prefix has an error unless it passes the screening. -/
theorem ROA.classAttribute_outcome (hprints : PrintsNetwork env ipy r.ipPrefix) :
    (attributeErrors env r.routeClass false (r.classAttribute ipy) = [] ↔
        prefixScreen r.ipPrefix.version (r.prefixText ipy) = true) ∧
      (prefixScreen r.ipPrefix.version (r.prefixText ipy) = true →
        attributeResult env r.routeClass false (r.classAttribute ipy) =
          some ⟨r.prefixText ipy, [], networkResources r.ipPrefix⟩) := by
  obtain ⟨f, hf, hkey, -, hparse⟩ := ROA.exists_classField hprints.version
  have hvalue : normaliseRpslValue (r.classAttribute ipy).value = r.prefixText ipy :=
    hprints.normalise.1
  have ho := hparse env (r.prefixText ipy)
  rw [← hvalue] at ho
  rw [attributeErrors_eq hf.field ho, attributeResult_eq hf.field ho, hvalue,
    if_pos (by simp [RPSLField.raisesErrors, hkey])]
  unfold ipPrefixFieldParse
  cases hscreen : prefixScreen r.ipPrefix.version (r.prefixText ipy) with
  | false =>
    refine ⟨iff_of_false ?_ (by simp), by simp⟩
    simp [invalid, RPSLParserMessages.errors]
  | true =>
    obtain ⟨hlength, -⟩ := hprints.screen_iff.mp hscreen
    have hip : env.parseIp (r.prefixText ipy) r.ipPrefix.version = .ok r.ipPrefix := hprints.parseIp
    have hstr : env.strIp r.ipPrefix = r.prefixText ipy := hprints.strIp
    rw [if_pos rfl, hip]
    dsimp only
    rw [if_neg hlength, List.append_nil, hstr]
    simp [parsed, RPSLParserMessages.errors]

/-- The origin has no errors. -/
theorem ROA.originAttribute_outcome (env : Environment) (hasn : r.asn ≤ 4294967295) :
    attributeErrors env r.routeClass false r.originAttribute = [] ∧
      attributeResult env r.routeClass false r.originAttribute =
        some ⟨"AS".toList ++ (toString r.asn).toList, [], asnResources r.asn⟩ := by
  have hvalue : normaliseRpslValue r.originAttribute.value =
      "AS".toList ++ (toString r.asn).toList := (normalise_asNumber r.asn).1
  have hparse : originField.kind.parse env (normaliseRpslValue r.originAttribute.value) false =
      .ok (parsed ("AS".toList ++ (toString r.asn).toList) (asnResources r.asn) false "") := by
    rw [hvalue]
    change Except.ok (asNumberFieldParse _) = _
    unfold asNumberFieldParse
    rw [asNumber_toString hasn]
    simp [parsed, asnResources]
  rw [attributeErrors_eq r.singleField_origin.field hparse,
    attributeResult_eq r.singleField_origin.field hparse]
  exact ⟨rfl, rfl⟩

/-- The source has no errors where it is a name. -/
theorem ROA.sourceAttribute_outcome (env : Environment) (r : ROA) {a : Attribute}
    (ha : a.name = "source".toList) :
    (attributeErrors env r.routeClass false a = [] ↔
        reGenericName (normaliseRpslValue a.value) = true) ∧
      (reGenericName (normaliseRpslValue a.value) = true →
        attributeResult env r.routeClass false a =
          some ⟨normaliseRpslValue a.value, [], .none⟩) := by
  have hf : r.routeClass.field? a.name = some source := ha ▸ r.singleField_source.field
  have ho : source.kind.parse env (normaliseRpslValue a.value) false =
      .ok (genericNameFieldParse [] false (normaliseRpslValue a.value) false) := rfl
  have hprefixes : reservedPrefixes.find? (fun p ↦ false && p.toList.isPrefixOf
      (upperText (normaliseRpslValue a.value)) && p ∉ ([] : List String)) = none := by
    simp
  rw [attributeErrors_eq hf ho, attributeResult_eq hf ho, if_pos (by rfl)]
  unfold genericNameFieldParse
  simp only [hprefixes]
  cases hname : reGenericName (normaliseRpslValue a.value) with
  | false => simp [invalid, RPSLParserMessages.errors]
  | true => simp [unchanged, RPSLParserMessages.errors]

/-- Descriptions, remarks and maximal lengths have no errors that count. -/
theorem ROA.attributeErrors_of_mem (r : ROA) {a : Attribute}
    (ha : a.name ∈ ["descr".toList, "remarks".toList, "max-length".toList]) :
    attributeErrors env r.routeClass false a = [] := by
  refine attributeErrors_of_not_raises (fun f hf ↦ ?_)
  have hraises : ∀ c ∈ [rpslRoute, rpslRoute6], ∀ name ∈ ["descr", "remarks", "max-length"],
      ∀ f ∈ c.fields, f.name = name → f.raisesErrors false = false := by decide
  obtain ⟨hmem, hname⟩ := mem_of_field? hf
  have hroute : r.routeClass ∈ [rpslRoute, rpslRoute6] := by
    rcases r.class_cases with ⟨hclass, -⟩ | ⟨hclass, -⟩ <;> rw [hclass] <;> simp
  refine hraises _ hroute f.name ?_ f hmem rfl
  simp only [← hname, String.toList_inj, List.mem_cons, List.not_mem_nil, or_false] at ha ⊢
  exact ha

end Attributes

section FurtherLines

/-- A line that continues a value without contributing to it. -/
def isCommentLine (line : List Char) : Bool := significantPart (strip (line.drop 1)) = []

/-- The attributes that the lines after the source of an object add, and their errors. -/
def addedAttributes (c : RPSLObjectClass) (lines : List (List Char)) :
    List Attribute × RPSLParserMessages :=
  extractLines c 0 [] none (lines.dropWhile isContinuationLine)

/-- Lines after the source of an object that leave its prefix, origin and source as they are: the
source is continued by comments at most, and what else there is are other attributes, without
errors that count. -/
structure HarmlessLines (env : Environment) (c : RPSLObjectClass) (lines : List (List Char)) :
    Prop where
  comments : ∀ line ∈ lines.takeWhile isContinuationLine, isCommentLine line = true
  extracted : (addedAttributes c lines).2.errors = []
  attributes : ∀ a ∈ (addedAttributes c lines).1,
    a.name ∉ [c.rpslObjectClass.toList, "origin".toList, "source".toList] ∧
      attributeErrors env c false a = []

/-- Where the name of the trust anchor has one line, it does not add any. -/
theorem harmlessLines_nil (env : Environment) (c : RPSLObjectClass) : HarmlessLines env c [] :=
  ⟨by simp, rfl, by intro a ha; cases ha⟩

/-- A source that is continued is still the same exactly if it is continued by comments. -/
theorem normalise_sourceValue {value : List Char} (hvalue : IsSourceValue value)
    {continuations : List (List Char)} (hcontinuations : ∀ line ∈ continuations, '\n' ∉ line) :
    (upperText (normaliseRpslValue
        ((⟨"source".toList, value, []⟩ : Attribute).continued continuations).value) =
          "RPKI".toList ↔ ∀ line ∈ continuations, isCommentLine line = true) ∧
      ((∀ line ∈ continuations, isCommentLine line = true) → normaliseRpslValue
        ((⟨"source".toList, value, []⟩ : Attribute).continued continuations).value =
          "RPKI".toList) := by
  obtain ⟨text, rfl, htext⟩ := hvalue
  have hbefore (text : List Char) : beforeFirst '#' ("RPKI  ".toList ++ '#' :: text) =
      "RPKI  ".toList := by
    unfold beforeFirst
    rw [List.takeWhile_append_of_pos (List.all_eq_true.mp (by decide)),
      List.takeWhile_cons_of_neg (by decide), List.append_nil]
  have hnewline : '\n' ∉ "RPKI  ".toList ++ '#' :: text :=
    List.not_mem_append (by decide) (List.not_mem_cons_of_ne_of_not_mem (by decide) htext)
  unfold Attribute.continued
  dsimp only
  cases hlines : continuations with
  | nil =>
    have hsingle : normaliseRpslValue ("RPKI  ".toList ++ '#' :: text) = "RPKI".toList := by
      unfold normaliseRpslValue
      rw [if_pos hnewline, hbefore]
      decide
    rw [List.map_nil, List.flatten_nil, List.append_nil, hsingle]
    exact ⟨iff_of_true (by decide) (by simp), fun _ ↦ rfl⟩
  | cons line rest =>
    rw [← hlines]
    have hparts : continuations.map (fun line ↦ '\n' :: strip (line.drop 1)) =
        (continuations.map (fun line ↦ strip (line.drop 1))).map ('\n' :: ·) := by
      rw [List.map_map]
      rfl
    have hpart : ∀ part ∈ continuations.map (fun line ↦ strip (line.drop 1)), '\n' ∉ part := by
      intro part hpart hmem
      obtain ⟨line, hline, rfl⟩ := List.mem_map.mp hpart
      exact hcontinuations line hline (List.mem_of_mem_drop (mem_of_mem_stripChars hmem))
    have hfirst : significantPart (stripChars ['\r'] ("RPKI  ".toList ++ '#' :: text)) =
        "RPKI".toList := by
      obtain ⟨text', back, hstripped, -⟩ := stripChars_cons (show '#' ∉ ['\r'] by decide) text
      rw [stripChars_append_cons (by simp) (by decide), hstripped, significantPart, hbefore]
      decide
    have hreturn (line : List Char) : stripChars ['\r'] (strip line) = strip line := by
      have hsubset : ['\r'] ⊆ whitespace := by decide
      exact stripChars_eq_self (fun c hc h ↦ head?_stripChars hc (hsubset h))
        (fun c hc h ↦ getLast?_stripChars hc (hsubset h))
    rw [hparts, normaliseRpslValue_continued hnewline hpart (by simp [hlines]),
      List.map_cons, hfirst, List.filter_cons_of_pos (by decide), List.map_map]
    simp only [Function.comp_def, hreturn]
    have hnil : (continuations.map (fun line ↦ significantPart (strip (line.drop 1)))).filter
        (fun part ↦ decide (part ≠ [])) = [] ↔
          ∀ line ∈ continuations, isCommentLine line = true := by
      rw [List.filter_eq_nil_iff]
      simp [isCommentLine]
    constructor
    · rw [← hnil]
      cases (continuations.map (fun line ↦ significantPart (strip (line.drop 1)))).filter
        (fun part ↦ decide (part ≠ [])) with
      | nil => exact iff_of_true (by decide) rfl
      | cons part parts =>
        refine iff_of_false (fun hsame ↦ ?_) (by simp)
        unfold joinWith at hsame
        rw [List.intercalate_cons_cons, upperText_append, upperText_append] at hsame
        have hlength := congrArg List.length hsame
        rw [List.length_append] at hlength
        have hlonger : "RPKI".toList.length < (upperText "RPKI".toList ++ upperText [',']).length :=
          by decide
        omega
    · intro hcomments
      rw [hnil.mpr hcomments]
      decide

end FurtherLines

section Extracted

variable {env : Environment} {ipy : IPyFunctions} {setting : RemarksSetting} {r : ROA}

/-- The attributes of a pseudo-IRR object, and what the name of its trust anchor adds to them. -/
structure ROA.ExtractedAs (ipy : IPyFunctions) (setting : RemarksSetting) (r : ROA)
    (middle : List Attribute) (sourceAttribute : Attribute) : Prop where
  others : ∀ a ∈ middle, a.name ∈ ["descr".toList, "remarks".toList, "max-length".toList]
  name : sourceAttribute.name = "source".toList
  source : upperText (normaliseRpslValue sourceAttribute.value) = "RPKI".toList ↔
    ∀ line ∈ r.furtherLines.takeWhile isContinuationLine, isCommentLine line = true
  normalised : (∀ line ∈ r.furtherLines.takeWhile isContinuationLine, isCommentLine line = true) →
    normaliseRpslValue sourceAttribute.value = "RPKI".toList
  errors : RPSLParserMessages.errors (extractAttributesValues r.routeClass
      (r.renderRpslText ipy (pseudoIrrRemarks setting)).toList).2 = [] ↔
    (addedAttributes r.routeClass r.furtherLines).2.errors = []
  data : (addedAttributes r.routeClass r.furtherLines).2.errors = [] →
    (extractAttributesValues r.routeClass
      (r.renderRpslText ipy (pseudoIrrRemarks setting)).toList).1 =
        r.classAttribute ipy :: (middle ++ r.originAttribute :: sourceAttribute ::
          (addedAttributes r.routeClass r.furtherLines).1)

/-- The attributes before the source. -/
theorem ROA.attributes_of_values (hprints : PrintsNetwork env ipy r.ipPrefix)
    {attributes : List Attribute}
    (hattributes : List.Forall₂ ExtractedValue (r.attributeValues ipy setting) attributes) :
    ∃ middle, (∀ a ∈ middle, a.name ∈ ["descr".toList, "remarks".toList, "max-length".toList]) ∧
      attributes = r.classAttribute ipy :: (middle ++ [r.originAttribute]) := by
  unfold ROA.attributeValues at hattributes
  cases hattributes with
  | cons hclass hattributes =>
    cases hattributes with
    | cons hdescr hattributes =>
      cases hattributes with
      | cons hremarks hattributes =>
        cases hattributes with
        | cons hmaxLength hattributes =>
          cases hattributes with
          | cons horigin hattributes =>
            cases hattributes
            obtain ⟨-, hstrip, hnewline⟩ := hprints.normalise
            obtain ⟨-, hstripOrigin, -⟩ := normalise_asNumber r.asn
            have hnumber : '\n' ∉ (toString r.asn).toList :=
              fun h ↦ absurd (isDigit_of_mem_toString h) (by decide)
            have hfirst := hclass.single (List.not_mem_append (by simp) hnewline)
            have hlast := horigin.single (List.not_mem_append (by decide) hnumber)
            have hspaces : "         AS".toList = "         ".toList ++ "AS".toList := by decide
            have hvalue : strip (List.replicate (rpslAttributeTextWidth -
                (r.objectClass.length + 1)) ' ' ++ r.prefixText ipy) = r.prefixText ipy :=
              (stripChars_append_left (fun c hc ↦ by
                rw [List.eq_of_mem_replicate hc]
                decide) _).trans hstrip
            have hasn : strip ("         AS".toList ++ (toString r.asn).toList) =
                "AS".toList ++ (toString r.asn).toList := by
              rw [hspaces, List.append_assoc]
              exact (stripChars_append_left
                (show "         ".toList ⊆ whitespace by decide) _).trans hstripOrigin
            dsimp only at hfirst hlast
            rw [hvalue] at hfirst
            rw [hasn] at hlast
            rw [hfirst, hlast]
            refine ⟨[_, _, _], ?_, rfl⟩
            simp [hdescr.name, hremarks.name, hmaxLength.name]

theorem ROA.exists_extractedAs (setting : RemarksSetting)
    (hprints : PrintsNetwork env ipy r.ipPrefix) :
    ∃ middle sourceAttribute, r.ExtractedAs ipy setting middle sourceAttribute := by
  obtain ⟨lineNo, attributes, value, hattributes, hvalue, hextract⟩ :=
    ROA.extractAttributesValues_eq setting hprints.normalise.2.2
  obtain ⟨middle, hmiddle, rfl⟩ := ROA.attributes_of_values hprints hattributes
  have hlines := List.takeWhile_append_dropWhile (p := isContinuationLine) (l := r.furtherLines)
  have hcontinues : ∀ line ∈ r.furtherLines.takeWhile isContinuationLine,
      isContinuationLine line = true := fun line hline ↦ List.mem_takeWhile_imp hline
  have hnewline : ∀ line ∈ r.furtherLines.takeWhile isContinuationLine, '\n' ∉ line := by
    intro line hline
    have hmem := List.mem_of_mem_tail ((List.takeWhile_prefix _).sublist.mem hline)
    exact (mem_splitlineUnicodesafe hmem).1
  have hends : ∀ line ∈ (r.furtherLines.dropWhile isContinuationLine).head?,
      isContinuationLine line = false := by
    intro line hline
    have h := List.head?_dropWhile_not isContinuationLine r.furtherLines
    rw [Option.mem_def.mp hline] at h
    simpa using h
  rw [← hlines, extractLines_continued hcontinues] at hextract
  obtain ⟨hsource, hnormalised⟩ := normalise_sourceValue hvalue hnewline
  generalize hattribute : (⟨"source".toList, value, []⟩ : Attribute).continued
    (r.furtherLines.takeWhile isContinuationLine) = sourceAttribute at hextract hsource hnormalised
  have hname : sourceAttribute.name = "source".toList := hattribute ▸ rfl
  have hsaved : saveAttribute r.routeClass (r.classAttribute ipy :: (middle ++ [r.originAttribute]))
      (some sourceAttribute) =
        (r.classAttribute ipy :: (middle ++ [r.originAttribute]) ++ [sourceAttribute]) ++ [] := by
    have hkept : isWord r.routeClass.discardedFields "source".toList = false := by
      rcases r.class_cases with ⟨hclass, -⟩ | ⟨hclass, -⟩ <;> rw [hclass] <;> decide
    unfold saveAttribute
    dsimp only
    rw [hname, if_neg (fun h ↦ h.elim (by decide) (by simpa using hkept)), List.append_nil]
  obtain ⟨herrors, hrest⟩ := extractLines_saved r.routeClass
    (lineNo + (r.furtherLines.takeWhile isContinuationLine).length)
    (r.classAttribute ipy :: (middle ++ [r.originAttribute])) sourceAttribute hends
  rw [hsaved, extractLines_append] at herrors hrest
  obtain ⟨hdata, hsame⟩ := extractLines_lineNo r.routeClass [] none
    (lineNo + (r.furtherLines.takeWhile isContinuationLine).length) 0
    (r.furtherLines.dropWhile isContinuationLine)
  have hboth := herrors.trans hsame
  refine ⟨middle, sourceAttribute, hmiddle, hname, hsource, hnormalised, ?_, fun hadded ↦ ?_⟩
  · rw [hextract]
    exact hboth
  · rw [hextract, hrest (hboth.mpr hadded)]
    dsimp only
    rw [hdata]
    unfold addedAttributes
    simp

end Extracted

section Parsed

variable {env : Environment} {ipy : IPyFunctions} {setting : RemarksSetting} {r : ROA}
  {defaultSource : Option (List Char)}

/-- The text of an object parses, in non-strict mode and without errors, into an object of its
class, with its resources, and with its values of some attributes. -/
def ParsesAsStored (env : Environment) (o : RPSLObject) (attrs : List String)
    (defaultSource : Option (List Char)) : Prop :=
  ∃ obj, rpslObjectFromText env (o.renderRpslText 0).toList false defaultSource = .ok obj ∧
    obj.errors = [] ∧ obj.rpslObjectClass = o.rpslObjectClass ∧
    obj.resources = ⟨o.ipFirst, o.ipLast, o.asnFirst, o.asnLast, o.ipPrefix, o.prefixLength⟩ ∧
    ∀ attr ∈ attrs, ∃ value, o.parsedData.lookup attr = some [value] ∧
      obj.parsedData.get attr.toList = some (.text value.toList)

/-- The counts of the attributes of a pseudo-IRR object add no errors. -/
theorem ROA.countedObject_errors (defaultSource : Option (List Char)) {middle : List Attribute}
    {sourceAttribute : Attribute}
    (hextracted : r.ExtractedAs ipy setting middle sourceAttribute) :
    ((countedObject r.routeClass (r.renderRpslText ipy (pseudoIrrRemarks setting)).toList false
        defaultSource).errors = [] ↔ (addedAttributes r.routeClass r.furtherLines).2.errors = []) ∧
      ((addedAttributes r.routeClass r.furtherLines).2.errors = [] →
        (countedObject r.routeClass (r.renderRpslText ipy (pseudoIrrRemarks setting)).toList false
          defaultSource).objectData = r.classAttribute ipy :: (middle ++ r.originAttribute ::
            sourceAttribute :: (addedAttributes r.routeClass r.furtherLines).1)) := by
  generalize htext : (r.renderRpslText ipy (pseudoIrrRemarks setting)).toList = text
  have hextract : (extractObject r.routeClass text false defaultSource).errors =
      RPSLParserMessages.errors (extractAttributesValues r.routeClass text).2 := rfl
  have hdata : (extractObject r.routeClass text false defaultSource).objectData =
      (extractAttributesValues r.routeClass text).1 := rfl
  have herrors := hextracted.errors
  have hattributes := hextracted.data
  rw [htext, ← hextract] at herrors
  rw [htext, ← hdata] at hattributes
  unfold countedObject ParsedObject.validateCounts
  split
  · next hvalid =>
    have hadded := herrors.mp hvalid
    refine ⟨iff_of_true ?_ hadded, fun _ ↦ hattributes hadded⟩
    have hrequired : ∀ name ∈ r.routeClass.pkFields ++ (if (extractObject r.routeClass text false
        defaultSource).defaultSource = [] then ["source"] else []),
        name.toList ∈ (extractObject r.routeClass text false defaultSource).objectData.map
          Attribute.name := by
      have hpk : r.routeClass.pkFields = [r.objectClass, "origin"] := by
        rcases r.class_cases with ⟨hclass, hname⟩ | ⟨hclass, hname⟩ <;>
          rw [hclass, hname] <;> decide
      have hnames : ∀ name ∈ [r.objectClass, "origin", "source"], name.toList ∈
          (extractObject r.routeClass text false defaultSource).objectData.map Attribute.name := by
        rw [hattributes hadded, List.map_cons, List.map_append, List.map_cons, List.map_cons,
          hextracted.name]
        refine List.forall_mem_cons.mpr ⟨List.mem_cons_self,
          List.forall_mem_cons.mpr ⟨?_, List.forall_mem_singleton.mpr ?_⟩⟩
        · exact List.mem_cons_of_mem _ (List.mem_append_right _ List.mem_cons_self)
        · exact List.mem_cons_of_mem _
            (List.mem_append_right _ (List.mem_cons_of_mem _ List.mem_cons_self))
      rw [hpk]
      intro name hname
      refine hnames name ?_
      rcases List.mem_append.mp hname with hname | hname
      · simp only [List.mem_cons, List.not_mem_nil, or_false] at hname ⊢
        rcases hname with hname | hname
        · exact .inl hname
        · exact .inr (.inl hname)
      · split at hname
        · simp only [List.mem_cons, List.not_mem_nil, or_false] at hname ⊢
          exact .inr (.inr hname)
        · cases hname
    have hcounts : (extractObject r.routeClass text false defaultSource).validateAttributeCounts =
        [] := by
      have hstrict : ¬ (extractObject r.routeClass text false defaultSource).strictValidation =
          true :=
        Bool.false_ne_true
      unfold ParsedObject.validateAttributeCounts
      dsimp only
      rw [if_neg hstrict, List.map_eq_nil_iff, List.filter_eq_nil_iff]
      intro name hname
      simpa using hrequired name hname
    unfold ParsedObject.errors at hvalid ⊢
    dsimp only
    rw [hcounts, List.append_nil]
    exact hvalid
  · next hinvalid =>
    exact ⟨iff_of_false hinvalid (fun h ↦ hinvalid (herrors.mpr h)),
      fun h ↦ absurd (herrors.mpr h) hinvalid⟩

/-- An attribute without resources. -/
def IsNeutral (env : Environment) (c : RPSLObjectClass) (a : Attribute) : Prop :=
  ∀ resources ∈ attributeResources env c false a, resources = .none

theorem conflict_of_none (resources : Resources) :
    (resources.conflict .none).isSome = false := by
  rw [← Bool.not_eq_true, conflict_isSome_iff]
  simp [Resources.none]

/-- Attributes without resources leave those that there are. -/
theorem foldl_update_of_neutral {c : RPSLObjectClass} {data : List Attribute}
    (hdata : ∀ a ∈ data, IsNeutral env c a) (resources : Resources) :
    (data.filterMap (attributeResources env c false)).foldl Resources.update resources =
      resources := by
  induction data with
  | nil => rfl
  | cons a data ih =>
    obtain ⟨ha, hothers⟩ := List.forall_mem_cons.mp hdata
    rw [List.filterMap_cons]
    cases hres : attributeResources env c false a with
    | none => exact ih hothers
    | some new =>
      have hnone := ha new hres
      have hupdate : resources.update new = resources := by
        rw [hnone]
        rfl
      dsimp only
      rw [List.foldl_cons, hupdate]
      exact ih hothers

/-- Where only the prefix and the origin have resources, they do not conflict. -/
theorem distinctResources_of_neutral {c : RPSLObjectClass} {first origin : Attribute}
    {middle after : List Attribute} {ip : IP} {n : Nat}
    (hfirst : attributeResources env c false first = some (networkResources ip))
    (horigin : attributeResources env c false origin = some (asnResources n))
    (hmiddle : ∀ a ∈ middle, IsNeutral env c a) (hafter : ∀ a ∈ after, IsNeutral env c a) :
    DistinctResources env c false (first :: (middle ++ origin :: after)) ∧
      ((first :: (middle ++ origin :: after)).filterMap (attributeResources env c false)).foldl
        Resources.update .none = ⟨some ip.net, some ip.broadcast, some n, some n, some ip,
          some ip.prefixlen⟩ := by
  have hleft {a b : Attribute} (ha : IsNeutral env c a) : ∀ r ∈ attributeResources env c false a,
      ∀ r' ∈ attributeResources env c false b, (r.conflict r').isSome = false := by
    intro r hr r' _
    rw [ha r hr]
    exact conflict_none r'
  have hright {a b : Attribute} (hb : IsNeutral env c b) : ∀ r ∈ attributeResources env c false a,
      ∀ r' ∈ attributeResources env c false b, (r.conflict r').isSome = false := by
    intro r _ r' hr'
    rw [hb r' hr']
    exact conflict_of_none r
  constructor
  · refine List.pairwise_cons.mpr ⟨fun b hb ↦ ?_, List.pairwise_append.mpr ⟨?_, ?_, ?_⟩⟩
    · rcases List.mem_append.mp hb with hb | hb
      · exact hright (hmiddle b hb)
      · rcases List.mem_cons.mp hb with rfl | hb
        · rw [hfirst, horigin]
          rintro r ⟨⟩ r' ⟨⟩
          rw [← Bool.not_eq_true, conflict_isSome_iff]
          simp [networkResources, asnResources]
        · exact hright (hafter b hb)
    · exact List.pairwise_of_forall_mem_list (fun a ha b _ ↦ hleft (hmiddle a ha))
    · exact List.pairwise_cons.mpr ⟨fun b hb ↦ hright (hafter b hb),
        List.pairwise_of_forall_mem_list (fun a ha b _ ↦ hleft (hafter a ha))⟩
    · exact fun a ha b _ ↦ hleft (hmiddle a ha)
  · rw [List.filterMap_cons, hfirst]
    dsimp only
    rw [List.foldl_cons, List.filterMap_append, List.foldl_append, foldl_update_of_neutral hmiddle,
      List.filterMap_cons, horigin]
    dsimp only
    rw [List.foldl_cons, foldl_update_of_neutral hafter]
    rfl

end Parsed

section Main

variable {env : Environment} {ipy : IPyFunctions} {s : Settings} {v : ScopeFilterValidator}
  {setting : RemarksSetting} {r : ROA} {defaultSource : Option (List Char)}

/-- The values of a stored pseudo-IRR object. -/
theorem ROA.lookup_parsedData (s : Settings) (v : ScopeFilterValidator) (ipy : IPyFunctions)
    (setting : RemarksSetting) (r : ROA) :
    (r.rpslObject s v ipy (pseudoIrrRemarks setting)).parsedData.lookup r.objectClass =
        some [ipy.str r.ipPrefix] ∧
      (r.rpslObject s v ipy (pseudoIrrRemarks setting)).parsedData.lookup "origin" =
        some ["AS" ++ toString r.asn] ∧
      (r.rpslObject s v ipy (pseudoIrrRemarks setting)).parsedData.lookup "source" =
        some ["RPKI"] := by
  have hdata : (r.rpslObject s v ipy (pseudoIrrRemarks setting)).parsedData =
      [(r.objectClass, [ipy.str r.ipPrefix]), ("origin", ["AS" ++ toString r.asn]),
        ("source", ["RPKI"]), ("rpki_max_length", [toString r.maxLength])] := rfl
  rw [hdata]
  rcases r.class_cases with ⟨-, hname⟩ | ⟨-, hname⟩ <;> rw [hname] <;> exact ⟨rfl, rfl, rfl⟩

/-- The names of the attributes of a pseudo-IRR object differ. -/
theorem ROA.names_ne (r : ROA) : r.objectClass.toList ≠ "origin".toList ∧
    r.objectClass.toList ≠ "source".toList ∧
    r.objectClass.toList ∉ ["descr".toList, "remarks".toList, "max-length".toList] := by
  rcases r.class_cases with ⟨-, hname⟩ | ⟨-, hname⟩ <;> rw [hname] <;> decide

section Extracted

variable {middle : List Attribute} {sourceAttribute : Attribute}

/-- The attributes between the prefix and the origin have other names. -/
theorem ROA.ExtractedAs.ne_of_mem (hextracted : r.ExtractedAs ipy setting middle sourceAttribute)
    {a : Attribute} (ha : a ∈ middle) :
    a.name ≠ r.objectClass.toList ∧ a.name ≠ "origin".toList ∧ a.name ≠ "source".toList := by
  have hmem := hextracted.others a ha
  refine ⟨fun h ↦ r.names_ne.2.2 (h ▸ hmem), fun h ↦ ?_, fun h ↦ ?_⟩ <;> rw [h] at hmem <;>
    exact absurd hmem (by decide)

/-- The attributes before the source have other names. -/
theorem ROA.ExtractedAs.ne_of_before
    (hextracted : r.ExtractedAs ipy setting middle sourceAttribute) :
    ∀ b ∈ r.classAttribute ipy :: (middle ++ [r.originAttribute]),
      b.name ≠ sourceAttribute.name := by
  rw [hextracted.name]
  refine List.forall_mem_cons.mpr ⟨r.names_ne.2.1, fun b hb ↦ ?_⟩
  rcases List.mem_append.mp hb with hb | hb
  · exact (hextracted.ne_of_mem hb).2.2
  · rw [List.mem_singleton.mp hb]
    exact show "origin".toList ≠ "source".toList by decide

theorem ROA.ExtractedAs.singleField
    (hextracted : r.ExtractedAs ipy setting middle sourceAttribute) :
    SingleField r.routeClass sourceAttribute.name Rpsl.source := by
  rw [hextracted.name]
  exact r.singleField_source

/-- The attributes by what comes before and after the source. -/
theorem ROA.attributes_eq_append (ipy : IPyFunctions) (r : ROA) (middle : List Attribute)
    (sourceAttribute : Attribute) (after : List Attribute) :
    r.classAttribute ipy :: (middle ++ r.originAttribute :: sourceAttribute :: after) =
      r.classAttribute ipy :: (middle ++ [r.originAttribute]) ++ sourceAttribute :: after := by
  simp

end Extracted

/-- Where the prefix passes the screening and the lines after the source are harmless, the text
parses into what is stored. -/
theorem ROA.parsesAsStored (hprints : PrintsNetwork env ipy r.ipPrefix)
    (hasn : r.asn ≤ 4294967295)
    (hscreen : prefixScreen r.ipPrefix.version (r.prefixText ipy) = true)
    (hharmless : HarmlessLines env r.routeClass r.furtherLines) :
    ParsesAsStored env (r.rpslObject s v ipy (pseudoIrrRemarks setting))
      [r.objectClass, "origin", "source"] defaultSource := by
  obtain ⟨middle, sourceAttribute, hextracted⟩ := ROA.exists_extractedAs setting hprints
  obtain ⟨hcounted, hdata⟩ := ROA.countedObject_errors defaultSource hextracted
  replace hcounted := hcounted.mpr hharmless.extracted
  replace hdata := hdata hharmless.extracted
  obtain ⟨hclassErrors, hclassResult⟩ := ROA.classAttribute_outcome hprints
  replace hclassResult := hclassResult hscreen
  obtain ⟨horiginErrors, horiginResult⟩ := ROA.originAttribute_outcome env hasn
  have hname : normaliseRpslValue sourceAttribute.value = "RPKI".toList :=
    hextracted.normalised hharmless.comments
  obtain ⟨hsourceErrors, hsourceResult⟩ := ROA.sourceAttribute_outcome env r hextracted.name
  rw [hname] at hsourceErrors hsourceResult
  replace hsourceResult := hsourceResult (by decide)
  obtain ⟨hneOrigin, hneSource, -⟩ := r.names_ne
  have hadded (a : Attribute) (ha : a ∈ (addedAttributes r.routeClass r.furtherLines).1) :
      a.name ≠ r.objectClass.toList ∧ a.name ≠ "origin".toList ∧ a.name ≠ "source".toList := by
    have hnot := (hharmless.attributes a ha).1
    rw [r.objectClass_routeClass] at hnot
    simpa only [List.mem_cons, List.not_mem_nil, or_false, not_or] using hnot
  have hclassResources : attributeResources env r.routeClass false (r.classAttribute ipy) =
      some (networkResources r.ipPrefix) := by
    obtain ⟨f, hf, hkey, -⟩ := ROA.exists_classField hprints.version
    rw [attributeResources_eq_map (fun f' hf' ↦ by cases hf.field.symm.trans hf'; exact hkey),
      hclassResult]
    rfl
  have horiginResources : attributeResources env r.routeClass false r.originAttribute =
      some (asnResources r.asn) := by
    rw [attributeResources_eq_map (fun f' hf' ↦ by
      cases r.singleField_origin.field.symm.trans hf'; rfl), horiginResult]
    rfl
  obtain ⟨hdistinct, hresources⟩ := distinctResources_of_neutral hclassResources horiginResources
    (fun a ha ↦ ROA.attributeResources_of_ne (hextracted.ne_of_mem ha).1
      (hextracted.ne_of_mem ha).2.1)
    (List.forall_mem_cons.mpr ⟨ROA.attributeResources_of_ne
      (by rw [hextracted.name]; exact hneSource.symm) (by rw [hextracted.name]; decide),
      fun a ha ↦ ROA.attributeResources_of_ne (hadded a ha).1 (hadded a ha).2.1⟩)
  obtain ⟨obj, hobj⟩ := (validateObject_ok_iff (mem_of_findClass r.findClass_objectClass)
    (r.renderRpslText ipy (pseudoIrrRemarks setting)).toList false defaultSource).mpr
    ⟨fun a _ ↦ r.not_hasRefusedUrl a, fun _ ↦ by rw [hdata]; exact hdistinct⟩
  have hparsed := textParsed_of_validateObject (mem_of_findClass r.findClass_objectClass) hobj
  obtain ⟨hlookupClass, hlookupOrigin, hlookupSource⟩ :=
    ROA.lookup_parsedData s v ipy setting r
  refine ⟨obj, (rpslObjectFromText_of_findClass (ROA.findClass_renderRpslText ipy setting r)
    false defaultSource).trans hobj, ?_, ?_, ?_, ?_⟩
  · rw [hparsed.errors, hcounted, hdata, List.nil_append, List.flatMap_eq_nil_iff]
    intro a ha
    rcases List.mem_cons.mp ha with rfl | ha
    · exact hclassErrors.mpr hscreen
    · rcases List.mem_append.mp ha with ha | ha
      · exact r.attributeErrors_of_mem (hextracted.others a ha)
      · rcases List.mem_cons.mp ha with rfl | ha
        · exact horiginErrors
        · rcases List.mem_cons.mp ha with rfl | ha
          · exact hsourceErrors.mpr (by decide)
          · exact (hharmless.attributes a ha).2
  · unfold ParsedObject.rpslObjectClass
    rw [hparsed.objectClass]
    exact r.objectClass_routeClass
  · rw [hparsed.resources, hdata, hresources]
    rfl
  · have hlast (a : Attribute) (ha : a ∈ (addedAttributes r.routeClass r.furtherLines).1)
        (name : List Char)
        (hname : name ∈ [r.objectClass.toList, "origin".toList, "source".toList]) :
        a.name ≠ name := by
      simp only [List.mem_cons, List.not_mem_nil, or_false] at hname
      obtain ⟨hclass, horigin, hsource⟩ := hadded a ha
      rcases hname with rfl | rfl | rfl
      · exact hclass
      · exact horigin
      · exact hsource
    intro attr hattr
    simp only [List.mem_cons, List.not_mem_nil, or_false] at hattr
    rcases hattr with rfl | rfl | rfl
    · obtain ⟨f, hf, -, hcase, -⟩ := ROA.exists_classField hprints.version
      have hvalue := (hparsed.single [] (r.classAttribute ipy) _ f _ hdata hf (by simp)
        hclassResult).1 (fun b hb hsame ↦ by
          rcases List.mem_append.mp hb with hb | hb
          · exact absurd hsame (hextracted.ne_of_mem hb).1
          · rcases List.mem_cons.mp hb with rfl | hb
            · exact absurd hsame hneOrigin.symm
            · rcases List.mem_cons.mp hb with rfl | hb
              · exact absurd hsame (by rw [hextracted.name]; exact hneSource.symm)
              · exact absurd hsame (hlast b hb _ List.mem_cons_self))
      refine ⟨_, hlookupClass, hvalue.trans ?_⟩
      rw [RPSLField.stored, if_pos hcase]
      rfl
    · have hvalue := (hparsed.single (r.classAttribute ipy :: middle) r.originAttribute _
        originField _ hdata r.singleField_origin (List.forall_mem_cons.mpr ⟨hneOrigin,
          fun b hb ↦ (hextracted.ne_of_mem hb).2.1⟩) horiginResult).1 (fun b hb hsame ↦ by
          rcases List.mem_cons.mp hb with rfl | hb
          · rw [hextracted.name] at hsame
            exact absurd (show "source".toList = "origin".toList from hsame) (by decide)
          · exact absurd hsame (hlast b hb _ (List.mem_cons_of_mem _ List.mem_cons_self)))
      refine ⟨_, hlookupOrigin, hvalue.trans ?_⟩
      rw [String.toList_append]
      rfl
    · have hvalue := (hparsed.single _ sourceAttribute _ source _
        (hdata.trans (ROA.attributes_eq_append ..)) hextracted.singleField hextracted.ne_of_before
        hsourceResult).1 (fun b hb hsame ↦
          absurd hsame (hlast b hb _ (by simp [hextracted.name])))
      rw [hextracted.name] at hvalue
      exact ⟨_, hlookupSource, hvalue.trans (by decide)⟩

/-- Where the text parses into what is stored, the prefix passes the screening and the lines after
the source are harmless. -/
theorem ROA.harmlessLines_of_parsesAsStored (hprints : PrintsNetwork env ipy r.ipPrefix)
    (hasn : r.asn ≤ 4294967295)
    (h : ParsesAsStored env (r.rpslObject s v ipy (pseudoIrrRemarks setting))
      [r.objectClass, "origin", "source"] defaultSource) :
    prefixScreen r.ipPrefix.version (r.prefixText ipy) = true ∧
      HarmlessLines env r.routeClass r.furtherLines := by
  obtain ⟨middle, sourceAttribute, hextracted⟩ := ROA.exists_extractedAs setting hprints
  obtain ⟨hcounted, hdata⟩ := ROA.countedObject_errors defaultSource hextracted
  obtain ⟨obj, hobj, herrors, -, -, hattrs⟩ := h
  have hclass := mem_of_findClass r.findClass_objectClass
  have hvalidated := (rpslObjectFromText_of_findClass (ROA.findClass_renderRpslText ipy setting r)
    false defaultSource).symm.trans hobj
  have hparsed := textParsed_of_validateObject hclass hvalidated
  have hsplit := List.append_eq_nil_iff.mp (hparsed.errors.symm.trans herrors)
  have hadded := hcounted.mp hsplit.1
  replace hdata := hdata hadded
  have hvalid := List.flatMap_eq_nil_iff.mp (hdata ▸ hsplit.2)
  obtain ⟨hclassErrors, hclassResult⟩ := ROA.classAttribute_outcome hprints
  have hscreen := hclassErrors.mp (hvalid _ (by simp))
  replace hclassResult := hclassResult hscreen
  obtain ⟨-, horiginResult⟩ := ROA.originAttribute_outcome env hasn
  obtain ⟨hsourceErrors, hsourceResult⟩ := ROA.sourceAttribute_outcome env r hextracted.name
  replace hsourceResult := hsourceResult (hsourceErrors.mp (hvalid _ (by simp)))
  obtain ⟨hneOrigin, hneSource, -⟩ := r.names_ne
  obtain ⟨hlookupClass, hlookupOrigin, hlookupSource⟩ :=
    ROA.lookup_parsedData s v ipy setting r
  have hget {attr value : String} (hattr : attr ∈ [r.objectClass, "origin", "source"])
      (hlookup : (r.rpslObject s v ipy (pseudoIrrRemarks setting)).parsedData.lookup attr =
        some [value]) : obj.parsedData.get attr.toList = some (.text value.toList) := by
    obtain ⟨value', hlookup', hvalue⟩ := hattrs attr hattr
    cases hlookup.symm.trans hlookup'
    exact hvalue
  have hnoClass : ∀ b ∈ middle ++ r.originAttribute :: sourceAttribute ::
      (addedAttributes r.routeClass r.furtherLines).1, b.name ≠ r.objectClass.toList := by
    obtain ⟨f, hf, hkey, -⟩ := ROA.exists_classField hprints.version
    refine hparsed.ne_of_first hclass herrors r.not_hasRefusedUrl [] (r.classAttribute ipy) hdata hf
      (by simp [RPSLField.raisesErrors, hkey]) (by simp) hclassResult
      (hget (by simp) hlookupClass) (fun hhead ↦ ?_)
    exact hprints.normalise.2.2 (List.mem_of_mem_head? hhead)
  have hnoOrigin : ∀ b ∈ sourceAttribute :: (addedAttributes r.routeClass r.furtherLines).1,
      b.name ≠ "origin".toList :=
    hparsed.ne_of_first hclass herrors r.not_hasRefusedUrl (r.classAttribute ipy :: middle)
      r.originAttribute hdata r.singleField_origin rfl
      (List.forall_mem_cons.mpr ⟨hneOrigin, fun b hb ↦ (hextracted.ne_of_mem hb).2.1⟩)
      horiginResult (hget (by simp) hlookupOrigin) (by simp)
  have hgetSource := hget (by simp) hlookupSource
  rw [← hextracted.name] at hgetSource
  have hsplitSource := hdata.trans (ROA.attributes_eq_append ..)
  have hnoSource := hparsed.ne_of_first hclass herrors r.not_hasRefusedUrl _ sourceAttribute
    hsplitSource hextracted.singleField rfl hextracted.ne_of_before hsourceResult hgetSource
    (by decide)
  refine ⟨hscreen, ?_, hadded, fun a ha ↦ ⟨?_, hvalid a (by simp [ha])⟩⟩
  · have hvalue := (hparsed.single _ sourceAttribute _ source _ hsplitSource hextracted.singleField
      hextracted.ne_of_before hsourceResult).1 (fun b hb hsame ↦ absurd hsame (hnoSource b hb))
    have hstored := ParsedValue.text.inj (Option.some.inj (hgetSource.symm.trans hvalue))
    exact hextracted.source.mp hstored.symm
  · have hnotSource := hnoSource a ha
    rw [hextracted.name] at hnotSource
    rw [r.objectClass_routeClass]
    simp only [List.mem_cons, List.not_mem_nil, or_false, not_or]
    exact ⟨hnoClass a (by simp [ha]), hnoOrigin a (List.mem_cons_of_mem _ ha), hnotSource⟩

/-- The number of an AS that is accepted. -/
theorem asn_le_of_importRoaDict {filters : SlurmFilters} {d : RoaDict}
    (hr : importRoaDict ipy filters d = some (some r)) : r.asn ≤ 4294967295 := by
  unfold importRoaDict at hr
  obtain ⟨asn, hasn, hr⟩ := Option.bind_eq_some_iff.mp hr
  obtain ⟨ip, -, hr⟩ := Option.bind_eq_some_iff.mp hr
  obtain ⟨ta, -, hr⟩ := Option.bind_eq_some_iff.mp hr
  obtain ⟨value, -, hasn⟩ := Option.bind_eq_some_iff.mp hasn
  have hrange : asn ≤ 4294967295 := by
    cases value with
    | number n =>
      change (if 0 ≤ n ∧ n ≤ 4294967295 then some n.toNat else none) = some asn at hasn
      split at hasn
      · cases hasn
        omega
      · cases hasn
    | text value =>
      obtain ⟨parsed, hparsed, rfl⟩ := Option.map_eq_some_iff.mp hasn
      obtain ⟨n, hn, rfl⟩ := parseAsNumberText_eq_ok_iff.mp (toOption_eq_some_iff.mp hparsed)
      obtain ⟨m, hm, hle⟩ := hn.exists_nat
      omega
  split at hr
  · cases hr
  · obtain ⟨maxLength, -, hr⟩ := Option.bind_eq_some_iff.mp hr
    obtain ⟨roa, hroa, hr⟩ := Option.bind_eq_some_iff.mp hr
    cases hr
    unfold ROA.new at hroa
    obtain ⟨length, -, hroa⟩ := Option.bind_eq_some_iff.mp hroa
    split at hroa
    · cases hroa
    · cases hroa
      exact hrange

/-- The text of an imported ROA parses into the object that is stored exactly if its prefix is
neither a single address nor an IPv4-mapped network, and the lines that the name of its trust
anchor adds are harmless. -/
theorem parsesAsStored_iff {filters : SlurmFilters} {d : RoaDict}
    (hr : importRoaDict ipy filters d = some (some r))
    (hprints : PrintsNetwork env ipy r.ipPrefix) :
    ParsesAsStored env (r.rpslObject s v ipy (pseudoIrrRemarks setting))
        [r.objectClass, "origin", "source"] defaultSource ↔
      r.ipPrefix.prefixlen ≠ r.ipPrefix.bits ∧ isIpv4Mapped r.ipPrefix = false ∧
        HarmlessLines env r.routeClass r.furtherLines := by
  have hasn := asn_le_of_importRoaDict hr
  rw [← and_assoc, ← hprints.screen_iff]
  exact ⟨ROA.harmlessLines_of_parsesAsStored hprints hasn,
    fun ⟨hscreen, hharmless⟩ ↦ ROA.parsesAsStored hprints hasn hscreen hharmless⟩

end Main

section Examples

/-- What IPy does with IPv4 networks. -/
def dottedQuads : IPyFunctions where
  parse text := (parseDottedQuad text.toList 0).toOption
  str ip := String.ofList (strDottedQuad ip)
  inSet ip others := others.any (fun other ↦ other.contains ip)

/-- A record of a ROA for AS64500. -/
def exampleRoaDict (ipPrefix ta : String) : RoaDict :=
  ⟨some (.text "AS64500"), some ipPrefix, some (.number 32), some ta⟩

/-- The ROA of that record. -/
def exampleRoa (prefixlen : Nat) (ta : String) : ROA :=
  ⟨⟨4, 0xC0000200, prefixlen⟩, 64500, 32, ta⟩

/-- Remarks of two lines. -/
def exampleRemarks : RemarksSetting := ⟨"AS\x7basn\x7d\nhas a ROA\n", by decide +kernel⟩

/-- The address of that record. -/
theorem printsAddress_example (prefixlen : Nat) :
    PrintsAddress ⟨4, 0xC0000200, prefixlen⟩ "192.0.2.0".toList :=
  ⟨List.forall_iff_forall_mem.mp (by decide), by decide, fun _ ↦ by decide,
    fun h ↦ absurd (show 4 = 6 from h) (by decide)⟩

theorem printsNetwork_network :
    PrintsNetwork plainEnvironment dottedQuads ⟨4, 0xC0000200, 24⟩ :=
  ⟨.inl rfl, by decide, by decide, "192.0.2.0".toList, printsAddress_example 24,
    by decide⟩

theorem printsNetwork_hostPrefix :
    PrintsNetwork plainEnvironment dottedQuads ⟨4, 0xC0000200, 32⟩ :=
  ⟨.inl rfl, by decide, by decide, "192.0.2.0".toList, printsAddress_example 32,
    by decide⟩

/-- The text of a ROA for a network parses into what is stored. -/
theorem parsesAsStored_network : ParsesAsStored plainEnvironment
    ((exampleRoa 24 "ripe").rpslObject localSettings (.loadFilters ⟨[], []⟩) dottedQuads
      (pseudoIrrRemarks exampleRemarks)) ["route", "origin", "source"] none :=
  (parsesAsStored_iff (show importRoaDict dottedQuads ⟨[], [], []⟩
      (exampleRoaDict "192.0.2.0/24" "ripe") = some (some (exampleRoa 24 "ripe")) by decide +kernel)
    printsNetwork_network).mpr
      ⟨by decide, by decide, by
        have hlines : (exampleRoa 24 "ripe").furtherLines = [] := by decide +kernel
        rw [hlines]
        exact harmlessLines_nil _ _⟩

/-- The text of a ROA for a single address is not a valid object. -/
theorem not_parsesAsStored_hostPrefix :
    importRoaDict dottedQuads ⟨[], [], []⟩ (exampleRoaDict "192.0.2.0/32" "ripe") =
        some (some (exampleRoa 32 "ripe")) ∧
      PrintsNetwork plainEnvironment dottedQuads (exampleRoa 32 "ripe").ipPrefix ∧
      ¬ ParsesAsStored plainEnvironment
        ((exampleRoa 32 "ripe").rpslObject localSettings (.loadFilters ⟨[], []⟩) dottedQuads
          (pseudoIrrRemarks exampleRemarks)) ["route", "origin", "source"] none := by
  refine ⟨by decide +kernel, printsNetwork_hostPrefix, fun h ↦ ?_⟩
  have hscreen :=
    (ROA.harmlessLines_of_parsesAsStored printsNetwork_hostPrefix (by decide) h).1
  revert hscreen
  decide +kernel

end Examples

end Irrd.Rpki
