import Irrd.Rpsl.AttributeOutcomes
import Irrd.Utils.Networks

/-!
# Addresses of objects

The addresses that a parsed object covers come from its attributes one after the other. Fields for
prefixes give all addresses of a network, so objects of every class but inetnum cover a network or
no addresses, and an inetnum covers the range of a value. Source: `irrd/rpsl/parser.py`,
`irrd/rpsl/fields.py`.
-/

namespace Irrd.Rpsl

open Irrd.Base Irrd.Utils

/-- IPy gives networks. -/
def ReadsNetworks (env : Environment) : Prop :=
  ∀ text version ip, env.parseIp text version = .ok ip → ip.IsNetwork

/-- No addresses. -/
def Resources.HasNoAddresses (r : Resources) : Prop :=
  r.ipFirst = .none ∧ r.ipLast = .none ∧ r.ipPrefix = .none

/-- The same addresses. -/
def Resources.SameAddresses (r r' : Resources) : Prop :=
  r.ipFirst = r'.ipFirst ∧ r.ipLast = r'.ipLast ∧ r.ipPrefix = r'.ipPrefix

section Updates

variable {existing new : Resources}

theorem sameAddresses_update_of_none (hnew : new.HasNoAddresses) :
    (existing.update new).SameAddresses existing := by
  obtain ⟨hfirst, hlast, hpref⟩ := hnew
  simp only [Resources.SameAddresses, Resources.update, hfirst, hlast, hpref, Option.none_or,
    and_self]

/-- What holds of addresses that are read holds of those after later ones have replaced them. -/
theorem addresses_foldl_update {P : Option IP → Option IP → Option IP → Prop}
    {rs : List Resources}
    (hrs : ∀ r ∈ rs, r.HasNoAddresses ∨
      (r.ipFirst.isSome ∧ r.ipLast.isSome ∧ ∀ existing : Option IP,
        P r.ipFirst r.ipLast (r.ipPrefix.or existing)))
    (hexisting : P existing.ipFirst existing.ipLast existing.ipPrefix) :
    P (rs.foldl Resources.update existing).ipFirst (rs.foldl Resources.update existing).ipLast
      (rs.foldl Resources.update existing).ipPrefix := by
  induction rs generalizing existing with
  | nil => exact hexisting
  | cons r rs ih =>
    obtain ⟨hr, hrs⟩ := List.forall_mem_cons.mp hrs
    apply ih hrs
    rcases hr with hnone | ⟨hfirst, hlast, hsome⟩
    · have hsame : (existing.update r).SameAddresses existing := sameAddresses_update_of_none hnone
      obtain ⟨hfirst, hlast, hpref⟩ := hsame
      rw [hfirst, hlast, hpref]
      exact hexisting
    · obtain ⟨first, hfirst⟩ := Option.isSome_iff_exists.mp hfirst
      obtain ⟨last, hlast⟩ := Option.isSome_iff_exists.mp hlast
      have hupdated := hsome existing.ipPrefix
      rw [hfirst, hlast] at hupdated
      simpa only [Resources.update, hfirst, hlast, Option.some_or] using hupdated

end Updates

section Fields

variable {env : Environment} {value : List Char} {strictValidation : Bool}
  {r : RPSLFieldParseResult} {messages : RPSLParserMessages}

/-- Kinds of fields for a prefix. -/
def FieldKind.isPrefix : FieldKind → Bool
  | .ipv4Prefix | .ipv6Prefix => true
  | _ => false

/-- The addresses of a value: none, those of the network that IPy reads, or those of a range. -/
inductive GivesAddresses (env : Environment) (kind : FieldKind) (value : List Char)
    (r : RPSLFieldParseResult) : Prop
  | none (h : r.resources.HasNoAddresses)
  | network (hkind : kind.isPrefix) (version : Nat) (ip : IP)
      (hip : env.parseIp value version = .ok ip) (h : r.resources = networkResources ip)
  | range (hkind : kind = .ipv4AddressRange)
      (h : (ipv4AddressRangeFieldParse env value).1 = some r)

/-- The field for prefixes gives the addresses of the network that IPy reads. -/
theorem ipPrefixFieldParse_eq_some {ipVersion fullLength : Nat} {screen : List Char → Bool}
    (hr : (ipPrefixFieldParse env ipVersion fullLength screen value).1 = some r) :
    ∃ ip, env.parseIp value ipVersion = .ok ip ∧ r.resources = networkResources ip := by
  unfold ipPrefixFieldParse at hr
  split at hr
  · split at hr
    · cases hr
    · next ip hip =>
      cases hr
      exact ⟨ip, hip, rfl⟩
  · cases hr

/-- The two parts of a range, `irrd/rpsl/fields.py:227–231`. -/
def rangeParts (value : List Char) : List Char × List Char :=
  let value := value.filter (· ≠ ',')
  (splitOnce '-' value).getD (value, value)

/-- The text of a range of which IPy reads the parts. -/
def printedRange (env : Environment) (value : List Char) (ip1 ip2 : IP) : List Char :=
  if (splitOnce '-' (value.filter (· ≠ ','))).isSome then
    env.strIp ip1 ++ " - ".toList ++ env.strIp ip2
  else env.strIp ip1

/-- The field for ranges gives what IPy reads in the two parts. -/
theorem ipv4AddressRangeFieldParse_eq_some :
    (ipv4AddressRangeFieldParse env value).1 = some r ↔ ∃ ip1 ip2,
      env.parseIp (rangeParts value).1 0 = .ok ip1 ∧ env.parseIp (rangeParts value).2 0 = .ok ip2 ∧
        ip1.version = 4 ∧ ip2.version = 4 ∧ ip1.int ≤ ip2.int ∧
        r = ⟨printedRange env value ip1 ip2, [], ⟨some ip1, some ip2, none, none, none, none⟩⟩ := by
  unfold ipv4AddressRangeFieldParse rangeParts printedRange
  dsimp only
  cases hip1 : env.parseIp ((splitOnce '-' (value.filter (· ≠ ','))).getD
      (value.filter (· ≠ ','), value.filter (· ≠ ','))).1 0 with
  | error e => simp
  | ok ip1 =>
    cases hip2 : env.parseIp ((splitOnce '-' (value.filter (· ≠ ','))).getD
        (value.filter (· ≠ ','), value.filter (· ≠ ','))).2 0 with
    | error e => simp
    | ok ip2 =>
      dsimp only
      split
      · next hversion =>
        simp only [invalid_fst, reduceCtorEq, false_iff, Except.ok.injEq]
        rintro ⟨_, _, rfl, rfl, hfirst, hsecond, -⟩
        exact hversion ⟨hfirst.trans hsecond.symm, hsecond⟩
      · next hversion =>
        rw [not_not] at hversion
        split
        · next horder =>
          simp only [invalid_fst, reduceCtorEq, false_iff, Except.ok.injEq]
          rintro ⟨_, _, rfl, rfl, -, -, hle, -⟩
          omega
        · next horder =>
          simp only [parsed_fst, Option.some.injEq, Except.ok.injEq]
          constructor
          · rintro rfl
            exact ⟨ip1, ip2, rfl, rfl, hversion.1.trans hversion.2, hversion.2, by omega, rfl⟩
          · rintro ⟨_, _, rfl, rfl, -, -, -, rfl⟩
            rfl

/-- A list has no addresses. -/
theorem resources_listFieldParse {parseOne : List Char → Except ParserException FieldOutcome}
    (hr : listFieldParse parseOne value = .ok (some r, messages)) :
    r.resources.HasNoAddresses := by
  unfold listFieldParse at hr
  obtain ⟨outcomes, -, hrest⟩ := bind_eq_ok_iff.mp hr
  dsimp only at hrest
  split at hrest
  · cases hrest
  · cases hrest
    exact ⟨rfl, rfl, rfl⟩

/-- The addresses that the fields give that are no references. -/
theorem givesAddresses_parseDirect {kind : FieldKind}
    (hr : kind.parseDirect env value strictValidation = .ok (some r, messages)) :
    GivesAddresses env kind value r := by
  have hfst {o : FieldOutcome} (ho : (Except.ok o : Except ParserException FieldOutcome) =
      .ok (some r, messages)) : o.1 = some r := by
    cases ho
    rfl
  cases kind with
  | ipv4AddressRange => exact .range rfl (hfst hr)
  | ipv4Prefix =>
    obtain ⟨ip, hip, heq⟩ := ipPrefixFieldParse_eq_some (hfst hr)
    exact .network rfl 4 ip hip heq
  | ipv6Prefix =>
    obtain ⟨ip, hip, heq⟩ := ipPrefixFieldParse_eq_some (hfst hr)
    exact .network rfl 6 ip hip heq
  | ipv4Prefixes | ipv6Prefixes | routeSetMembers => exact .none (resources_listFieldParse hr)
  | referenceList referring allowKwAny strong => cases hr
  | reference referring => cases hr
  | url =>
    simp only [FieldKind.parseDirect, urlFieldParse] at hr
    split at hr
    · next outcome houtcome =>
      obtain ⟨⟨scheme, netloc⟩, -, rfl⟩ := Option.map_eq_some_iff.mp houtcome
      have h := hfst hr
      dsimp only at h
      split at h
      · cases h
        exact .none ⟨rfl, rfl, rfl⟩
      · cases h
    · cases hr
  | _ =>
    have h := hfst hr
    simp only [textFieldParse, asNumberFieldParse, asBlockFieldParse, parseSetName,
      emailFieldParse, changedFieldParse, dnsNameFieldParse, genericNameFieldParse,
      authFieldParse] at h
    repeat' split at h
    all_goals first
      | (cases h; exact .none ⟨rfl, rfl, rfl⟩)
      | cases h

/-- The objects that fields refer to are not identified by addresses. -/
theorem identifierField_of_referring_ne : ∀ c ∈ objectClasses, ∀ f ∈ c.fields,
    ∀ name ∈ f.kind.referring, ∀ g, identifierField name = some g →
      g.kind.isPrefix = false ∧ g.kind ≠ .ipv4AddressRange := by
  decide +kernel

theorem hasNoAddresses_referenceFieldParse {referring : List String}
    (hreferring : ∀ name ∈ referring, ∀ g, identifierField name = some g →
      g.kind.isPrefix = false ∧ g.kind ≠ .ipv4AddressRange) {messages' : RPSLParserMessages}
    (hr : referenceFieldParse env value strictValidation referring messages' =
      .ok (some r, messages)) : r.resources.HasNoAddresses := by
  induction referring generalizing messages' with
  | nil => cases hr
  | cons name referring ih =>
    obtain ⟨hname, hreferring⟩ := List.forall_mem_cons.mp hreferring
    simp only [referenceFieldParse] at hr
    split at hr
    · exact ih hreferring hr
    · next f hf =>
      obtain ⟨⟨result, fieldMessages⟩, ho, hrest⟩ := bind_eq_ok_iff.mp hr
      obtain ⟨hpref, hrange⟩ := hname f hf
      cases result with
      | some r' =>
        cases hrest
        cases givesAddresses_parseDirect ho with
        | none h => exact h
        | network hkind version ip hip h => exact absurd hkind (by simp [hpref])
        | range hkind h => exact absurd hkind hrange
      | none => exact ih hreferring hrest

/-- The addresses that the fields of a class give. -/
theorem givesAddresses_parse {c : RPSLObjectClass} (hc : c ∈ objectClasses) {f : RPSLField}
    (hf : f ∈ c.fields) (hr : f.kind.parse env value strictValidation = .ok (some r, messages)) :
    GivesAddresses env f.kind value r := by
  have hreferring := identifierField_of_referring_ne c hc f hf
  generalize f.kind = kind at hr hreferring
  cases kind with
  | reference referring => exact .none (hasNoAddresses_referenceFieldParse hreferring hr)
  | referenceList referring allowKwAny strong =>
    simp only [FieldKind.parse] at hr
    split at hr
    · cases hr
      exact .none ⟨rfl, rfl, rfl⟩
    · exact .none (resources_listFieldParse hr)
  | _ =>
    unfold FieldKind.parse at hr
    exact givesAddresses_parseDirect hr

end Fields

section Objects

variable {env : Environment} {text : List Char} {strictValidation : Bool}
  {defaultSource : Option (List Char)} {obj : ParsedObject}

theorem resources_clean (obj : ParsedObject) : (obj.clean env).resources = obj.resources := by
  simp only [ParsedObject.clean, ParsedObject.cleanMntner, ParsedObject.cleanKeyCert]
  repeat' split
  all_goals rfl

/-- The addresses of an object are those of its attributes, one after the other. -/
theorem resources_rpslObjectFromText
    (h : rpslObjectFromText env text strictValidation defaultSource = .ok obj) :
    obj.objectClass ∈ objectClasses ∧ ∃ data : List Attribute, obj.resources =
      (data.filterMap (attributeResources env obj.objectClass strictValidation)).foldl
        Resources.update .none := by
  unfold rpslObjectFromText at h
  dsimp only at h
  split at h
  · cases h
  · next c hc =>
    have hmem := mem_of_findClass hc
    have hclassKept := objectClass_validateObject hmem h
    obtain ⟨parsed, hparsed, rfl⟩ := validateObject_eq_ok h
    obtain ⟨hclass, hstrict, -, hresources⟩ :=
      countedObject_frame c text strictValidation defaultSource
    change (countedObject c text strictValidation defaultSource).objectData.foldlM _
      { countedObject c text strictValidation defaultSource with objectData := [] } = _ at hparsed
    have houtcome := foldlM_parseAttribute_outcome (by rwa [hclass])
      (by exact storedAsLists_countedObject c text strictValidation defaultSource) hparsed
    have hupdated := houtcome.resources
    dsimp only at hupdated
    rw [hclass, hstrict, hresources] at hupdated
    have hdefault : parsed.withDefaultSource.resources = parsed.resources := by
      unfold ParsedObject.withDefaultSource
      split <;> rfl
    have hclean : (parsed.withDefaultSource.cleanIfValid env).resources = parsed.resources := by
      unfold ParsedObject.cleanIfValid
      split
      · rw [resources_clean, hdefault]
      · exact hdefault
    rw [hclassKept, hclean]
    exact ⟨hmem, _, hupdated⟩

/-- An attribute with addresses has a field that gives them. -/
theorem givesAddresses_attributeResources {c : RPSLObjectClass} (hc : c ∈ objectClasses)
    {a : Attribute} {resources : Resources}
    (hr : attributeResources env c strictValidation a = some resources) :
    ∃ f ∈ c.fields, ∃ r : RPSLFieldParseResult, resources = r.resources ∧
      GivesAddresses env f.kind (normaliseRpslValue a.value) r := by
  cases hf : c.field? a.name with
  | none => simp [attributeResources, hf] at hr
  | some f =>
    have hfield := (mem_of_field? hf).1
    cases ho : f.kind.parse env (normaliseRpslValue a.value) strictValidation with
    | error e => simp [attributeResources, hf, ho] at hr
    | ok o =>
      obtain ⟨result, messages⟩ := o
      rw [attributeResources_eq hf ho] at hr
      cases result with
      | none => simp at hr
      | some r =>
        split at hr
        · cases hr
          exact ⟨f, hfield, r, rfl, givesAddresses_parse hc hfield ho⟩
        · cases hr

/-- Only the first field of inetnum is for ranges, and it has none for prefixes. -/
theorem kind_of_inetnum : ∀ c ∈ objectClasses, ∀ f ∈ c.fields,
    if c.rpslObjectClass = "inetnum" then f.kind.isPrefix = false
    else f.kind ≠ .ipv4AddressRange := by
  decide +kernel

/-- The addresses of a network, or none. -/
def Resources.IsOfNetwork (r : Resources) : Prop :=
  r.HasNoAddresses ∨ ∃ ip : IP, ip.IsNetwork ∧ r.ipFirst = some ip.net ∧
    r.ipLast = some ip.broadcast ∧ r.ipPrefix = some ip

/-- An object of a class other than inetnum has the addresses of a network, or none. -/
theorem isOfNetwork_rpslObjectFromText (henv : ReadsNetworks env)
    (h : rpslObjectFromText env text strictValidation defaultSource = .ok obj)
    (hclass : obj.rpslObjectClass ≠ "inetnum") : obj.resources.IsOfNetwork := by
  obtain ⟨hmem, data, hresources⟩ := resources_rpslObjectFromText h
  rw [hresources]
  apply addresses_foldl_update (P := fun first last ipPrefix ↦
    (first = none ∧ last = none ∧ ipPrefix = none) ∨ ∃ ip : IP, ip.IsNetwork ∧
      first = some ip.net ∧ last = some ip.broadcast ∧ ipPrefix = some ip)
  · intro resources hr
    obtain ⟨a, -, ha⟩ := List.mem_filterMap.mp hr
    obtain ⟨f, hf, r, rfl, hgives⟩ := givesAddresses_attributeResources hmem ha
    have hkind := kind_of_inetnum _ hmem f hf
    rw [if_neg (by exact hclass)] at hkind
    cases hgives with
    | none hnone => exact .inl hnone
    | network _ version ip hip heq =>
      rw [heq]
      exact .inr ⟨rfl, rfl, fun _ ↦ .inr ⟨ip, henv _ _ ip hip, rfl, rfl, rfl⟩⟩
    | range hrange => exact absurd hrange hkind
  · exact .inl ⟨rfl, rfl, rfl⟩

/-- The addresses of an inetnum are those of the range of a value, if it has any. -/
theorem range_rpslObjectFromText
    (h : rpslObjectFromText env text strictValidation defaultSource = .ok obj)
    (hclass : obj.rpslObjectClass = "inetnum") :
    (obj.resources.ipFirst = none ∧ obj.resources.ipLast = none) ∨
      ∃ value r, (ipv4AddressRangeFieldParse env value).1 = some r ∧
        obj.resources.ipFirst = r.resources.ipFirst ∧
        obj.resources.ipLast = r.resources.ipLast := by
  obtain ⟨hmem, data, hresources⟩ := resources_rpslObjectFromText h
  rw [hresources]
  apply addresses_foldl_update (P := fun first last _ ↦ (first = none ∧ last = none) ∨
    ∃ value r, (ipv4AddressRangeFieldParse env value).1 = some r ∧
      first = r.resources.ipFirst ∧ last = r.resources.ipLast)
  · intro resources hr
    obtain ⟨a, -, ha⟩ := List.mem_filterMap.mp hr
    obtain ⟨f, hf, r, rfl, hgives⟩ := givesAddresses_attributeResources hmem ha
    have hkind := kind_of_inetnum _ hmem f hf
    rw [if_pos (by exact hclass)] at hkind
    cases hgives with
    | none hnone => exact .inl hnone
    | network hpref => exact absurd hpref (by simp [hkind])
    | range _ hrange =>
      obtain ⟨ip1, ip2, -, -, -, -, -, heq⟩ := ipv4AddressRangeFieldParse_eq_some.mp hrange
      refine .inr ⟨?_, ?_, fun _ ↦ .inr ⟨_, r, hrange, rfl, rfl⟩⟩ <;> rw [heq] <;> rfl
  · exact .inl ⟨rfl, rfl⟩

end Objects

section Examples

/-- Networks in dotted quad notation. -/
theorem readsNetworks_plainEnvironment : ReadsNetworks plainEnvironment := by
  intro text version ip hip
  change parseDottedQuad text version = .ok ip at hip
  unfold parseDottedQuad at hip
  dsimp only at hip
  split at hip
  · split at hip
    · next h =>
      obtain ⟨ha, hb, hc, hd, hn, haligned, -⟩ := h
      cases hip
      refine ⟨.inl rfl, hn, Nat.dvd_of_mod_eq_zero haligned, ?_⟩
      change _ * 256 + _ < 2 ^ 32
      omega
    · cases hip
  · cases hip

end Examples

end Irrd.Rpsl
