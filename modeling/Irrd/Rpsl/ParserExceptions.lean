import Mathlib.Data.List.Basic
import Irrd.Base.Fallible
import Irrd.Rpsl.Parser

/-!
# Exceptions of the parser

When parsing an object raises an exception: each attribute is one step, so the exceptions of
a step are traced to the attributes before it.
-/

namespace Irrd.Rpsl

open Irrd.Base Irrd.Utils

section Tables

/-- Kinds of fields whose values are lists. -/
def FieldKind.isList : FieldKind → Bool
  | .ipv4Prefixes | .ipv6Prefixes | .routeSetMembers _ | .referenceList .. => true
  | _ => false

/-- Every field of a class with a list of values may occur more than once. -/
theorem multiple_of_isList : ∀ c ∈ objectClasses, ∀ f ∈ c.fields, f.kind.isList → f.multiple := by
  decide

/-- A field that identifies objects holds a single value. -/
theorem not_isList_of_key : ∀ c ∈ objectClasses, ∀ f ∈ c.fields, f.primaryKey → f.lookupKey →
    f.kind.isList = false := by
  decide

/-- A field that identifies objects is no URL. -/
theorem ne_url_of_key : ∀ c ∈ objectClasses, ∀ f ∈ c.fields, f.primaryKey → f.lookupKey →
    f.kind ≠ .url := by
  decide

/-- The field that identifies objects is one of the fields of a class. -/
theorem mem_of_identifierField {name : String} {f : RPSLField}
    (hf : identifierField name = some f) :
    ∃ c ∈ objectClasses, f ∈ c.fields ∧ f.primaryKey ∧ f.lookupKey := by
  unfold identifierField at hf
  obtain ⟨fields, hfields, hfind⟩ := Option.bind_eq_some_iff.mp hf
  obtain ⟨c, hc, rfl⟩ := Option.map_eq_some_iff.mp hfields
  have hkey := List.find?_some hfind
  simp only [Bool.and_eq_true] at hkey
  exact ⟨c, List.mem_of_find?_eq_some hc, List.mem_of_find?_eq_some hfind, hkey⟩

/-- The field of an attribute is a field of the class, under the name of the attribute. -/
theorem mem_of_field? {c : RPSLObjectClass} {attr : List Char} {f : RPSLField}
    (hf : c.field? attr = some f) : f ∈ c.fields ∧ f.name.toList = attr :=
  ⟨List.mem_of_find?_eq_some hf, by simpa using List.find?_some hf⟩

end Tables

section Fields

@[simp] theorem invalid_fst (message : String) : (invalid message).1 = none := rfl

@[simp] theorem unchanged_fst (value : List Char) :
    (unchanged value).1 = some ⟨value, [], .none⟩ := rfl

@[simp] theorem parsed_fst (value : List Char) (resources : Resources) (reformatted : Bool)
    (message : String) :
    (parsed value resources reformatted message).1 = some ⟨value, [], resources⟩ := rfl

variable (env : Environment)

/-- Parsing a list raises no exception where parsing its elements does not. -/
theorem listFieldParse_ok {parseOne : List Char → Except ParserException FieldOutcome}
    (hone : ∀ v, ∃ o, parseOne v = .ok o) (value : List Char) :
    ∃ o, listFieldParse parseOne value = .ok o := by
  have hall (vs : List (List Char)) : ∃ outcomes, vs.mapM parseOne = .ok outcomes :=
    exists_mapM_eq_ok_iff.mpr (fun v _ ↦ hone v)
  obtain ⟨outcomes, houtcomes⟩ := hall (((value.splitOn ',').map strip).filter (· ≠ []))
  simp only [listFieldParse, houtcomes, bind, Except.bind]
  split
  · exact ⟨_, rfl⟩
  · exact ⟨_, rfl⟩

/-- A field that is no reference raises an exception exactly for a URL that is refused. -/
theorem parseDirect_ok_iff (kind : FieldKind) (value : List Char) (strictValidation : Bool) :
    (∃ o, kind.parseDirect env value strictValidation = .ok o) ↔
      ¬ (kind = .url ∧ urlparse env value = none) := by
  cases kind with
  | url =>
    simp only [FieldKind.parseDirect, urlFieldParse, true_and]
    cases urlparse env value <;> simp
  | ipv4Prefixes => exact iff_of_true (listFieldParse_ok (fun v ↦ ⟨_, rfl⟩) value) (by simp)
  | ipv6Prefixes => exact iff_of_true (listFieldParse_ok (fun v ↦ ⟨_, rfl⟩) value) (by simp)
  | routeSetMembers ipVersion =>
    exact iff_of_true (listFieldParse_ok (fun v ↦ ⟨_, rfl⟩) value) (by simp)
  | _ => simp [FieldKind.parseDirect]

/-- A reference raises no exception. -/
theorem referenceFieldParse_ok (value : List Char) (strictValidation : Bool)
    (referring : List String) (messages : RPSLParserMessages) :
    ∃ o, referenceFieldParse env value strictValidation referring messages = .ok o := by
  induction referring generalizing messages with
  | nil => exact ⟨_, rfl⟩
  | cons name referring ih =>
    simp only [referenceFieldParse]
    split
    · exact ih messages
    · next f hf =>
      obtain ⟨c, hc, hfc, hprimary, hlookup⟩ := mem_of_identifierField hf
      have hurl := ne_url_of_key c hc f hfc hprimary hlookup
      obtain ⟨⟨result, fieldMessages⟩, ho⟩ :=
        (parseDirect_ok_iff env f.kind value strictValidation).mpr (fun h ↦ hurl h.1)
      rw [ho]
      cases result with
      | some r => exact ⟨_, rfl⟩
      | none => exact ih _

/-- Parsing a value raises an exception exactly for a URL that is refused. -/
theorem parse_ok_iff (kind : FieldKind) (value : List Char) (strictValidation : Bool) :
    (∃ o, kind.parse env value strictValidation = .ok o) ↔
      ¬ (kind = .url ∧ urlparse env value = none) := by
  cases kind with
  | reference referring =>
    exact iff_of_true (referenceFieldParse_ok env value strictValidation referring []) (by simp)
  | referenceList referring allowKwAny strong =>
    simp only [FieldKind.parse, reduceCtorEq, false_and, not_false_iff, iff_true]
    split
    · exact ⟨_, rfl⟩
    · exact listFieldParse_ok (fun v ↦ referenceFieldParse_ok env v strictValidation referring [])
        value
  | _ =>
    unfold FieldKind.parse
    exact parseDirect_ok_iff env _ value strictValidation

/-- A set name is a single value. -/
theorem valuesList_parseSetName {prefixes : List String} {value : List Char}
    {strictValidation : Bool} {r : RPSLFieldParseResult}
    (hr : (parseSetName prefixes value strictValidation).1 = some r) : r.valuesList = [] := by
  simp only [parseSetName] at hr
  split at hr
  · cases hr
  · split at hr
    · cases hr
    · split at hr
      · cases hr
      · cases hr
        rfl

/-- What a field that holds no list parses is a single value. -/
theorem valuesList_parseDirect {kind : FieldKind} (hkind : kind.isList = false)
    {value : List Char} {strictValidation : Bool} {r : RPSLFieldParseResult}
    {messages : RPSLParserMessages}
    (hr : kind.parseDirect env value strictValidation = .ok (some r, messages)) :
    r.valuesList = [] := by
  have hfst {o : FieldOutcome} (ho : (Except.ok o : Except ParserException FieldOutcome) =
      .ok (some r, messages)) : o.1 = some r := by
    cases ho
    rfl
  cases kind with
  | ipv4Prefixes => cases hkind
  | ipv6Prefixes => cases hkind
  | routeSetMembers ipVersion => cases hkind
  | referenceList referring allowKwAny strong => cases hkind
  | reference referring => cases hr
  | url =>
    simp only [FieldKind.parseDirect, urlFieldParse] at hr
    split at hr
    · next outcome houtcome =>
      obtain ⟨⟨scheme, netloc⟩, -, rfl⟩ := Option.map_eq_some_iff.mp houtcome
      have h := hfst hr
      dsimp only at h
      split at h
      · cases h
        rfl
      · cases h
    · cases hr
  | setName setPrefix => exact valuesList_parseSetName (hfst hr)
  | text =>
    cases hfst hr
    rfl
  | _ =>
    have h := hfst hr
    simp only [ipv4PrefixFieldParse, ipv6PrefixFieldParse, ipPrefixFieldParse,
      ipv4AddressRangeFieldParse, asNumberFieldParse, asBlockFieldParse, emailFieldParse,
      changedFieldParse, dnsNameFieldParse, genericNameFieldParse, authFieldParse] at h
    repeat' split at h
    all_goals first
      | (cases h; rfl)
      | cases h

/-- A reference is a single value. -/
theorem valuesList_referenceFieldParse {value : List Char} {strictValidation : Bool}
    {referring : List String} {messages messages' : RPSLParserMessages}
    {r : RPSLFieldParseResult}
    (hr : referenceFieldParse env value strictValidation referring messages =
      .ok (some r, messages')) : r.valuesList = [] := by
  induction referring generalizing messages with
  | nil => cases hr
  | cons name referring ih =>
    simp only [referenceFieldParse] at hr
    split at hr
    · exact ih hr
    · next f hf =>
      obtain ⟨c, hc, hfc, hprimary, hlookup⟩ := mem_of_identifierField hf
      obtain ⟨⟨result, fieldMessages⟩, ho, hrest⟩ := bind_eq_ok_iff.mp hr
      cases result with
      | some r' =>
        cases hrest
        exact valuesList_parseDirect env (not_isList_of_key c hc f hfc hprimary hlookup) ho
      | none => exact ih hrest

/-- Parsing a value of a field that holds no list gives a single value. -/
theorem valuesList_parse {kind : FieldKind} (hkind : kind.isList = false) {value : List Char}
    {strictValidation : Bool} {r : RPSLFieldParseResult} {messages : RPSLParserMessages}
    (hr : kind.parse env value strictValidation = .ok (some r, messages)) :
    r.valuesList = [] := by
  cases kind with
  | reference referring => exact valuesList_referenceFieldParse env hr
  | referenceList referring allowKwAny strong => cases hkind
  | _ =>
    unfold FieldKind.parse at hr
    exact valuesList_parseDirect env hkind hr

end Fields

section Data

variable {d : ParsedData} {key key' : List Char} {v : ParsedValue}

/-- What is under a key after a value is set. -/
theorem ParsedData.get_set (d : ParsedData) (key key' : List Char) (v : ParsedValue) :
    (d.set key v).get key' = if key' = key then some v else d.get key' := by
  have hmap (d : ParsedData) :
      ParsedData.get (d.map (fun e ↦ if e.1 = key then (key, v) else e)) key' =
      if key' = key then (d.get key').map (fun _ ↦ v) else d.get key' := by
    unfold ParsedData.get
    induction d with
    | nil => simp
    | cons e d ih =>
      obtain ⟨k, w⟩ := e
      by_cases hk : k = key
      · subst hk
        by_cases hkey : key' = k
        · subst hkey
          simp
        · have hne : (key' == k) = false := beq_eq_false_iff_ne.mpr hkey
          simp only [List.map_cons, if_true, List.lookup_cons, hne, ih, hkey, if_false]
      · by_cases hkey : key' = k
        · subst hkey
          simp [hk]
        · have hne : (key' == k) = false := beq_eq_false_iff_ne.mpr hkey
          simp only [List.map_cons, hk, if_false, List.lookup_cons, hne, ih]
  unfold ParsedData.set
  split
  · next hsome =>
    rw [hmap]
    split
    · next hkey =>
      subst hkey
      obtain ⟨w, hw⟩ := Option.isSome_iff_exists.mp hsome
      simp [hw]
    · rfl
  · next hnone =>
    unfold ParsedData.get at hnone ⊢
    rw [List.lookup_append]
    by_cases hkey : key' = key
    · subst hkey
      simp only [Option.not_isSome_iff_eq_none] at hnone
      simp [hnone]
    · have hne : (key' == key) = false := beq_eq_false_iff_ne.mpr hkey
      simp [List.lookup_cons, hne, hkey]

/-- Attributes that may occur more than once are stored as lists. -/
def StoredAsLists (c : RPSLObjectClass) (d : ParsedData) : Prop :=
  ∀ attr f, c.field? attr = some f → f.multiple → ∀ v, d.get attr = some v → ∃ l, v = .list l

/-- Storing a value succeeds, and keeps lists. -/
theorem storeValue_ok {c : RPSLObjectClass} (hc : c ∈ objectClasses) {f : RPSLField}
    {attr : List Char} (hf : c.field? attr = some f) {r : RPSLFieldParseResult}
    (hr : f.kind.isList = false → r.valuesList = []) (hd : StoredAsLists c d) :
    ∃ d', storeValue f attr r d = .ok d' ∧ StoredAsLists c d' := by
  have hset (v : ParsedValue) (hv : f.multiple → ∃ l, v = .list l) :
      StoredAsLists c (d.set attr v) := by
    intro attr' f' hf' hmultiple v' hv'
    rw [ParsedData.get_set] at hv'
    split at hv'
    · next hattr =>
      subst hattr
      cases hf.symm.trans hf'
      cases hv'
      exact hv hmultiple
    · exact hd attr' f' hf' hmultiple v' hv'
  have hlist (hmultiple : f.multiple) (text : List Char) : d.get attr ≠ some (.text text) := by
    intro htext
    obtain ⟨l, hl⟩ := hd attr f hf hmultiple _ htext
    cases hl
  simp only [storeValue]
  split
  · next hvalues =>
    have hmultiple : f.multiple :=
      multiple_of_isList c hc f (mem_of_field? hf).1
        ((Bool.eq_false_or_eq_true _).resolve_right (fun hfalse ↦ hvalues (hr hfalse)))
    split
    · exact ⟨_, rfl, hset _ (fun _ ↦ ⟨_, rfl⟩)⟩
    · exact ⟨_, rfl, hset _ (fun _ ↦ ⟨_, rfl⟩)⟩
    · next htext => exact absurd htext (hlist hmultiple _)
  · split
    · next hmultiple =>
      split
      · exact ⟨_, rfl, hset _ (fun _ ↦ ⟨_, rfl⟩)⟩
      · exact ⟨_, rfl, hset _ (fun _ ↦ ⟨_, rfl⟩)⟩
      · next htext => exact absurd htext (hlist hmultiple _)
    · next hmultiple =>
      split
      · exact ⟨_, rfl, hset _ (fun h ↦ absurd h hmultiple)⟩
      · exact ⟨_, rfl, hset _ (fun h ↦ absurd h hmultiple)⟩

end Data

section Resources

variable {existing new : Resources}

/-- Where resources conflict. -/
theorem conflict_isSome_iff : (existing.conflict new).isSome ↔
    (existing.ipFirst.isSome ∧ new.ipFirst.isSome) ∨ (existing.ipLast.isSome ∧ new.ipLast.isSome) ∨
      (existing.asnFirst.any (· ≠ 0) ∧ new.asnFirst.isSome) ∨
      (existing.asnLast.any (· ≠ 0) ∧ new.asnLast.isSome) ∨
      (existing.ipPrefix.isSome ∧ new.ipPrefix.isSome) ∨
      (existing.prefixLength.any (· ≠ 0) ∧ new.prefixLength.isSome) := by
  unfold Resources.conflict
  split_ifs <;> simp_all

/-- No resources conflict with later ones. -/
theorem conflict_none (later : Resources) : (Resources.none.conflict later).isSome = false := by
  simp [← Bool.not_eq_true, conflict_isSome_iff, Resources.none]

/-- Resources that did not conflict are both kept. -/
theorem conflict_update_isSome_iff (h : (existing.conflict new).isSome = false)
    (later : Resources) :
    ((existing.update new).conflict later).isSome ↔
      (existing.conflict later).isSome ∨ (new.conflict later).isSome := by
  have hset {A : Type} {e n : Option A} : (n.or e).isSome ↔ e.isSome ∨ n.isSome := by
    cases n <;> cases e <;> simp
  have hnonzero {e n : Option Nat} (hnone : ¬ (e.any (· ≠ 0) ∧ n.isSome)) :
      (n.or e).any (· ≠ 0) ↔ e.any (· ≠ 0) ∨ n.any (· ≠ 0) := by
    cases n <;> cases e <;> simp_all
  rw [← Bool.not_eq_true, conflict_isSome_iff] at h
  simp only [not_or] at h
  obtain ⟨-, -, hasnFirst, hasnLast, -, hlength⟩ := h
  rw [conflict_isSome_iff, conflict_isSome_iff, conflict_isSome_iff]
  unfold Resources.update
  dsimp only
  rw [hset, hset, hset, hnonzero hasnFirst, hnonzero hasnLast, hnonzero hlength]
  simp only [or_and_right]
  exact iff_of_eq (by ac_rfl)

end Resources

section Steps

variable (env : Environment)

/-- The value of an attribute is a URL that `urlparse` refuses. -/
def HasRefusedUrl (c : RPSLObjectClass) (a : Attribute) : Prop :=
  ∃ f, c.field? a.name = some f ∧ f.kind = .url ∧ urlparse env (normaliseRpslValue a.value) = none

/-- The resources that an attribute gives for the object. -/
def attributeResources (c : RPSLObjectClass) (strictValidation : Bool) (a : Attribute) :
    Option Resources :=
  match c.field? a.name with
  | none => none
  | some f =>
    if f.isKey then
      match f.kind.parse env (normaliseRpslValue a.value) strictValidation with
      | .ok (some r, _) => some r.resources
      | _ => none
    else none

/-- No attribute gives resources that an earlier one has given. -/
def DistinctResources (c : RPSLObjectClass) (strictValidation : Bool) (data : List Attribute) :
    Prop :=
  data.Pairwise (fun a b ↦ ∀ r ∈ attributeResources env c strictValidation a,
    ∀ r' ∈ attributeResources env c strictValidation b, (r.conflict r').isSome = false)

variable {env} {allowInvalidMetadata : Bool} {obj obj' : ParsedObject} {a : Attribute}

/-- What an attribute that is parsed changes and what it leaves. -/
structure AttributeParsed (env : Environment) (obj : ParsedObject) (a : Attribute)
    (obj' : ParsedObject) : Prop where
  objectClass : obj'.objectClass = obj.objectClass
  strictValidation : obj'.strictValidation = obj.strictValidation
  defaultSource : obj'.defaultSource = obj.defaultSource
  stored : StoredAsLists obj'.objectClass obj'.parsedData
  resources : obj'.resources =
    (attributeResources env obj.objectClass obj.strictValidation a).elim obj.resources
      obj.resources.update

/-- Updating the resources of an object succeeds where they do not conflict. -/
theorem updateResources_ok_iff {f : RPSLField} {r : RPSLFieldParseResult} {existing : Resources} :
    (∃ resources, updateResources f allowInvalidMetadata existing r = .ok resources) ↔
      (allowInvalidMetadata = false → f.isKey →
        (existing.conflict r.resources).isSome = false) := by
  unfold updateResources
  split
  · next hkey =>
    cases hconflict : existing.conflict r.resources with
    | none => simp
    | some attr => cases allowInvalidMetadata <;> simp [hkey]
  · next hkey => simp [hkey]

theorem updateResources_eq_ok {f : RPSLField} {r : RPSLFieldParseResult}
    {existing resources : Resources}
    (h : updateResources f allowInvalidMetadata existing r = .ok resources) :
    resources = if f.isKey then existing.update r.resources else existing := by
  unfold updateResources at h
  split at h
  · next hkey =>
    rw [if_pos hkey]
    split at h
    · split at h
      · exact (Except.ok.inj h).symm
      · cases h
    · exact (Except.ok.inj h).symm
  · next hkey =>
    rw [if_neg hkey]
    exact (Except.ok.inj h).symm

/-- The messages after those of a field. -/
def ParsedObject.messagesWith (obj : ParsedObject) (f : RPSLField)
    (fieldMessages : RPSLParserMessages) : RPSLParserMessages :=
  if f.raisesErrors obj.strictValidation then obj.messages ++ fieldMessages else obj.messages

/-- An attribute without a field is kept as it is. -/
theorem parseAttribute_of_no_field (hf : obj.objectClass.field? a.name = none) :
    parseAttribute env allowInvalidMetadata obj a =
      .ok { obj with objectData := obj.objectData ++ [a] } := by
  unfold parseAttribute
  rw [hf]

/-- An attribute whose value is not parsed is kept as it is. -/
theorem parseAttribute_of_none {f : RPSLField} {fieldMessages : RPSLParserMessages}
    (hf : obj.objectClass.field? a.name = some f)
    (ho : f.kind.parse env (normaliseRpslValue a.value) obj.strictValidation =
      .ok (none, fieldMessages)) :
    parseAttribute env allowInvalidMetadata obj a = .ok { obj with
      messages := obj.messagesWith f fieldMessages
      objectData := obj.objectData ++ [a] } := by
  simp only [parseAttribute, hf, ho, bind, Except.bind]
  rfl

/-- The value of a parsed attribute is replaced and stored. -/
theorem parseAttribute_of_some {f : RPSLField} {r : RPSLFieldParseResult}
    {fieldMessages : RPSLParserMessages} {parsedData : ParsedData}
    (hf : obj.objectClass.field? a.name = some f)
    (ho : f.kind.parse env (normaliseRpslValue a.value) obj.strictValidation =
      .ok (some r, fieldMessages))
    (hstore : storeValue f a.name r obj.parsedData = .ok parsedData) :
    parseAttribute env allowInvalidMetadata obj a =
      (updateResources f allowInvalidMetadata obj.resources r).map (fun resources ↦ { obj with
        messages := obj.messagesWith f fieldMessages
        objectData := obj.objectData ++ [{ a with value := replacedValue a.value r }]
        parsedData
        resources }) := by
  simp only [parseAttribute, hf, ho, hstore, bind, Except.bind]
  cases updateResources f allowInvalidMetadata obj.resources r <;> rfl

/-- An attribute whose value raises an exception. -/
theorem parseAttribute_of_error {f : RPSLField} {e : ParserException}
    (hf : obj.objectClass.field? a.name = some f)
    (ho : f.kind.parse env (normaliseRpslValue a.value) obj.strictValidation = .error e) :
    parseAttribute env allowInvalidMetadata obj a = .error e := by
  simp only [parseAttribute, hf, ho, bind, Except.bind]

/-- What the four cases of an attribute are. -/
theorem hasRefusedUrl_iff {c : RPSLObjectClass} {f : RPSLField} (hf : c.field? a.name = some f) :
    HasRefusedUrl env c a ↔
      f.kind = .url ∧ urlparse env (normaliseRpslValue a.value) = none := by
  constructor
  · rintro ⟨f', hf', h⟩
    cases hf.symm.trans hf'
    exact h
  · exact fun h ↦ ⟨f, hf, h⟩

/-- The resources of an attribute whose value is parsed. -/
theorem attributeResources_eq {c : RPSLObjectClass} {f : RPSLField} {strictValidation : Bool}
    {o : FieldOutcome} (hf : c.field? a.name = some f)
    (ho : f.kind.parse env (normaliseRpslValue a.value) strictValidation = .ok o) :
    attributeResources env c strictValidation a =
      if f.isKey then o.1.map RPSLFieldParseResult.resources else none := by
  obtain ⟨result, messages⟩ := o
  simp only [attributeResources, hf, ho]
  cases result <;> rfl

/-- Parsing an attribute, from an object whose data is stored properly. -/
theorem parseAttribute_spec (env : Environment) (allowInvalidMetadata : Bool) (a : Attribute)
    (hc : obj.objectClass ∈ objectClasses)
    (hd : StoredAsLists obj.objectClass obj.parsedData) :
    ((∃ obj', parseAttribute env allowInvalidMetadata obj a = .ok obj') ↔
      ¬ HasRefusedUrl env obj.objectClass a ∧ (allowInvalidMetadata = false →
        ∀ r ∈ attributeResources env obj.objectClass obj.strictValidation a,
          (obj.resources.conflict r).isSome = false)) ∧
    ∀ obj', parseAttribute env allowInvalidMetadata obj a = .ok obj' →
      AttributeParsed env obj a obj' := by
  cases hf : obj.objectClass.field? a.name with
  | none =>
    have hres : attributeResources env obj.objectClass obj.strictValidation a = none := by
      simp only [attributeResources, hf]
    have hurl : ¬ HasRefusedUrl env obj.objectClass a := by
      rintro ⟨f, hf', -⟩
      cases hf.symm.trans hf'
    rw [parseAttribute_of_no_field hf, hres]
    refine ⟨iff_of_true ⟨_, rfl⟩ ⟨hurl, by simp⟩, fun obj' h ↦ ?_⟩
    cases h
    exact ⟨rfl, rfl, rfl, hd, by rw [hres]; rfl⟩
  | some f =>
    have hparse := parse_ok_iff env f.kind (normaliseRpslValue a.value) obj.strictValidation
    rw [← hasRefusedUrl_iff hf] at hparse
    cases ho : f.kind.parse env (normaliseRpslValue a.value) obj.strictValidation with
    | error e =>
      have hrefused : HasRefusedUrl env obj.objectClass a := by
        by_contra hnot
        obtain ⟨o, ho'⟩ := hparse.mpr hnot
        cases ho.symm.trans ho'
      rw [parseAttribute_of_error hf ho]
      refine ⟨iff_of_false ?_ (fun h ↦ h.1 hrefused), ?_⟩
      · rintro ⟨obj', h⟩
        cases h
      · intro obj' h
        cases h
    | ok o =>
      have hurl := hparse.mp ⟨o, ho⟩
      have hres := attributeResources_eq hf ho
      obtain ⟨result, fieldMessages⟩ := o
      cases result with
      | none =>
        have hnone : attributeResources env obj.objectClass obj.strictValidation a = none := by
          simpa using hres
        rw [parseAttribute_of_none hf ho, hnone]
        refine ⟨iff_of_true ⟨_, rfl⟩ ⟨hurl, by simp⟩, fun obj' h ↦ ?_⟩
        cases h
        exact ⟨rfl, rfl, rfl, hd, by rw [hnone]; rfl⟩
      | some r =>
        obtain ⟨parsedData, hstore, hstored⟩ :=
          storeValue_ok hc hf (fun hlist ↦ valuesList_parse env hlist ho) hd
        rw [parseAttribute_of_some hf ho hstore, hres]
        constructor
        · have hupdate : (∃ resources, updateResources f allowInvalidMetadata obj.resources r =
              .ok resources) ↔ (allowInvalidMetadata = false → f.isKey →
                (obj.resources.conflict r.resources).isSome = false) := updateResources_ok_iff
          have hmap : (∃ obj', (updateResources f allowInvalidMetadata obj.resources r).map
              (fun resources ↦ ({ obj with
                messages := obj.messagesWith f fieldMessages
                objectData := obj.objectData ++ [{ a with value := replacedValue a.value r }]
                parsedData
                resources } : ParsedObject)) = .ok obj') ↔
              ∃ resources, updateResources f allowInvalidMetadata obj.resources r =
                .ok resources := by
            cases updateResources f allowInvalidMetadata obj.resources r <;> simp [Except.map]
          rw [hmap, hupdate]
          cases f.isKey <;> simp [hurl]
        · intro obj' h
          cases hupdate : updateResources f allowInvalidMetadata obj.resources r with
          | error e =>
            rw [hupdate] at h
            cases h
          | ok resources =>
            rw [hupdate] at h
            cases h
            refine ⟨rfl, rfl, rfl, hstored, ?_⟩
            rw [hres]
            rw [updateResources_eq_ok hupdate]
            cases f.isKey <;> rfl

/-- The exceptions that an attribute can raise. -/
def ParserException.IsAttributeException (e : ParserException) : Prop :=
  (∃ value, e = .invalidUrl value) ∨ ∃ value attr, e = .alreadySet value attr

/-- The exception of a refused URL. -/
theorem parse_eq_error {kind : FieldKind} {value : List Char} {strictValidation : Bool}
    {e : ParserException} (he : kind.parse env value strictValidation = .error e) :
    e = .invalidUrl value := by
  have hnot : ¬ ∃ o, kind.parse env value strictValidation = .ok o := by
    rintro ⟨o, ho⟩
    cases he.symm.trans ho
  rw [parse_ok_iff, not_not] at hnot
  obtain ⟨rfl, hurl⟩ := hnot
  simp only [FieldKind.parse, FieldKind.parseDirect, urlFieldParse, hurl, Option.map_none] at he
  cases he
  rfl

/-- An attribute raises an exception for its URL or its resources, and for nothing else. -/
theorem parseAttribute_eq_error {e : ParserException} (hc : obj.objectClass ∈ objectClasses)
    (hd : StoredAsLists obj.objectClass obj.parsedData)
    (he : parseAttribute env allowInvalidMetadata obj a = .error e) : e.IsAttributeException := by
  cases hf : obj.objectClass.field? a.name with
  | none =>
    rw [parseAttribute_of_no_field hf] at he
    cases he
  | some f =>
    cases ho : f.kind.parse env (normaliseRpslValue a.value) obj.strictValidation with
    | error e' =>
      rw [parseAttribute_of_error hf ho] at he
      cases he
      exact .inl ⟨_, parse_eq_error ho⟩
    | ok o =>
      obtain ⟨result, fieldMessages⟩ := o
      cases result with
      | none =>
        rw [parseAttribute_of_none hf ho] at he
        cases he
      | some r =>
        obtain ⟨parsedData, hstore, -⟩ :=
          storeValue_ok hc hf (fun hlist ↦ valuesList_parse env hlist ho) hd
        rw [parseAttribute_of_some hf ho hstore] at he
        unfold updateResources at he
        split at he
        · split at he
          · split at he
            · cases he
            · cases he
              exact .inr ⟨_, _, rfl⟩
          · cases he
        · cases he

end Steps

section Objects

variable {env : Environment}

/-- Parsing attributes one after the other, from an object whose data is stored properly. -/
theorem foldlM_parseAttribute_ok_iff (env : Environment) (allowInvalidMetadata : Bool)
    (data : List Attribute) (obj : ParsedObject) (hc : obj.objectClass ∈ objectClasses)
    (hd : StoredAsLists obj.objectClass obj.parsedData) :
    (∃ obj', data.foldlM (parseAttribute env allowInvalidMetadata) obj = .ok obj') ↔
      (∀ a ∈ data, ¬ HasRefusedUrl env obj.objectClass a) ∧ (allowInvalidMetadata = false →
        (∀ a ∈ data, ∀ r ∈ attributeResources env obj.objectClass obj.strictValidation a,
          (obj.resources.conflict r).isSome = false) ∧
        DistinctResources env obj.objectClass obj.strictValidation data) := by
  induction data generalizing obj with
  | nil =>
    refine iff_of_true ⟨obj, rfl⟩ ⟨by simp, fun _ ↦ ⟨by simp, List.Pairwise.nil⟩⟩
  | cons a data ih =>
    obtain ⟨hstep, hparsed⟩ := parseAttribute_spec env allowInvalidMetadata a hc hd
    simp only [List.foldlM_cons, bind_eq_ok_iff]
    constructor
    · rintro ⟨obj'', obj', ha, hrest⟩
      obtain ⟨hurl, hconflict⟩ := hstep.mp ⟨obj', ha⟩
      obtain ⟨hclass, hstrict, -, hstored, hresources⟩ := hparsed obj' ha
      have hrec := (ih obj' (hclass ▸ hc) hstored).mp ⟨obj'', hrest⟩
      rw [hclass, hstrict] at hrec
      obtain ⟨hurls, hrest⟩ := hrec
      refine ⟨List.forall_mem_cons.mpr ⟨hurl, hurls⟩, fun hallow ↦ ?_⟩
      obtain ⟨hlater, hdistinct⟩ := hrest hallow
      have hsplit : ∀ b ∈ data, ∀ r ∈ attributeResources env obj.objectClass
          obj.strictValidation b, (obj.resources.conflict r).isSome = false ∧
            ∀ r' ∈ attributeResources env obj.objectClass obj.strictValidation a,
              (r'.conflict r).isSome = false := by
        intro b hb r hr
        have hnone := hlater b hb r hr
        rw [hresources] at hnone
        cases hres : attributeResources env obj.objectClass obj.strictValidation a with
        | none =>
          rw [hres] at hnone
          exact ⟨hnone, by simp⟩
        | some r' =>
          rw [hres] at hnone
          have hkept := conflict_update_isSome_iff (hconflict hallow r' hres) r
          rw [← Bool.not_eq_true] at hnone
          have hboth := not_or.mp (fun h ↦ hnone (hkept.mpr h))
          refine ⟨Bool.not_eq_true _ ▸ hboth.1, fun r'' hr'' ↦ ?_⟩
          cases hr''
          exact Bool.not_eq_true _ ▸ hboth.2
      exact ⟨List.forall_mem_cons.mpr ⟨hconflict hallow, fun b hb r hr ↦ (hsplit b hb r hr).1⟩,
        List.pairwise_cons.mpr ⟨fun b hb r hr r' hr' ↦ (hsplit b hb r' hr').2 r hr, hdistinct⟩⟩
    · rintro ⟨hurls, hrest⟩
      obtain ⟨hurl, hurls⟩ := List.forall_mem_cons.mp hurls
      obtain ⟨obj', ha⟩ := hstep.mpr ⟨hurl, fun hallow ↦ (hrest hallow).1 a List.mem_cons_self⟩
      obtain ⟨hclass, hstrict, -, hstored, hresources⟩ := hparsed obj' ha
      have hrec := ih obj' (hclass ▸ hc) hstored
      rw [hclass, hstrict] at hrec
      obtain ⟨obj'', hobj⟩ := hrec.mpr ⟨hurls, fun hallow ↦ by
        obtain ⟨hconflict, hdistinct⟩ := hrest hallow
        obtain ⟨hfirst, hdistinct⟩ := List.pairwise_cons.mp hdistinct
        refine ⟨fun b hb r hr ↦ ?_, hdistinct⟩
        have hnone := hconflict b (List.mem_cons_of_mem _ hb) r hr
        rw [hresources]
        cases hres : attributeResources env obj.objectClass obj.strictValidation a with
        | none => exact hnone
        | some r' =>
          have hkept := conflict_update_isSome_iff
            (hconflict a List.mem_cons_self r' hres) r
          rw [← Bool.not_eq_true]
          intro hsome
          rcases hkept.mp hsome with h | h
          · rw [hnone] at h
            cases h
          · rw [hfirst b hb r' hres r hr] at h
            cases h⟩
      exact ⟨obj'', obj', ha, hobj⟩

/-- Attributes raise exceptions for their URLs or their resources, and for nothing else. -/
theorem foldlM_parseAttribute_eq_error {allowInvalidMetadata : Bool} {data : List Attribute}
    {obj : ParsedObject} {e : ParserException} (hc : obj.objectClass ∈ objectClasses)
    (hd : StoredAsLists obj.objectClass obj.parsedData)
    (he : data.foldlM (parseAttribute env allowInvalidMetadata) obj = .error e) :
    e.IsAttributeException := by
  induction data generalizing obj with
  | nil => cases he
  | cons a data ih =>
    rw [List.foldlM_cons] at he
    cases ha : parseAttribute env allowInvalidMetadata obj a with
    | error e' =>
      rw [ha] at he
      cases he
      exact parseAttribute_eq_error hc hd ha
    | ok obj' =>
      rw [ha] at he
      obtain ⟨hclass, -, -, hstored, -⟩ :=
        (parseAttribute_spec env allowInvalidMetadata a hc hd).2 obj' ha
      exact ih (hclass ▸ hc) hstored he

/-- The object before its attributes are parsed: its structural errors decide whether conflicting
resources are permitted. -/
def countedObject (c : RPSLObjectClass) (text : List Char) (strictValidation : Bool)
    (defaultSource : Option (List Char)) : ParsedObject :=
  (extractObject c text strictValidation defaultSource).validateCounts

/-- No attribute of a text has a URL that `urlparse` refuses, and in a text without structural
errors no attribute gives resources that an earlier one has given. -/
def ParsesWithoutException (env : Environment) (c : RPSLObjectClass) (text : List Char)
    (strictValidation : Bool) (defaultSource : Option (List Char)) : Prop :=
  let obj := countedObject c text strictValidation defaultSource
  (∀ a ∈ obj.objectData, ¬ HasRefusedUrl env c a) ∧
    (obj.errors = [] → DistinctResources env c strictValidation obj.objectData)

/-- The class of a name is one of the classes. -/
theorem mem_of_findClass {name : List Char} {c : RPSLObjectClass} (hc : findClass name = some c) :
    c ∈ objectClasses := List.mem_of_find?_eq_some hc

theorem countedObject_frame (c : RPSLObjectClass) (text : List Char) (strictValidation : Bool)
    (defaultSource : Option (List Char)) :
    (countedObject c text strictValidation defaultSource).objectClass = c ∧
      (countedObject c text strictValidation defaultSource).strictValidation = strictValidation ∧
      (countedObject c text strictValidation defaultSource).parsedData = [] ∧
      (countedObject c text strictValidation defaultSource).resources = .none := by
  unfold countedObject ParsedObject.validateCounts
  split <;> exact ⟨rfl, rfl, rfl, rfl⟩

/-- Validating the object of a text raises no exception exactly under this condition. -/
theorem validateObject_ok_iff {c : RPSLObjectClass} (hc : c ∈ objectClasses) (text : List Char)
    (strictValidation : Bool) (defaultSource : Option (List Char)) :
    (∃ obj, validateObject env (extractObject c text strictValidation defaultSource) = .ok obj) ↔
      ParsesWithoutException env c text strictValidation defaultSource := by
  obtain ⟨hclass, hstrict, hdata, hresources⟩ :=
    countedObject_frame c text strictValidation defaultSource
  have hfold := foldlM_parseAttribute_ok_iff env
    (decide ((countedObject c text strictValidation defaultSource).errors ≠ []))
    (countedObject c text strictValidation defaultSource).objectData
    { countedObject c text strictValidation defaultSource with objectData := [] }
    (by rwa [hclass]) (by
      dsimp only
      rw [hdata]
      intro attr f _ _ v hv
      cases hv)
  have hmap {x : Except ParserException ParsedObject} {g : ParsedObject → ParsedObject} :
      (∃ obj, x.map g = .ok obj) ↔ ∃ obj, x = .ok obj := by
    cases x <;> simp [Except.map]
  unfold validateObject parseAttributeData
  rw [hmap, hmap]
  refine hfold.trans ?_
  unfold ParsesWithoutException
  dsimp only
  rw [hclass, hstrict, hresources]
  refine and_congr_right (fun _ ↦ ?_)
  simp [conflict_none]

/-- Validating an object raises exceptions for URLs and resources only. -/
theorem validateObject_eq_error {c : RPSLObjectClass} (hc : c ∈ objectClasses) {text : List Char}
    {strictValidation : Bool} {defaultSource : Option (List Char)} {e : ParserException}
    (he : validateObject env (extractObject c text strictValidation defaultSource) = .error e) :
    e.IsAttributeException := by
  obtain ⟨hclass, -, hdata, -⟩ := countedObject_frame c text strictValidation defaultSource
  have hmap {x : Except ParserException ParsedObject} {g : ParsedObject → ParsedObject}
      (h : x.map g = .error e) : x = .error e := by
    cases x with
    | ok obj => cases h
    | error e' => exact h
  unfold validateObject parseAttributeData at he
  have hfold := hmap (hmap he)
  refine foldlM_parseAttribute_eq_error ?_ ?_ hfold
  · change (countedObject c text strictValidation defaultSource).objectClass ∈ objectClasses
    rwa [hclass]
  · change StoredAsLists _ (countedObject c text strictValidation defaultSource).parsedData
    rw [hdata]
    intro attr f _ _ v hv
    cases hv

/-- A text gives an object, or its class is unknown. -/
def IsHandled (env : Environment) (text : List Char) (strictValidation : Bool)
    (defaultSource : Option (List Char)) : Prop :=
  (∃ obj, rpslObjectFromText env text strictValidation defaultSource = .ok obj) ∨
    ∃ name, rpslObjectFromText env text strictValidation defaultSource =
      .error (.unknownRPSLObjectClass name)

/-- The text of an object of a known class. -/
theorem rpslObjectFromText_of_findClass {c : RPSLObjectClass} {text : List Char}
    (hc : findClass (strip (beforeFirst ':' text)) = some c) (strictValidation : Bool)
    (defaultSource : Option (List Char)) :
    rpslObjectFromText env text strictValidation defaultSource =
      validateObject env (extractObject c text strictValidation defaultSource) := by
  simp only [rpslObjectFromText, hc]

/-- A text is handled exactly if its class is unknown or it parses without exceptions. -/
theorem isHandled_iff (env : Environment) (text : List Char) (strictValidation : Bool)
    (defaultSource : Option (List Char)) :
    IsHandled env text strictValidation defaultSource ↔
      ∀ c, findClass (strip (beforeFirst ':' text)) = some c →
        ParsesWithoutException env c text strictValidation defaultSource := by
  unfold IsHandled
  cases hc : findClass (strip (beforeFirst ':' text)) with
  | none =>
    refine iff_of_true (.inr ⟨strip (beforeFirst ':' text), ?_⟩) (by simp)
    simp only [rpslObjectFromText, hc]
  | some c =>
    have hmem := mem_of_findClass hc
    rw [rpslObjectFromText_of_findClass hc, validateObject_ok_iff hmem]
    have hnot : ¬ ∃ name, validateObject env (extractObject c text strictValidation defaultSource) =
        .error (.unknownRPSLObjectClass name) := by
      rintro ⟨name, hname⟩
      rcases validateObject_eq_error hmem hname with ⟨value, h⟩ | ⟨value, attr, h⟩
      · cases h
      · cases h
    simp [hnot]

end Objects

section Examples

/-- `IPy.IP` of an IPv4 network in dotted quad notation. -/
def parseDottedQuad (text : List Char) (version : Nat) : Except String IP :=
  let (address, length) := (splitOnce '/' text).getD (text, "32".toList)
  match (address.splitOn '.').map (digitsValue 0 false), digitsValue 0 false length with
  | [some a, some b, some c, some d], some n =>
    let int := ((a * 256 + b) * 256 + c) * 256 + d
    if a < 256 ∧ b < 256 ∧ c < 256 ∧ d < 256 ∧ n ≤ 32 ∧ int % 2 ^ (32 - n) = 0 ∧ version ≠ 6 then
      .ok ⟨4, int, n⟩
    else .error "invalid network"
  | _, _ => .error "invalid network"

/-- `str` of an IPv4 network. -/
def strDottedQuad (ip : IP) : List Char :=
  joinWith '.' ([24, 16, 8, 0].map (fun n ↦ (toString (ip.int / 2 ^ n % 256)).toList)) ++
    (if ip.prefixlen = 32 then [] else '/' :: (toString ip.prefixlen).toList)

/-- An environment for texts in ASCII without keys, with IPv4 networks. -/
def plainEnvironment : Environment where
  parseIp := parseDottedQuad
  strIp := strDottedQuad
  isprintable c := 32 ≤ c.toNat ∧ c.toNat < 127
  nfkc text := text
  bracketedHost _ := true
  importKeys _ := ([], [])
  uids _ := []
  passwordHashers _ := .enabled

end Examples

end Irrd.Rpsl
