import Irrd.Rpsl.AttributeBlocks
import Irrd.Rpsl.AttributeOutcomes

/-!
# Read objects

Which texts are objects without errors, by the attributes that are read of them, and what their
objects have under a name, by the attributes of that name. Source: `irrd/rpsl/parser.py`.
-/

namespace Irrd.Rpsl

open Irrd.Base Irrd.Utils

section Valid

variable {env : Environment} {c : RPSLObjectClass} {text : List Char}

/-- An attribute is parsed without exceptions and without errors that count. -/
def Accepted (env : Environment) (c : RPSLObjectClass) (a : Attribute) : Prop :=
  ¬ HasRefusedUrl env c a ∧ attributeErrors env c false a = []

/-- Attributes that are those of an object without errors. -/
structure ValidAttributes (env : Environment) (c : RPSLObjectClass) (attributes : List Attribute) :
    Prop where
  present : ∀ name ∈ c.pkFields ++ ["source"], name.toList ∈ attributes.map Attribute.name
  accepted : ∀ a ∈ attributes, Accepted env c a
  distinct : DistinctResources env c false attributes

/-- An object that has the attributes that it has to have is counted without errors. -/
theorem errors_validateAttributeCounts {obj : ParsedObject} (hstrict : obj.strictValidation = false)
    (hsource : obj.defaultSource = []) (hpresent : ∀ name ∈ obj.objectClass.pkFields ++ ["source"],
      name.toList ∈ obj.objectData.map Attribute.name) :
    RPSLParserMessages.errors obj.validateAttributeCounts = [] := by
  have hnone : (obj.objectClass.pkFields ++ ["source"]).filter
      (fun attr ↦ attr.toList ∉ obj.objectData.map Attribute.name) = [] := by
    apply List.filter_eq_nil_iff.mpr
    intro name hname
    simpa using hpresent name hname
  unfold ParsedObject.validateAttributeCounts
  dsimp only
  rw [hstrict, if_neg Bool.false_ne_true, if_pos hsource, hnone]
  rfl

/-- The attributes of a text are counted without errors where they are read and none is missing. -/
theorem errors_countedObject :
    (countedObject c text false none).errors = [] ↔
      ∃ attributes, readText c text = some attributes ∧
        ∀ name ∈ c.pkFields ++ ["source"], name.toList ∈ attributes.map Attribute.name := by
  constructor
  · intro h
    have hpresent := mem_of_countedObject h
    unfold countedObject ParsedObject.validateCounts at h hpresent
    split at h
    · next hextract =>
      rw [if_pos hextract] at hpresent
      exact ⟨_, readText_eq_some_iff.mpr ⟨hextract, rfl⟩, hpresent⟩
    · next hextract => exact absurd h hextract
  · rintro ⟨attributes, hread, hpresent⟩
    obtain ⟨hextract, rfl⟩ := readText_eq_some_iff.mp hread
    have hcounts : RPSLParserMessages.errors
        (extractObject c text false none).validateAttributeCounts = [] :=
      errors_validateAttributeCounts rfl rfl hpresent
    unfold countedObject ParsedObject.validateCounts
    rw [if_pos (show (extractObject c text false none).errors = [] from hextract)]
    change RPSLParserMessages.errors (_ ++ _) = []
    rw [errors_append, hcounts, List.append_nil]
    exact hextract

/-- The attributes of an object are those that are extracted from its text. -/
theorem objectData_countedObject :
    (countedObject c text false none).objectData = (extractAttributesValues c text).1 := by
  unfold countedObject ParsedObject.validateCounts
  split <;> rfl

/-- A text is an object without errors exactly where its attributes are read and valid. -/
theorem validateObject_valid_iff (hc : c ∈ objectClasses) :
    (∃ obj, validateObject env (extractObject c text false none) = .ok obj ∧ obj.errors = []) ↔
      ∃ attributes, readText c text = some attributes ∧ ValidAttributes env c attributes := by
  have hdata : (countedObject c text false none).objectData = (extractAttributesValues c text).1 :=
    objectData_countedObject
  have hexception : (∃ obj, validateObject env (extractObject c text false none) = .ok obj) ↔ _ :=
    validateObject_ok_iff hc text false none
  constructor
  · rintro ⟨obj, hobj, herrors⟩
    obtain ⟨hurls, hdistinct⟩ := hexception.mp ⟨obj, hobj⟩
    have hparsed := (textParsed_of_validateObject hc hobj).errors
    rw [herrors, eq_comm, List.append_eq_nil_iff, List.flatMap_eq_nil_iff, hdata] at hparsed
    obtain ⟨hcounted, hattributes⟩ := hparsed
    obtain ⟨attributes, hread, hpresent⟩ := errors_countedObject.mp hcounted
    have hextracted := (readText_eq_some_iff.mp hread).2
    rw [hdata, hextracted] at hurls hdistinct
    rw [hextracted] at hattributes
    exact ⟨attributes, hread, hpresent, fun a ha ↦ ⟨hurls a ha, hattributes a ha⟩,
      hdistinct hcounted⟩
  · rintro ⟨attributes, hread, hvalid⟩
    have hcounted := errors_countedObject.mpr ⟨attributes, hread, hvalid.present⟩
    have hextracted := (readText_eq_some_iff.mp hread).2
    rw [hextracted] at hdata
    obtain ⟨obj, hobj⟩ := hexception.mpr ⟨fun a ha ↦ (hvalid.accepted a (hdata ▸ ha)).1,
      fun _ ↦ by rw [hdata]; exact hvalid.distinct⟩
    refine ⟨obj, hobj, ?_⟩
    rw [(textParsed_of_validateObject hc hobj).errors, hcounted, hdata, List.nil_append]
    apply List.flatMap_eq_nil_iff.mpr
    exact fun a ha ↦ (hvalid.accepted a ha).2

/-- A text of a class is parsed without errors exactly where its attributes are read and valid. -/
theorem rpslObjectFromText_valid_iff (hc : findClass (strip (beforeFirst ':' text)) = some c) :
    (∃ obj, rpslObjectFromText env text false none = .ok obj ∧ obj.errors = []) ↔
      ∃ attributes, readText c text = some attributes ∧ ValidAttributes env c attributes := by
  rw [rpslObjectFromText_of_findClass hc]
  exact validateObject_valid_iff (mem_of_findClass hc)

end Valid

section Values

variable {env : Environment} {c : RPSLObjectClass} {text text' : List Char}
  {obj obj' : ParsedObject}

/-- The value under a name after a parsed value is stored. -/
def storedValue (f : RPSLField) (r : RPSLFieldParseResult) (existing : Option ParsedValue) :
    ParsedValue :=
  let added := if r.valuesList ≠ [] then r.valuesList.map f.stored else [f.stored r.value]
  if r.valuesList ≠ [] ∨ f.multiple then
    match existing with
    | some (.list values) => .list (values ++ added)
    | _ => .list added
  else if existing.isSome then .text ('\n' :: f.stored r.value)
  else .text (f.stored r.value)

theorem get_storeValue {f : RPSLField} {attr : List Char} {r : RPSLFieldParseResult}
    {d d' : ParsedData} (h : storeValue f attr r d = .ok d') :
    d'.get attr = some (storedValue f r (d.get attr)) := by
  have hset (v : ParsedValue) : (d.set attr v).get attr = some v := by
    rw [ParsedData.get_set, if_pos rfl]
  unfold storeValue at h
  unfold storedValue
  dsimp only at h ⊢
  split at h
  · next hvalues =>
    rw [if_pos hvalues, if_pos (Or.inl hvalues)]
    split at h
    · next hget =>
      rw [hget, ← Except.ok.inj h, hset]
      rfl
    · next hget =>
      rw [hget, ← Except.ok.inj h, hset]
      rfl
    · cases h
  · next hvalues =>
    rw [if_neg hvalues]
    split at h
    · next hmultiple =>
      rw [if_pos (Or.inr hmultiple)]
      split at h
      · next hget =>
        rw [hget, ← Except.ok.inj h, hset]
        rfl
      · next hget =>
        rw [hget, ← Except.ok.inj h, hset]
        rfl
      · cases h
    · next hmultiple =>
      rw [if_neg (not_or.mpr ⟨hvalues, hmultiple⟩)]
      split at h
      · next hget =>
        rw [hget, ← Except.ok.inj h, hset]
        rfl
      · next hget =>
        rw [hget, ← Except.ok.inj h, hset]
        rfl

/-- The value under the name of an attribute after it. -/
def valueAfter (env : Environment) (c : RPSLObjectClass) (existing : Option ParsedValue)
    (a : Attribute) : Option ParsedValue :=
  match c.field? a.name, attributeResult env c false a with
  | some f, some r => some (storedValue f r existing)
  | _, _ => existing

/-- The value under a name comes from the attributes of that name. -/
theorem get_foldlM_parseAttribute {allowInvalidMetadata : Bool} {data : List Attribute}
    (hc : obj.objectClass ∈ objectClasses) (hstrict : obj.strictValidation = false)
    (hd : StoredAsLists obj.objectClass obj.parsedData)
    (h : data.foldlM (parseAttribute env allowInvalidMetadata) obj = .ok obj') (name : List Char) :
    obj'.parsedData.get name = (data.filter (fun a ↦ a.name = name)).foldl
      (valueAfter env obj.objectClass) (obj.parsedData.get name) := by
  induction data generalizing obj with
  | nil =>
    cases h
    rfl
  | cons a data ih =>
    rw [List.foldlM_cons] at h
    obtain ⟨obj'', ha, hrest⟩ := bind_eq_ok_iff.mp h
    have hstep := (parseAttribute_spec env allowInvalidMetadata a hc hd).2 obj'' ha
    rw [ih (hstep.objectClass ▸ hc) (hstep.strictValidation.trans hstrict) hstep.stored hrest,
      hstep.objectClass]
    by_cases hname : a.name = name
    · rw [List.filter_cons, if_pos (decide_eq_true hname), List.foldl_cons]
      congr 1
      subst hname
      unfold valueAfter
      obtain ⟨-, ⟨hnone, hdata⟩ | ⟨f, r, hf, hr, hstore, -⟩⟩ := parseAttribute_outcome ha
      · rw [hstrict] at hnone
        rw [hnone, hdata]
        cases obj.objectClass.field? a.name <;> rfl
      · rw [hstrict] at hr
        rw [hf, hr, get_storeValue hstore]
    · rw [List.filter_cons, if_neg (by simpa using hname), get_parseAttribute_of_ne ha hname]

/-- What an object has under a name, by the attributes of its text. -/
theorem get_validateObject (hc : c ∈ objectClasses)
    (h : validateObject env (extractObject c text false none) = .ok obj) (name : List Char) :
    obj.parsedData.get name = ((extractAttributesValues c text).1.filter
      (fun a ↦ a.name = name)).foldl (valueAfter env c) none := by
  obtain ⟨hclass, hstrict, hdata, -⟩ := countedObject_frame c text false none
  obtain ⟨parsed, hparsed, rfl⟩ := validateObject_eq_ok h
  change (countedObject c text false none).objectData.foldlM _
    { countedObject c text false none with objectData := [] } = _ at hparsed
  have hmem : ({ countedObject c text false none with
      objectData := [] } : ParsedObject).objectClass ∈ objectClasses := by rwa [hclass]
  have hstored := storedAsLists_countedObject c text false none
  have hvalue := get_foldlM_parseAttribute hmem hstrict hstored hparsed name
  obtain ⟨-, hstrict', hsource, -⟩ := foldlM_parseAttribute_valid hmem hstored hparsed
  have hdefault : parsed.defaultSource = [] := by
    rw [hsource]
    unfold countedObject ParsedObject.validateCounts
    split <;> rfl
  have hkept : parsed.withDefaultSource = parsed := by
    unfold ParsedObject.withDefaultSource
    rw [if_neg (fun hnot ↦ hnot.2 hdefault)]
  have hclean : parsed.cleanIfValid env = parsed := by
    unfold ParsedObject.cleanIfValid
    rw [if_neg]
    intro hnot
    rw [hstrict'] at hnot
    exact Bool.false_ne_true (hstrict.symm.trans hnot.1)
  rw [hkept, hclean, hvalue]
  dsimp only
  rw [hdata, hclass, objectData_countedObject]
  rfl

/-- Objects of a class whose texts have the same attributes of a name have the same under it. -/
theorem get_eq_of_filter_eq (hc : c ∈ objectClasses)
    (h : validateObject env (extractObject c text false none) = .ok obj)
    (h' : validateObject env (extractObject c text' false none) = .ok obj') {name : List Char}
    (hsame : (extractAttributesValues c text).1.filter (fun a ↦ a.name = name) =
      (extractAttributesValues c text').1.filter (fun a ↦ a.name = name)) :
    obj.parsedData.get name = obj'.parsedData.get name := by
  rw [get_validateObject hc h, get_validateObject hc h', hsame]

end Values

section Identity

variable {env : Environment} {c : RPSLObjectClass} {text text' : List Char}
  {attributes attributes' : List Attribute} {a : Attribute}

/-- Attributes that identify an object: its primary key and its source. -/
def identifies (c : RPSLObjectClass) (a : Attribute) : Bool :=
  isWord (c.pkFields ++ ["source"]) a.name

/-- Fields that are keys, but no primary ones, are text, contacts or lists. -/
theorem kind_of_lookupKey : ∀ c ∈ objectClasses, ∀ f ∈ c.fields, f.isKey → f.primaryKey = false →
    f.kind = .text ∨ f.kind = .reference ["role", "person"] ∨ f.kind.isList := by
  decide

/-- Contacts, texts and lists have no resources. -/
theorem resources_parse_of_lookupKey {kind : FieldKind} {value : List Char}
    {r : RPSLFieldParseResult} {messages : RPSLParserMessages}
    (hkind : kind = .text ∨ kind = .reference ["role", "person"] ∨ kind.isList)
    (hr : kind.parse env value false = .ok (some r, messages)) :
    r.resources = .none := by
  have hlist {parseOne : List Char → Except ParserException FieldOutcome}
      (h : listFieldParse parseOne value = .ok (some r, messages)) : r.resources = .none := by
    unfold listFieldParse at h
    obtain ⟨outcomes, -, h⟩ := bind_eq_ok_iff.mp h
    dsimp only at h
    split at h
    · cases h
    · cases h
      rfl
  rcases hkind with rfl | rfl | hkind
  · cases hr
    rfl
  · have hname (name : String) (hname : name ∈ ["role", "person"]) :
        identifierField name = some nicHdl := by
      simp only [List.mem_cons, List.not_mem_nil, or_false] at hname
      rcases hname with rfl | rfl <;> rfl
    have hparse : nicHdl.kind.parseDirect env value false = .ok (unchanged value) := rfl
    simp only [FieldKind.parse, referenceFieldParse, hname "role" (by decide), hparse, bind,
      Except.bind] at hr
    cases hr
    rfl
  · cases kind with
    | ipv4Prefixes => exact hlist hr
    | ipv6Prefixes => exact hlist hr
    | routeSetMembers ipVersion => exact hlist hr
    | referenceList referring allowKwAny strong =>
      simp only [FieldKind.parse] at hr
      split at hr
      · cases hr
        rfl
      · exact hlist hr
    | _ => cases hkind

/-- Attributes that do not identify an object have no resources. -/
theorem attributeResources_of_not_identifies (hc : c ∈ objectClasses)
    (ha : identifies c a = false) : ∀ r ∈ attributeResources env c false a, r = .none := by
  intro r hr
  unfold attributeResources at hr
  split at hr
  · cases hr
  · next f hf =>
    obtain ⟨hfield, hname⟩ := mem_of_field? hf
    split at hr
    · next hkey =>
      split at hr
      · next result messages hparse =>
        cases hr
        have hprimary : f.primaryKey = false := by
          by_contra hnot
          rw [Bool.not_eq_false] at hnot
          refine Bool.false_ne_true (ha.symm.trans ?_)
          apply List.any_eq_true.mpr
          refine ⟨f.name, List.mem_append_left _ ?_, decide_eq_true hname⟩
          exact List.mem_map_of_mem (List.mem_filter.mpr ⟨hfield, hnot⟩)
        exact resources_parse_of_lookupKey (kind_of_lookupKey c hc f hfield hkey hprimary) hparse
      · cases hr
    · cases hr

/-- Resources do not conflict where those of the attributes that identify an object do not. -/
theorem distinctResources_iff_filter (hc : c ∈ objectClasses) :
    DistinctResources env c false attributes ↔
      DistinctResources env c false (attributes.filter (identifies c)) := by
  have hnone (existing : Resources) : (existing.conflict .none).isSome = false := by
    simp [Resources.conflict, Resources.none]
  unfold DistinctResources
  rw [List.pairwise_filter]
  refine ⟨fun h ↦ h.imp (fun hab _ _ ↦ hab), fun h ↦ h.imp (fun {a b} hab r hr r' hr' ↦ ?_)⟩
  by_cases ha : identifies c a = true
  · by_cases hb : identifies c b = true
    · exact hab ha hb r hr r' hr'
    · rw [attributeResources_of_not_identifies hc (Bool.not_eq_true _ ▸ hb) r' hr']
      exact hnone r
  · rw [attributeResources_of_not_identifies hc (Bool.not_eq_true _ ▸ ha) r hr]
    exact conflict_none r'

/-- Attributes are valid that are accepted, and of which those that identify an object are the same
as those of valid ones. -/
theorem ValidAttributes.of_identifies (hc : c ∈ objectClasses)
    (hvalid : ValidAttributes env c attributes)
    (hsame : attributes'.filter (identifies c) = attributes.filter (identifies c))
    (haccepted : ∀ a ∈ attributes', Accepted env c a) : ValidAttributes env c attributes' := by
  refine ⟨fun name hname ↦ ?_, haccepted, ?_⟩
  · obtain ⟨a, ha, haname⟩ := List.mem_map.mp (hvalid.present name hname)
    have hident : identifies c a = true :=
      List.any_eq_true.mpr ⟨name, hname, decide_eq_true haname.symm⟩
    have hmem := List.mem_filter.mpr ⟨ha, hident⟩
    rw [← hsame] at hmem
    exact List.mem_map.mpr ⟨a, List.mem_of_mem_filter hmem, haname⟩
  · rw [distinctResources_iff_filter hc, hsame, ← distinctResources_iff_filter hc]
    exact hvalid.distinct

/-- Objects of a class are the same where the attributes that identify them are. -/
theorem pk_source_eq_of_identifies {obj obj' : ParsedObject} (hc : c ∈ objectClasses)
    (h : validateObject env (extractObject c text false none) = .ok obj)
    (h' : validateObject env (extractObject c text' false none) = .ok obj')
    (hsame : (extractAttributesValues c text).1.filter (identifies c) =
      (extractAttributesValues c text').1.filter (identifies c)) :
    obj.objectClass = obj'.objectClass ∧ obj.pk = obj'.pk ∧ obj.source = obj'.source := by
  have hclass := (textParsed_of_validateObject hc h).objectClass
  have hclass' := (textParsed_of_validateObject hc h').objectClass
  have hvalue (name : String) (hname : name ∈ c.pkFields ++ ["source"]) :
      obj.parsedData.get name.toList = obj'.parsedData.get name.toList := by
    have hident (attributes : List Attribute) :
        attributes.filter (fun a ↦ a.name = name.toList) =
          (attributes.filter (identifies c)).filter (fun a ↦ a.name = name.toList) := by
      rw [List.filter_filter]
      apply List.filter_congr
      intro a _
      by_cases ha : a.name = name.toList
      · have hident : identifies c a = true :=
          List.any_eq_true.mpr ⟨name, hname, decide_eq_true ha.symm⟩
        simp [ha, hident]
      · simp [ha]
    apply get_eq_of_filter_eq hc h h'
    rw [hident, hsame, ← hident]
  refine ⟨hclass.trans hclass'.symm, ?_, ?_⟩
  · unfold ParsedObject.pk
    rw [hclass, hclass']
    congr 2
    apply List.map_congr_left
    intro name hname
    unfold ParsedObject.textOf
    rw [hvalue name (List.mem_append_left _ hname)]
  · unfold ParsedObject.source
    rw [hvalue "source" (List.mem_append_right _ (List.mem_singleton_self _))]

end Identity

end Irrd.Rpsl
