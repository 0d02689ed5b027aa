import Irrd.Rpsl.ValidObjects

/-!
# Outcomes of attributes

What the attributes of an object leave in it: their errors, their resources, and the value under a
name. A second value under a name for a single one begins with a newline. Source:
`irrd/rpsl/parser.py`.
-/

namespace Irrd.Rpsl

open Irrd.Base Irrd.Utils

section Outcomes

variable (env : Environment) (c : RPSLObjectClass) (strictValidation : Bool) (a : Attribute)

/-- What an attribute parses to, if it has a field and its value is parsed. -/
def attributeResult : Option RPSLFieldParseResult :=
  match c.field? a.name with
  | none => none
  | some f =>
    match f.kind.parse env (normaliseRpslValue a.value) strictValidation with
    | .ok (result, _) => result
    | .error _ => none

/-- The errors of an attribute that count. -/
def attributeErrors : List String :=
  match c.field? a.name with
  | none => []
  | some f =>
    match f.kind.parse env (normaliseRpslValue a.value) strictValidation with
    | .ok (_, messages) => if f.raisesErrors strictValidation then messages.errors else []
    | .error _ => []

variable {env c strictValidation a}

theorem attributeResult_eq {f : RPSLField} {o : FieldOutcome} (hf : c.field? a.name = some f)
    (ho : f.kind.parse env (normaliseRpslValue a.value) strictValidation = .ok o) :
    attributeResult env c strictValidation a = o.1 := by
  obtain ⟨result, messages⟩ := o
  simp only [attributeResult, hf, ho]

theorem attributeErrors_eq {f : RPSLField} {o : FieldOutcome} (hf : c.field? a.name = some f)
    (ho : f.kind.parse env (normaliseRpslValue a.value) strictValidation = .ok o) :
    attributeErrors env c strictValidation a =
      if f.raisesErrors strictValidation then RPSLParserMessages.errors o.2 else [] := by
  obtain ⟨result, messages⟩ := o
  simp only [attributeErrors, hf, ho]

/-- Attributes whose errors do not count have none. -/
theorem attributeErrors_of_not_raises
    (hraises : ∀ f, c.field? a.name = some f → f.raisesErrors strictValidation = false) :
    attributeErrors env c strictValidation a = [] := by
  unfold attributeErrors
  split
  · rfl
  · next f hf =>
    split
    · rw [hraises f hf]
      rfl
    · rfl

/-- The resources of an attribute are those of what it parses to. -/
theorem attributeResources_eq_map (hkey : ∀ f, c.field? a.name = some f → f.isKey) :
    attributeResources env c strictValidation a =
      (attributeResult env c strictValidation a).map RPSLFieldParseResult.resources := by
  cases hf : c.field? a.name with
  | none => simp only [attributeResources, attributeResult, hf, Option.map_none]
  | some f =>
    cases ho : f.kind.parse env (normaliseRpslValue a.value) strictValidation with
    | error e => simp only [attributeResources, attributeResult, hf, ho, ite_self, Option.map_none]
    | ok o => rw [attributeResources_eq hf ho, if_pos (hkey f hf), attributeResult_eq hf ho]

/-- An attribute that is not parsed although its errors count has an error, or raises an
exception. -/
theorem exists_attributeResult (hc : c ∈ objectClasses) {f : RPSLField}
    (hf : c.field? a.name = some f) (hraises : f.raisesErrors strictValidation)
    (hurl : ¬ HasRefusedUrl env c a) (herrors : attributeErrors env c strictValidation a = []) :
    ∃ r, attributeResult env c strictValidation a = some r := by
  rw [hasRefusedUrl_iff hf] at hurl
  obtain ⟨o, ho⟩ :=
    (parse_ok_iff env f.kind (normaliseRpslValue a.value) strictValidation).mpr hurl
  rw [attributeErrors_eq hf ho, if_pos hraises] at herrors
  rw [attributeResult_eq hf ho]
  cases hresult : o.1 with
  | some r => exact ⟨r, rfl⟩
  | none => exact absurd herrors (failsWithError_parse env hc (mem_of_field? hf).1 ho hresult)

end Outcomes

section Single

variable {f : RPSLField} {attr : List Char} {r : RPSLFieldParseResult} {d d' : ParsedData}

/-- The value of a single field, with the case that it is stored in. -/
def RPSLField.stored (f : RPSLField) (value : List Char) : List Char :=
  if f.kind.keepCase then value else upperText value

/-- A single value is stored as a text, which begins with a newline if it is not the first. -/
theorem storeValue_single (hmultiple : f.multiple = false) (hvalues : r.valuesList = []) :
    storeValue f attr r d = .ok (d.set attr (.text
      (if (d.get attr).isSome then '\n' :: f.stored r.value else f.stored r.value))) := by
  unfold storeValue
  dsimp only
  rw [if_neg (by simp [hvalues]), if_neg (by simp [hmultiple])]
  cases d.get attr <;> rfl

end Single

section Steps

variable {env : Environment} {allowInvalidMetadata : Bool} {obj obj' : ParsedObject}
  {a : Attribute}

/-- The errors of an attribute come after those before it, and its value is stored if it has
one. -/
theorem parseAttribute_outcome (h : parseAttribute env allowInvalidMetadata obj a = .ok obj') :
    obj'.errors = obj.errors ++ attributeErrors env obj.objectClass obj.strictValidation a ∧
      ((attributeResult env obj.objectClass obj.strictValidation a = none ∧
          obj'.parsedData = obj.parsedData) ∨
        ∃ f r, obj.objectClass.field? a.name = some f ∧
          attributeResult env obj.objectClass obj.strictValidation a = some r ∧
          storeValue f a.name r obj.parsedData = .ok obj'.parsedData ∧
          ∃ messages, f.kind.parse env (normaliseRpslValue a.value) obj.strictValidation =
            .ok (some r, messages)) := by
  cases hf : obj.objectClass.field? a.name with
  | none =>
    rw [parseAttribute_of_no_field hf] at h
    cases h
    have herrors : attributeErrors env obj.objectClass obj.strictValidation a = [] := by
      simp only [attributeErrors, hf]
    have hresult : attributeResult env obj.objectClass obj.strictValidation a = none := by
      simp only [attributeResult, hf]
    exact ⟨by rw [herrors, List.append_nil]; rfl, .inl ⟨hresult, rfl⟩⟩
  | some f =>
    have hmessages (messages : RPSLParserMessages) (o : FieldOutcome) (hmessages : o.2 = messages)
        (ho : f.kind.parse env (normaliseRpslValue a.value) obj.strictValidation = .ok o) :
        RPSLParserMessages.errors (obj.messagesWith f messages) =
          obj.errors ++ attributeErrors env obj.objectClass obj.strictValidation a := by
      rw [attributeErrors_eq hf ho, hmessages]
      unfold ParsedObject.messagesWith
      split
      · rw [errors_append]
        rfl
      · rw [List.append_nil]
        rfl
    cases ho : f.kind.parse env (normaliseRpslValue a.value) obj.strictValidation with
    | error e =>
      rw [parseAttribute_of_error hf ho] at h
      cases h
    | ok o =>
      obtain ⟨result, fieldMessages⟩ := o
      have hresult := attributeResult_eq hf ho
      cases result with
      | none =>
        rw [parseAttribute_of_none hf ho] at h
        cases h
        exact ⟨hmessages _ _ rfl ho, .inl ⟨hresult, rfl⟩⟩
      | some r =>
        cases hstore : storeValue f a.name r obj.parsedData with
        | error e =>
          simp only [parseAttribute, hf, ho, hstore, bind, Except.bind] at h
          cases h
        | ok parsedData =>
          rw [parseAttribute_of_some hf ho hstore] at h
          cases hupdate : updateResources f allowInvalidMetadata obj.resources r with
          | error e =>
            rw [hupdate] at h
            cases h
          | ok resources =>
            rw [hupdate] at h
            cases h
            exact ⟨hmessages _ _ rfl ho, .inr ⟨f, r, rfl, hresult, hstore, fieldMessages, ho⟩⟩

/-- An attribute leaves the values under other names. -/
theorem get_parseAttribute_of_ne (h : parseAttribute env allowInvalidMetadata obj a = .ok obj')
    {name : List Char} (hname : a.name ≠ name) :
    obj'.parsedData.get name = obj.parsedData.get name := by
  obtain ⟨-, ⟨-, hdata⟩ | ⟨f, r, -, -, hstore, -⟩⟩ := parseAttribute_outcome h
  · rw [hdata]
  · obtain ⟨v, hv⟩ := storeValue_eq_ok hstore
    rw [hv, ParsedData.get_set, if_neg hname.symm]

/-- The attributes of an object that is parsed one after the other. -/
structure AttributesParsed (env : Environment) (obj : ParsedObject) (data : List Attribute)
    (obj' : ParsedObject) : Prop where
  objectClass : obj'.objectClass = obj.objectClass
  strictValidation : obj'.strictValidation = obj.strictValidation
  stored : StoredAsLists obj'.objectClass obj'.parsedData
  errors : obj'.errors = obj.errors ++
    data.flatMap (attributeErrors env obj.objectClass obj.strictValidation)
  resources : obj'.resources =
    (data.filterMap (attributeResources env obj.objectClass obj.strictValidation)).foldl
      Resources.update obj.resources

theorem foldlM_parseAttribute_outcome {data : List Attribute}
    (hc : obj.objectClass ∈ objectClasses) (hd : StoredAsLists obj.objectClass obj.parsedData)
    (h : data.foldlM (parseAttribute env allowInvalidMetadata) obj = .ok obj') :
    AttributesParsed env obj data obj' := by
  induction data generalizing obj with
  | nil =>
    cases h
    exact ⟨rfl, rfl, hd, by simp, rfl⟩
  | cons a data ih =>
    rw [List.foldlM_cons] at h
    obtain ⟨obj'', ha, hrest⟩ := bind_eq_ok_iff.mp h
    have hstep := (parseAttribute_spec env allowInvalidMetadata a hc hd).2 obj'' ha
    have hparsed := ih (hstep.objectClass ▸ hc) hstep.stored hrest
    refine ⟨hparsed.objectClass.trans hstep.objectClass,
      hparsed.strictValidation.trans hstep.strictValidation, hparsed.stored, ?_, ?_⟩
    · rw [hparsed.errors, (parseAttribute_outcome ha).1, hstep.objectClass, hstep.strictValidation,
        List.flatMap_cons, List.append_assoc]
    · rw [hparsed.resources, hstep.resources, hstep.objectClass, hstep.strictValidation,
        List.filterMap_cons]
      cases attributeResources env obj.objectClass obj.strictValidation a <;> rfl

/-- Attributes that are not parsed leave the value under their name. -/
theorem get_foldlM_of_unparsed {data : List Attribute} {name : List Char}
    (hc : obj.objectClass ∈ objectClasses) (hd : StoredAsLists obj.objectClass obj.parsedData)
    (h : data.foldlM (parseAttribute env allowInvalidMetadata) obj = .ok obj')
    (hname : ∀ a ∈ data, a.name = name →
      attributeResult env obj.objectClass obj.strictValidation a = none) :
    obj'.parsedData.get name = obj.parsedData.get name := by
  induction data generalizing obj with
  | nil =>
    cases h
    rfl
  | cons a data ih =>
    rw [List.foldlM_cons] at h
    obtain ⟨obj'', ha, hrest⟩ := bind_eq_ok_iff.mp h
    have hstep := (parseAttribute_spec env allowInvalidMetadata a hc hd).2 obj'' ha
    obtain ⟨hfirst, hothers⟩ := List.forall_mem_cons.mp hname
    rw [ih (hstep.objectClass ▸ hc) hstep.stored hrest
      (by rw [hstep.objectClass, hstep.strictValidation]; exact hothers)]
    by_cases hsame : a.name = name
    · obtain ⟨-, ⟨-, hdata⟩ | ⟨f, r, -, hr, -⟩⟩ := parseAttribute_outcome ha
      · rw [hdata]
      · cases (hfirst hsame).symm.trans hr
    · exact get_parseAttribute_of_ne ha hsame

/-- A field whose value is a single text. -/
structure SingleField (c : RPSLObjectClass) (name : List Char) (f : RPSLField) : Prop where
  field : c.field? name = some f
  multiple : f.multiple = false
  isList : f.kind.isList = false

/-- A single value is stored under its name. -/
theorem get_parseAttribute_single {f : RPSLField} {r : RPSLFieldParseResult}
    (hf : SingleField obj.objectClass a.name f)
    (h : parseAttribute env allowInvalidMetadata obj a = .ok obj')
    (hr : attributeResult env obj.objectClass obj.strictValidation a = some r) :
    obj'.parsedData.get a.name = some (.text (if (obj.parsedData.get a.name).isSome then
      '\n' :: f.stored r.value else f.stored r.value)) := by
  obtain ⟨-, ⟨hnone, -⟩ | ⟨f', r', hf', hr', hstore, messages, hparse⟩⟩ := parseAttribute_outcome h
  · cases hr.symm.trans hnone
  · cases hr.symm.trans hr'
    cases hf.field.symm.trans hf'
    rw [storeValue_single hf.multiple (valuesList_parse env hf.isList hparse)] at hstore
    rw [← Except.ok.inj hstore, ParsedData.get_set, if_pos rfl]

/-- The value under a name is not the first one. -/
def IsLater (v : Option ParsedValue) : Prop := ∃ value, v = some (.text ('\n' :: value))

/-- A value that is not the first one is followed by others that are not. -/
theorem isLater_foldlM {data : List Attribute} {name : List Char} {f : RPSLField}
    (hc : obj.objectClass ∈ objectClasses) (hd : StoredAsLists obj.objectClass obj.parsedData)
    (hf : SingleField obj.objectClass name f)
    (h : data.foldlM (parseAttribute env allowInvalidMetadata) obj = .ok obj')
    (hlater : IsLater (obj.parsedData.get name)) : IsLater (obj'.parsedData.get name) := by
  induction data generalizing obj with
  | nil =>
    cases h
    exact hlater
  | cons a data ih =>
    rw [List.foldlM_cons] at h
    obtain ⟨obj'', ha, hrest⟩ := bind_eq_ok_iff.mp h
    have hstep := (parseAttribute_spec env allowInvalidMetadata a hc hd).2 obj'' ha
    refine ih (hstep.objectClass ▸ hc) hstep.stored (hstep.objectClass ▸ hf) hrest ?_
    by_cases hname : a.name = name
    · subst hname
      cases hr : attributeResult env obj.objectClass obj.strictValidation a with
      | none =>
        obtain ⟨-, ⟨-, hdata⟩ | ⟨f', r, -, hr', -⟩⟩ := parseAttribute_outcome ha
        · rwa [hdata]
        · cases hr.symm.trans hr'
      | some r =>
        obtain ⟨value, hvalue⟩ := hlater
        rw [get_parseAttribute_single hf ha hr, hvalue]
        exact ⟨_, rfl⟩
    · rwa [get_parseAttribute_of_ne ha hname]

/-- The value of an attribute is followed by later ones where others of its name are parsed. -/
theorem isLater_of_repeated {data : List Attribute} {f : RPSLField}
    (hc : obj.objectClass ∈ objectClasses) (hd : StoredAsLists obj.objectClass obj.parsedData)
    (hf : SingleField obj.objectClass a.name f)
    (h : data.foldlM (parseAttribute env allowInvalidMetadata) obj = .ok obj')
    (hfirst : (obj.parsedData.get a.name).isSome) (ha : a ∈ data) {r : RPSLFieldParseResult}
    (hr : attributeResult env obj.objectClass obj.strictValidation a = some r) :
    IsLater (obj'.parsedData.get a.name) := by
  induction data generalizing obj with
  | nil => cases ha
  | cons b data ih =>
    rw [List.foldlM_cons] at h
    obtain ⟨obj'', hb, hrest⟩ := bind_eq_ok_iff.mp h
    have hstep := (parseAttribute_spec env allowInvalidMetadata b hc hd).2 obj'' hb
    have hsome : (obj''.parsedData.get a.name).isSome := (parseAttribute_valid hc hb).1 _ hfirst
    rcases List.mem_cons.mp ha with rfl | ha
    · refine isLater_foldlM (hstep.objectClass ▸ hc) hstep.stored (hstep.objectClass ▸ hf) hrest ?_
      rw [get_parseAttribute_single hf hb hr, if_pos hfirst]
      exact ⟨_, rfl⟩
    · exact ih (hstep.objectClass ▸ hc) hstep.stored (hstep.objectClass ▸ hf) hrest hsome ha
        (by rw [hstep.objectClass, hstep.strictValidation]; exact hr)

/-- The value under a name for a single one, where one attribute of that name is parsed. -/
theorem get_foldlM_single {before after : List Attribute} {f : RPSLField}
    {r : RPSLFieldParseResult} (hc : obj.objectClass ∈ objectClasses)
    (hd : StoredAsLists obj.objectClass obj.parsedData)
    (hf : SingleField obj.objectClass a.name f)
    (h : (before ++ a :: after).foldlM (parseAttribute env allowInvalidMetadata) obj = .ok obj')
    (hnone : obj.parsedData.get a.name = none) (hbefore : ∀ b ∈ before, b.name ≠ a.name)
    (hr : attributeResult env obj.objectClass obj.strictValidation a = some r) :
    ((∀ b ∈ after, b.name = a.name →
        attributeResult env obj.objectClass obj.strictValidation b = none) →
      obj'.parsedData.get a.name = some (.text (f.stored r.value))) ∧
    ((∃ b ∈ after, b.name = a.name ∧
        (attributeResult env obj.objectClass obj.strictValidation b).isSome) →
      IsLater (obj'.parsedData.get a.name)) := by
  rw [List.foldlM_append] at h
  obtain ⟨obj₁, h₁, h⟩ := bind_eq_ok_iff.mp h
  rw [List.foldlM_cons] at h
  obtain ⟨obj₂, h₂, h⟩ := bind_eq_ok_iff.mp h
  have hparsed := foldlM_parseAttribute_outcome hc hd h₁
  have hstep := (parseAttribute_spec env allowInvalidMetadata a (hparsed.objectClass ▸ hc)
    hparsed.stored).2 obj₂ h₂
  have hclass := hstep.objectClass.trans hparsed.objectClass
  have hstrict := hstep.strictValidation.trans hparsed.strictValidation
  have hvalue := get_parseAttribute_single (hparsed.objectClass ▸ hf) h₂
    (by rw [hparsed.objectClass, hparsed.strictValidation]; exact hr)
  rw [get_foldlM_of_unparsed hc hd h₁ (fun b hb hname ↦ absurd hname (hbefore b hb)), hnone]
    at hvalue
  constructor
  · intro hnoOther
    rw [get_foldlM_of_unparsed (hclass ▸ hc) hstep.stored h
      (by rw [hclass, hstrict]; exact hnoOther)]
    exact hvalue
  · rintro ⟨b, hb, hname, hsome⟩
    obtain ⟨r', hr'⟩ := Option.isSome_iff_exists.mp hsome
    have hlater := isLater_of_repeated (hclass ▸ hc) hstep.stored
      (by rw [hclass, hname]; exact hf) h (by rw [hname, hvalue]; rfl) hb
      (by rw [hclass, hstrict]; exact hr')
    rwa [hname] at hlater

end Steps

section Objects

variable {env : Environment} {c : RPSLObjectClass} {text : List Char}
  {defaultSource : Option (List Char)} {obj : ParsedObject}

/-- What the attributes of a text leave in its object, in non-strict mode. -/
structure TextParsed (env : Environment) (c : RPSLObjectClass) (text : List Char)
    (defaultSource : Option (List Char)) (obj : ParsedObject) : Prop where
  objectClass : obj.objectClass = c
  errors : obj.errors = (countedObject c text false defaultSource).errors ++
    (countedObject c text false defaultSource).objectData.flatMap (attributeErrors env c false)
  resources : obj.resources = ((countedObject c text false defaultSource).objectData.filterMap
    (attributeResources env c false)).foldl Resources.update .none
  single : ∀ before a after f r, (countedObject c text false defaultSource).objectData =
      before ++ a :: after → SingleField c a.name f → (∀ b ∈ before, b.name ≠ a.name) →
      attributeResult env c false a = some r →
      ((∀ b ∈ after, b.name = a.name → attributeResult env c false b = none) →
        obj.parsedData.get a.name = some (.text (f.stored r.value))) ∧
      ((∃ b ∈ after, b.name = a.name ∧ (attributeResult env c false b).isSome) →
        IsLater (obj.parsedData.get a.name))

/-- The default source leaves a source that is there. -/
theorem get_withDefaultSource (obj : ParsedObject) {name : List Char}
    (hname : (obj.parsedData.get name).isSome) :
    obj.withDefaultSource.parsedData.get name = obj.parsedData.get name := by
  unfold ParsedObject.withDefaultSource
  split
  · next hnone =>
    rw [ParsedData.get_set, if_neg]
    rintro rfl
    rw [Option.isNone_iff_eq_none.mp hnone.1] at hname
    cases hname
  · rfl

/-- Parsing a text in non-strict mode. -/
theorem textParsed_of_validateObject (hc : c ∈ objectClasses)
    (h : validateObject env (extractObject c text false defaultSource) = .ok obj) :
    TextParsed env c text defaultSource obj := by
  obtain ⟨hclass, hstrict, hdata, hresources⟩ := countedObject_frame c text false defaultSource
  obtain ⟨parsed, hparsed, rfl⟩ := validateObject_eq_ok h
  change (countedObject c text false defaultSource).objectData.foldlM _
    { countedObject c text false defaultSource with objectData := [] } = _ at hparsed
  have hmem : ({ countedObject c text false defaultSource with
      objectData := [] } : ParsedObject).objectClass ∈ objectClasses := by rwa [hclass]
  have hstored := storedAsLists_countedObject c text false defaultSource
  have houtcome := foldlM_parseAttribute_outcome hmem hstored hparsed
  have hclean : (parsed.withDefaultSource).cleanIfValid env = parsed.withDefaultSource := by
    unfold ParsedObject.cleanIfValid
    rw [if_neg]
    rintro ⟨hmode, -⟩
    have hkept : parsed.withDefaultSource.strictValidation = parsed.strictValidation := by
      unfold ParsedObject.withDefaultSource
      split <;> rfl
    rw [hkept, houtcome.strictValidation] at hmode
    rw [hstrict] at hmode
    cases hmode
  obtain ⟨hclassKept, hmessages, -⟩ := withDefaultSource_frame parsed
  have hresourcesKept : parsed.withDefaultSource.resources = parsed.resources := by
    unfold ParsedObject.withDefaultSource
    split <;> rfl
  have herrors := houtcome.errors
  have hupdated := houtcome.resources
  dsimp only at herrors hupdated
  rw [hclass, hstrict] at herrors hupdated
  rw [hclean]
  refine ⟨?_, ?_, ?_, fun before a after f r hsplit hf hbefore hr ↦ ?_⟩
  · rw [hclassKept, houtcome.objectClass]
    exact hclass
  · unfold ParsedObject.errors at herrors ⊢
    rw [hmessages]
    exact herrors
  · rw [hresourcesKept, hupdated, hresources]
  · rw [hsplit] at hparsed
    have hsingle := get_foldlM_single hmem hstored (by dsimp only; rw [hclass]; exact hf) hparsed
      (by dsimp only; rw [hdata]; rfl) hbefore (by dsimp only; rw [hclass, hstrict]; exact hr)
    dsimp only at hsingle
    rw [hclass, hstrict] at hsingle
    obtain ⟨honly, hrepeated⟩ := hsingle
    refine ⟨fun hothers ↦ ?_, fun hothers ↦ ?_⟩
    · have hvalue := honly hothers
      rw [get_withDefaultSource parsed (by rw [hvalue]; rfl)]
      exact hvalue
    · have hvalue := hrepeated hothers
      rw [get_withDefaultSource parsed (by obtain ⟨value, h⟩ := hvalue; rw [h]; rfl)]
      exact hvalue

/-- Where an object has no errors, and the first value under a name, no other attribute of that
name comes later. -/
theorem TextParsed.ne_of_first (hparsed : TextParsed env c text defaultSource obj)
    (hc : c ∈ objectClasses) (herrors : obj.errors = [])
    (hurl : ∀ a, ¬ HasRefusedUrl env c a) (before : List Attribute) (a : Attribute)
    {after : List Attribute} {f : RPSLField} {r : RPSLFieldParseResult} {value : List Char}
    (hsplit : (countedObject c text false defaultSource).objectData = before ++ a :: after)
    (hf : SingleField c a.name f) (hraises : f.raisesErrors false = true)
    (hbefore : ∀ b ∈ before, b.name ≠ a.name) (hr : attributeResult env c false a = some r)
    (hvalue : obj.parsedData.get a.name = some (.text value)) (hfirst : value.head? ≠ some '\n') :
    ∀ b ∈ after, b.name ≠ a.name := by
  intro b hb hname
  have hvalid := (List.append_eq_nil_iff.mp (hparsed.errors.symm.trans herrors)).2
  rw [hsplit, List.flatMap_eq_nil_iff] at hvalid
  obtain ⟨r', hr'⟩ := exists_attributeResult hc (hname ▸ hf.field) hraises (hurl b)
    (hvalid b (List.mem_append_right _ (List.mem_cons_of_mem _ hb)))
  obtain ⟨later, hlater⟩ := (hparsed.single before a after f r hsplit hf hbefore hr).2
    ⟨b, hb, hname, by rw [hr']; rfl⟩
  rw [hvalue] at hlater
  cases hlater
  exact hfirst rfl

end Objects

end Irrd.Rpsl
