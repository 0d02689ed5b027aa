import Irrd.Rpsl.AttributeOutcomes
import Irrd.Rpsl.ListedValues

/-!
# Names of referred objects

In strict mode, the strong references of an object are names in upper case, as queries look them
up.
-/

namespace Irrd.Rpsl

open Irrd.Base Irrd.Utils

/-- A generic name that does not end in a newline. -/
def IsName (text : List Char) : Prop := reGenericName text = true ∧ text.getLast? ≠ some '\n'

/-- A name as references store it. A list without names stores an empty one. -/
def IsStoredName (text : List Char) : Prop :=
  text = [] ∨ ∃ name, IsName name ∧ text = upperText name

section Names

variable {text : List Char}

/-- No letter or digit is whitespace, in upper case either. -/
theorem upperChar_notMem_whitespace {c d : Char} (hd : isNameLetterOrDigit d = true)
    (hc : c ∈ upperChar d) : c ∉ whitespace := by
  have hspaces : ∀ c ∈ whitespace, c.isUpper = false ∧ (∀ p ∈ specialUpper, c ∉ p.2) ∧
      isNameLetterOrDigit c = false := List.forall_iff_forall_mem.mp (by decide)
  intro hspace
  obtain ⟨hupper, hspecial, hname⟩ := hspaces c hspace
  rcases mem_upperChar_cases hc with rfl | h | ⟨p, hp, h⟩
  · rw [hd] at hname
    cases hname
  · rw [hupper] at h
    cases h
  · exact hspecial p hp h

theorem strip_of_isStoredName (h : IsStoredName text) : strip text = text := by
  rcases h with rfl | ⟨name, ⟨hname, hnewline⟩, rfl⟩
  · rfl
  · unfold reGenericName at hname
    simp only [if_neg hnewline, Bool.and_eq_true] at hname
    obtain ⟨⟨⟨-, hfirst⟩, hlast⟩, -⟩ := hname
    obtain ⟨hhead, hend⟩ := mem_ends_upperText name
    refine stripChars_eq_self (fun c hc ↦ ?_) (fun c hc ↦ ?_)
    · obtain ⟨d, hd, hmem⟩ := hhead c hc
      rw [Option.mem_def.mp hd] at hfirst
      refine upperChar_notMem_whitespace ?_ hmem
      unfold isNameLetterOrDigit
      rw [Bool.or_eq_true]
      exact .inl hfirst
    · obtain ⟨d, hd, hmem⟩ := hend c hc
      rw [Option.mem_def.mp hd] at hlast
      exact upperChar_notMem_whitespace hlast hmem

/-- A value does not end in a newline. -/
theorem getLast?_normaliseRpslValue (value : List Char) :
    (normaliseRpslValue value).getLast? ≠ some '\n' := by
  have hwhitespace : '\n' ∈ whitespace := by decide
  unfold normaliseRpslValue
  split
  · exact fun hlast ↦ getLast?_stripChars hlast hwhitespace
  · intro hlast
    rcases mem_joinWith (List.mem_of_mem_getLast? hlast) with h | ⟨part, hpart, hmem⟩
    · cases h
    · obtain ⟨line, hline, rfl⟩ := List.mem_map.mp (List.mem_of_mem_filter hpart)
      have hmem := (List.takeWhile_sublist _).mem (mem_of_mem_stripChars hmem)
      unfold splitlineUnicodesafe at hline
      split at hline
      · cases hline
      · obtain ⟨line, hsplit, rfl⟩ := List.mem_map.mp hline
        exact not_mem_of_mem_splitOn hsplit (mem_of_mem_stripChars hmem)

end Names

section Parsing

variable {env : Environment}

/-- Whether values are generic names. -/
def FieldKind.isGenericName : FieldKind → Bool
  | .genericName .. => true
  | _ => false

/-- Whether a list may be the keyword `ANY`. -/
def FieldKind.takesAny : FieldKind → Bool
  | .referenceList _ allowKwAny _ => allowKwAny
  | _ => false

/-- What fields of strong references are like. They are the fields of their names, which lookups
find as they are, and are not set without parsing an attribute. Their values are generic names in
upper case, in lists that do not take `ANY` for all names. -/
structure StrongField (c : RPSLObjectClass) (f : RPSLField) : Prop where
  identifier : ∀ name ∈ f.kind.referring, ∀ g ∈ identifierField name, g.kind.isGenericName = true
  multiple : f.multiple = true
  keepCase : f.kind.keepCase = false
  takesAny : f.kind.takesAny = false
  field : c.field? f.name.toList = some f
  lower : display (Utils.lower f.name.toList) = f.name
  parsed : f.name ∉ ["source", "fingerpr", "owner", "method"]

instance (c : RPSLObjectClass) (f : RPSLField) : Decidable (StrongField c f) :=
  decidable_of_iff
    ((∀ name ∈ f.kind.referring, ∀ g ∈ identifierField name, g.kind.isGenericName = true) ∧
      f.multiple = true ∧ f.kind.keepCase = false ∧ f.kind.takesAny = false ∧
      c.field? f.name.toList = some f ∧ display (lower f.name.toList) = f.name ∧
      f.name ∉ ["source", "fingerpr", "owner", "method"])
    ⟨fun ⟨h₁, h₂, h₃, h₄, h₅, h₆, h₇⟩ ↦ ⟨h₁, h₂, h₃, h₄, h₅, h₆, h₇⟩,
      fun h ↦ ⟨h.identifier, h.multiple, h.keepCase, h.takesAny, h.field, h.lower, h.parsed⟩⟩

theorem strongField_of_strong : ∀ c ∈ objectClasses, ∀ f ∈ c.fields, f.kind.strong = true →
    StrongField c f := by
  decide +kernel

theorem reGenericName_of_genericNameFieldParse {allowedPrefixes : List String}
    {nonStrictAllowAny : Bool} {value : List Char} {r : RPSLFieldParseResult}
    (h : (genericNameFieldParse allowedPrefixes nonStrictAllowAny value true).1 = some r) :
    r.valuesList = [] ∧ r.value = value ∧ reGenericName value = true := by
  unfold genericNameFieldParse at h
  dsimp only at h
  rw [if_neg (by simp)] at h
  split at h
  · cases h
  · split at h
    · cases h
    · split at h
      · next hname =>
        cases h
        exact ⟨rfl, rfl, hname⟩
      · cases h

theorem reGenericName_of_referenceFieldParse {referring : List String}
    (hreferring : ∀ name ∈ referring, ∀ g ∈ identifierField name, g.kind.isGenericName = true)
    {value : List Char} {r : RPSLFieldParseResult} {messages messages' : RPSLParserMessages}
    (h : referenceFieldParse env value true referring messages = .ok (some r, messages')) :
    r.valuesList = [] ∧ r.value = value ∧ reGenericName value = true := by
  induction referring generalizing messages with
  | nil => cases h
  | cons name referring ih =>
    obtain ⟨hname, hrest⟩ := List.forall_mem_cons.mp hreferring
    simp only [referenceFieldParse] at h
    split at h
    · exact ih hrest h
    · next g hg =>
      obtain ⟨⟨result, fieldMessages⟩, ho, hresult⟩ := bind_eq_ok_iff.mp h
      cases result with
      | none => exact ih hrest hresult
      | some r' =>
        cases hresult
        have hkind := hname g hg
        cases hg' : g.kind <;> rw [hg'] at hkind ho <;> try cases hkind
        exact reGenericName_of_genericNameFieldParse (congrArg Prod.fst (Except.ok.inj ho))

/-- The names of a list are those of its parts, and a list without names has no text. -/
theorem names_listFieldParse {parseOne : List Char → Except ParserException FieldOutcome}
    (hone : ∀ v r messages, parseOne v = .ok (some r, messages) →
      r.value = v ∧ reGenericName v = true)
    {value : List Char} {r : RPSLFieldParseResult} {messages : RPSLParserMessages}
    (hr : listFieldParse parseOne value = .ok (some r, messages)) :
    (∀ text ∈ r.valuesList, IsName text) ∧ (r.valuesList = [] → r.value = []) := by
  obtain ⟨outcomes, houtcomes, hresult⟩ := bind_eq_ok_iff.mp hr
  dsimp only at hresult
  split at hresult
  · cases hresult
  · next results hresults =>
    cases hresult
    refine ⟨fun text htext ↦ ?_, fun hnil ↦ ?_⟩
    · obtain ⟨r', hr', rfl⟩ := List.mem_map.mp htext
      obtain ⟨⟨result, messages'⟩, houtcome, hfst⟩ := exists_of_mem_mapM_some hresults hr'
      dsimp only at hfst
      subst hfst
      obtain ⟨single, hsingle, hparse⟩ := exists_of_mem_mapM houtcomes houtcome
      obtain ⟨part, -, rfl⟩ := List.mem_map.mp (List.mem_of_mem_filter hsingle)
      obtain ⟨hvalue, hname⟩ := hone _ _ _ hparse
      rw [hvalue]
      exact ⟨hname, fun hlast ↦ getLast?_stripChars hlast (by decide)⟩
    · dsimp only at hnil ⊢
      rw [hnil]
      rfl

/-- What a strong reference parses in strict mode: a generic name, or a list of them. -/
theorem isStoredName_parse {c : RPSLObjectClass} (hc : c ∈ objectClasses) {f : RPSLField}
    (hf : f ∈ c.fields) (hstrong : f.kind.strong = true) {value : List Char}
    {r : RPSLFieldParseResult} {messages : RPSLParserMessages}
    (hvalue : value.getLast? ≠ some '\n')
    (h : f.kind.parse env value true = .ok (some r, messages)) :
    (∀ text ∈ r.valuesList, IsStoredName (upperText text)) ∧
      (r.valuesList = [] → IsStoredName (upperText r.value)) := by
  have hfield := strongField_of_strong c hc f hf hstrong
  have hreferring := hfield.identifier
  cases hkind : f.kind <;> rw [hkind] at hstrong hreferring h <;> try cases hstrong
  · obtain ⟨hvalues, hsame, hname⟩ := reGenericName_of_referenceFieldParse hreferring h
    refine ⟨fun text htext ↦ ?_, fun _ ↦ .inr ⟨value, ⟨hname, hvalue⟩, by rw [hsame]⟩⟩
    rw [hvalues] at htext
    cases htext
  · next referring allowKwAny =>
    have hany : allowKwAny = false := by
      have htakes := hfield.takesAny
      rwa [hkind] at htakes
    simp only [FieldKind.parse, hany] at h
    rw [if_neg (by simp)] at h
    obtain ⟨hvalues, hempty⟩ := names_listFieldParse (fun v r' messages' ho ↦
      (reGenericName_of_referenceFieldParse hreferring ho).2) h
    refine ⟨fun text htext ↦ .inr ⟨text, hvalues text htext, rfl⟩, fun hnil ↦ .inl ?_⟩
    rw [hempty hnil]
    rfl

end Parsing

section Stored

variable {env : Environment} {allowInvalidMetadata : Bool} {obj obj' : ParsedObject}
  {c : RPSLObjectClass} {d d' : ParsedData}

/-- Data in which strong references are names. -/
def HoldsNames (c : RPSLObjectClass) (d : ParsedData) : Prop :=
  ∀ attr f, c.field? attr = some f → f.kind.strong = true → ∀ v, d.get attr = some v →
    ∀ text ∈ v.texts, IsStoredName text

theorem HoldsNames.set (hd : HoldsNames c d) {attr : List Char} {v : ParsedValue}
    (hv : ∀ f, c.field? attr = some f → f.kind.strong = true →
      ∀ text ∈ v.texts, IsStoredName text) : HoldsNames c (d.set attr v) := by
  intro attr' f hf hstrong v' hv'
  rw [ParsedData.get_set] at hv'
  split at hv'
  · next hattr =>
    subst hattr
    cases hv'
    exact hv f hf hstrong
  · exact hd attr' f hf hstrong v' hv'

theorem HoldsNames.storeValue (hd : HoldsNames c d) (hc : c ∈ objectClasses) {attr : List Char}
    {f : RPSLField} (hf : c.field? attr = some f) {r : RPSLFieldParseResult}
    (hr : f.kind.strong = true → (∀ text ∈ r.valuesList, IsStoredName (upperText text)) ∧
      (r.valuesList = [] → IsStoredName (upperText r.value)))
    (h : storeValue f attr r d = .ok d') : HoldsNames c d' := by
  have hkeep (hstrong : f.kind.strong = true) :=
    strongField_of_strong c hc f (mem_of_field? hf).1 hstrong
  have hold {values : List (List Char)} (hget : d.get attr = some (.list values))
      (hstrong : f.kind.strong = true) : ∀ text ∈ values, IsStoredName text :=
    hd attr f hf hstrong _ hget
  have hnew (hstrong : f.kind.strong = true) : ∀ text ∈ r.valuesList.map (fun text ↦
      if f.kind.keepCase then text else upperText text), IsStoredName text := by
    intro text htext
    obtain ⟨value, hvalue, rfl⟩ := List.mem_map.mp htext
    rw [if_neg (by simp [(hkeep hstrong).keepCase])]
    exact (hr hstrong).1 value hvalue
  have hset {v : ParsedValue} (hv : f.kind.strong = true → ∀ text ∈ v.texts, IsStoredName text) :
      HoldsNames c (d.set attr v) :=
    hd.set (fun f' hf' hstrong ↦ by
      cases hf.symm.trans hf'
      exact hv hstrong)
  unfold Rpsl.storeValue at h
  dsimp only at h
  split at h
  · split at h
    · cases h
      exact hset hnew
    · next values hget =>
      cases h
      exact hset (fun hstrong ↦ List.forall_mem_append.mpr ⟨hold hget hstrong, hnew hstrong⟩)
    · cases h
  · next hnil =>
    have hvalue (hstrong : f.kind.strong = true) :
        IsStoredName (if f.kind.keepCase then r.value else upperText r.value) := by
      rw [if_neg (by simp [(hkeep hstrong).keepCase])]
      exact (hr hstrong).2 (not_not.mp hnil)
    split at h
    · split at h
      · cases h
        exact hset (fun hstrong ↦ List.forall_mem_singleton.mpr (hvalue hstrong))
      · next values hget =>
        cases h
        exact hset (fun hstrong ↦ List.forall_mem_append.mpr
          ⟨hold hget hstrong, List.forall_mem_singleton.mpr (hvalue hstrong)⟩)
      · cases h
    · next hsingle =>
      have hweak (hstrong : f.kind.strong = true) (P : Prop) : P :=
        absurd (hkeep hstrong).multiple hsingle
      split at h <;> cases h <;> exact hset (fun hstrong ↦ hweak hstrong _)

theorem holdsNames_parseAttribute {a : Attribute} (hc : obj.objectClass ∈ objectClasses)
    (hstrict : obj.strictValidation = true) (hd : HoldsNames obj.objectClass obj.parsedData)
    (h : parseAttribute env allowInvalidMetadata obj a = .ok obj') :
    HoldsNames obj.objectClass obj'.parsedData := by
  obtain ⟨-, ⟨-, hdata⟩ | ⟨f, r, hf, -, hstore, messages, hparse⟩⟩ := parseAttribute_outcome h
  · rwa [hdata]
  · rw [hstrict] at hparse
    exact hd.storeValue hc hf
      (fun hstrong ↦ isStoredName_parse hc (mem_of_field? hf).1 hstrong
        (getLast?_normaliseRpslValue _) hparse) hstore

theorem holdsNames_foldlM {data : List Attribute} (hc : obj.objectClass ∈ objectClasses)
    (hstrict : obj.strictValidation = true) (hstored : StoredAsLists obj.objectClass obj.parsedData)
    (hd : HoldsNames obj.objectClass obj.parsedData)
    (h : data.foldlM (parseAttribute env allowInvalidMetadata) obj = .ok obj') :
    HoldsNames obj.objectClass obj'.parsedData := by
  induction data generalizing obj with
  | nil =>
    cases h
    exact hd
  | cons a data ih =>
    rw [List.foldlM_cons] at h
    obtain ⟨obj'', ha, hrest⟩ := bind_eq_ok_iff.mp h
    have hstep := (parseAttribute_spec env allowInvalidMetadata a hc hstored).2 obj'' ha
    have hd' := holdsNames_parseAttribute hc hstrict hd ha
    rw [← hstep.objectClass] at hd' ⊢
    exact ih (hstep.objectClass ▸ hc) (hstep.strictValidation.trans hstrict) hstep.stored hd' hrest

theorem HoldsNames.update (hd : HoldsNames c d) (hc : c ∈ objectClasses) {attr : String}
    (hattr : attr ∈ ["source", "fingerpr", "owner", "method"]) (v : ParsedValue) :
    HoldsNames c (d.set attr.toList v) := by
  refine hd.set (fun f hf hstrong ↦ ?_)
  obtain ⟨hmem, hname⟩ := mem_of_field? hf
  have hparsed := (strongField_of_strong c hc f hmem hstrong).parsed
  rw [String.toList_inj.mp hname] at hparsed
  exact absurd hattr hparsed

theorem HoldsNames.withDefaultSource (hc : obj.objectClass ∈ objectClasses)
    (hd : HoldsNames obj.objectClass obj.parsedData) :
    HoldsNames obj.objectClass obj.withDefaultSource.parsedData := by
  unfold ParsedObject.withDefaultSource
  split
  · exact hd.update hc (by decide) _
  · exact hd

theorem HoldsNames.cleanIfValid (hc : obj.objectClass ∈ objectClasses)
    (hd : HoldsNames obj.objectClass obj.parsedData) :
    HoldsNames obj.objectClass (obj.cleanIfValid env).parsedData := by
  unfold ParsedObject.cleanIfValid
  split
  · unfold ParsedObject.clean
    split
    · unfold ParsedObject.cleanMntner
      dsimp only
      split <;> exact hd
    · split
      · unfold ParsedObject.cleanKeyCert
        dsimp only
        split
        · split
          · exact hd
          · exact ((hd.update hc (by decide) _).update hc (by decide) _).update hc (by decide) _
        · exact hd
      · exact hd
  · exact hd

/-- In strict mode, the strong references of an object are names. -/
theorem holdsNames_rpslObjectFromText {text : List Char} {defaultSource : Option (List Char)}
    (h : rpslObjectFromText env text true defaultSource = .ok obj) :
    HoldsNames obj.objectClass obj.parsedData := by
  have hclass := mem_objectClasses h
  unfold rpslObjectFromText at h
  dsimp only at h
  split at h
  · cases h
  · next c hc =>
    have hmem := mem_of_findClass hc
    obtain ⟨parsed, hparsed, rfl⟩ := validateObject_eq_ok h
    obtain ⟨hcounted, hstrict, hdata, -⟩ := countedObject_frame c text true defaultSource
    have hstored := storedAsLists_countedObject c text true defaultSource
    change (countedObject c text true defaultSource).objectData.foldlM _
      { countedObject c text true defaultSource with objectData := [] } = _ at hparsed
    have hcounted' : ({ countedObject c text true defaultSource with
        objectData := [] } : ParsedObject).objectClass ∈ objectClasses := by rwa [hcounted]
    have houtcome := foldlM_parseAttribute_outcome hcounted' hstored hparsed
    have hnil : HoldsNames (countedObject c text true defaultSource).objectClass
        (countedObject c text true defaultSource).parsedData := by
      rw [hdata]
      intro attr f _ _ v hv
      cases hv
    have hd := holdsNames_foldlM hcounted' hstrict hstored hnil hparsed
    have hparsedClass := houtcome.objectClass
    dsimp only at hd hparsedClass
    rw [← hparsedClass] at hd
    have hframe := (cleanIfValid_frame env parsed.withDefaultSource).1
    have hdefault := (withDefaultSource_frame parsed).1
    rw [hframe, hdefault] at hclass ⊢
    have hcleaned := @HoldsNames.cleanIfValid env _ (hdefault ▸ hclass)
      (hdefault ▸ hd.withDefaultSource hclass)
    rwa [hdefault] at hcleaned

/-- Strong references of an object that was parsed in strict mode are names. -/
theorem HoldsNames.referredStrongObjects (hc : obj.objectClass ∈ objectClasses)
    (hd : HoldsNames obj.objectClass obj.parsedData) {name : String} {referring : List String}
    {values : List (List Char)} (h : (name, referring, values) ∈ obj.referredStrongObjects) :
    ∀ text ∈ values, IsStoredName text := by
  unfold ParsedObject.referredStrongObjects at h
  obtain ⟨⟨name', referring'⟩, hfield, hsome⟩ := List.mem_filterMap.mp h
  dsimp only at hsome
  split at hsome
  · cases hsome
  · cases hsome
    obtain ⟨f, hf, heq⟩ := List.mem_map.mp hfield
    cases heq
    obtain ⟨hf, hstrong⟩ := List.mem_filter.mp hf
    have hattr := (strongField_of_strong obj.objectClass hc f hf hstrong).field
    unfold ParsedObject.values
    split
    · next value hget =>
      exact hd _ f hattr hstrong _ hget
    · next values hget => exact hd _ f hattr hstrong _ hget
    · simp

end Stored

end Irrd.Rpsl
