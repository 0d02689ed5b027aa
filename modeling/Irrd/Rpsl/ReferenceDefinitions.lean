import Irrd.Rpsl.ParserAgreement

/-!
# Reference fields of a process

The reference fields of the object classes are objects that a whole process shares. They resolve the
fields that identify what they refer to when a value is first parsed. Source:
`irrd/rpsl/fields.py:561–614`.
-/

namespace Irrd.Rpsl

open Irrd.Base Irrd.Utils

/-- `RPSLReferenceField`: the classes it refers to, and the classes whose identifier fields it has
resolved. -/
structure ReferenceField where
  referring : List String
  referringIdentifierFields : List String
  deriving DecidableEq

namespace ReferenceField

/-- `resolve_references`, `irrd/rpsl/fields.py:604–613`. -/
def resolveReferences (r : ReferenceField) : ReferenceField :=
  { r with referringIdentifierFields := r.referringIdentifierFields ++ r.referring }

@[simp] theorem referring_resolveReferences (r : ReferenceField) :
    r.resolveReferences.referring = r.referring := rfl

/-- A field when a value is parsed, `irrd/rpsl/fields.py:591–592`. -/
def resolved (r : ReferenceField) : ReferenceField :=
  if r.referringIdentifierFields = [] then r.resolveReferences else r

@[simp] theorem referring_resolved (r : ReferenceField) : r.resolved.referring = r.referring := by
  unfold resolved
  split <;> rfl

end ReferenceField

/-- The reference fields of a process, by class and name. -/
abbrev Definitions := String → String → ReferenceField

/-- The field of a class. -/
def classField (objectClass name : String) : Option RPSLField :=
  (objectClasses.find? (fun c ↦ c.rpslObjectClass = objectClass)).bind (fun c ↦
    c.fields.find? (fun f ↦ f.name = name))

/-- Whether a field is a reference field. -/
def isReferenceField (objectClass name : String) : Bool :=
  (classField objectClass name).any (fun f ↦ f.kind.isReference)

/-- The reference fields after the classes are defined. -/
def freshDefinitions : Definitions := fun objectClass name ↦
  ⟨(classField objectClass name).elim [] (fun f ↦ f.kind.referring), []⟩

namespace Definitions

/-- A change to one field. -/
def modify (defs : Definitions) (objectClass name : String)
    (change : ReferenceField → ReferenceField) : Definitions := fun objectClass' name' ↦
  if objectClass' = objectClass ∧ name' = name then change (defs objectClass' name')
  else defs objectClass' name'

/-- The kind of a field with the identifier fields that it tries. -/
def kindOf (defs : Definitions) (c : RPSLObjectClass) (f : RPSLField) : FieldKind :=
  f.kind.withReferring (defs c.rpslObjectClass f.name).resolved.referringIdentifierFields

end Definitions

/-- `rpsl_object_from_text` in a process. -/
def rpslObjectFromTextIn (env : Environment) (defs : Definitions) (text : List Char)
    (strictValidation : Bool) (defaultSource : Option (List Char)) :
    Except ParserException ParsedObject :=
  let name := strip (beforeFirst ':' text)
  match findClass name with
  | none => .error (.unknownRPSLObjectClass name)
  | some c =>
    validateObject env (extractObject (c.mapKinds (defs.kindOf c)) text strictValidation
      defaultSource)

/-- Names of fields that all classes have. -/
def commonFields (classes : List RPSLObjectClass) : List String :=
  rpslPerson.attrsAllowed.filter (fun name ↦ classes.all (fun c ↦ name ∈ c.attrsAllowed))

/-- The fields that `SchemaGenerator` generates types for: those that all objects have, those of
contacts, and those of each class, `irrd/server/graphql/schema_generator.py:176–258`. -/
def schemaFields : List (String × String) :=
  (commonFields objectClasses ++ commonFields [rpslPerson, rpslRole]).map (fun name ↦
    ("person", name)) ++
  objectClasses.flatMap (fun c ↦ c.attrsAllowed.map (fun name ↦ (c.rpslObjectClass, name)))

/-- A type for a reference field resolves its references,
`irrd/server/graphql/schema_generator.py:295–296`. -/
def generateField (defs : Definitions) (f : String × String) : Definitions :=
  if isReferenceField f.1 f.2 ∧ (defs f.1 f.2).referring ≠ [] then
    defs.modify f.1 f.2 ReferenceField.resolveReferences
  else defs

/-- `SchemaGenerator()`, as far as it changes fields. -/
def generateSchema (defs : Definitions) : Definitions := schemaFields.foldl generateField defs

section Sound

variable {f : RPSLField} {r : ReferenceField}

/-- A reference field that parses as when it was defined: it has resolved nothing and refers to what
it did, or it tries every identifier field it did, and then some of them again. -/
structure ReferenceField.Sound (f : RPSLField) (r : ReferenceField) : Prop where
  referring : r.referring.Sublist f.kind.referring
  identifiers : r.referringIdentifierFields = [] ∧ r.referring = f.kind.referring ∨
    ∃ more, r.referringIdentifierFields = f.kind.referring ++ more ∧
      ∀ name ∈ more, name ∈ f.kind.referring

theorem ReferenceField.Sound.resolveReferences (h : r.Sound f) : r.resolveReferences.Sound f := by
  refine ⟨h.referring, .inr ?_⟩
  unfold ReferenceField.resolveReferences
  rcases h.identifiers with ⟨hnil, hreferring⟩ | ⟨more, hmore, hmem⟩
  · exact ⟨[], by simp [hnil, hreferring], by simp⟩
  · refine ⟨more ++ r.referring, by simp [hmore], fun name hname ↦ ?_⟩
    rcases List.mem_append.mp hname with hname | hname
    · exact hmem name hname
    · exact h.referring.subset hname

theorem ReferenceField.Sound.resolved (h : r.Sound f) : r.resolved.Sound f := by
  unfold ReferenceField.resolved
  split
  · exact h.resolveReferences
  · exact h

/-- A field that has resolved its references may refer to less. -/
theorem ReferenceField.Sound.refersToLess (h : r.Sound f) {referring : List String}
    (hresolved : r.referringIdentifierFields ≠ []) (hsub : referring.Sublist r.referring) :
    ReferenceField.Sound f { r with referring } :=
  ⟨hsub.trans h.referring, .inr (h.identifiers.resolve_left (fun hnil ↦ hresolved hnil.1))⟩

/-- The identifier fields that are tried in parsing. -/
theorem ReferenceField.Sound.tried (h : r.Sound f) : ∃ more,
    r.resolved.referringIdentifierFields = f.kind.referring ++ more ∧
      ∀ name ∈ more, name ∈ f.kind.referring := by
  unfold ReferenceField.resolved
  split
  · next hnil =>
    rcases h.resolveReferences.identifiers with ⟨hnone, hreferring⟩ | hmore
    · exact ⟨[], by simpa [hnil, ReferenceField.resolveReferences] using hreferring, by simp⟩
    · exact hmore
  · next hne => exact h.identifiers.resolve_left (fun hnil ↦ hne hnil.1)

end Sound

section Process

variable {defs : Definitions}

/-- Every reference field of a process is sound. -/
def Definitions.Sound (defs : Definitions) : Prop :=
  ∀ c ∈ objectClasses, ∀ f ∈ c.fields, f.kind.isReference = true →
    (defs c.rpslObjectClass f.name).Sound f

/-- Every reference field of a process has resolved its references. -/
def Definitions.Resolved (defs : Definitions) : Prop :=
  ∀ objectClass name, isReferenceField objectClass name = true →
    (defs objectClass name).referringIdentifierFields ≠ []

theorem classField_of_mem : ∀ c ∈ objectClasses, ∀ f ∈ c.fields,
    classField c.rpslObjectClass f.name = some f := by
  decide +kernel

theorem sound_freshDefinitions : freshDefinitions.Sound := by
  intro c hc f hf _
  unfold freshDefinitions
  rw [classField_of_mem c hc f hf]
  exact ⟨List.Sublist.refl _, .inl ⟨rfl, rfl⟩⟩

theorem Definitions.Sound.modify (h : defs.Sound) {objectClass name : String}
    {change : ReferenceField → ReferenceField}
    (hchange : ∀ c ∈ objectClasses, ∀ f ∈ c.fields, f.kind.isReference = true →
      c.rpslObjectClass = objectClass → f.name = name →
      (change (defs objectClass name)).Sound f) :
    (defs.modify objectClass name change).Sound := by
  intro c hc f hf href
  unfold Definitions.modify
  split
  · next hsame =>
    rw [hsame.1, hsame.2]
    exact hchange c hc f hf href hsame.1 hsame.2
  · exact h c hc f hf href

theorem referring_modify {change : ReferenceField → ReferenceField}
    (hchange : ∀ r, (change r).referring = r.referring)
    (objectClass name objectClass' name' : String) :
    (defs.modify objectClass name change objectClass' name').referring =
      (defs objectClass' name').referring := by
  unfold Definitions.modify
  split
  · exact hchange _
  · rfl

/-- The field of a class by name. -/
theorem exists_of_isReferenceField {objectClass name : String}
    (h : isReferenceField objectClass name = true) : ∃ c ∈ objectClasses, ∃ f ∈ c.fields,
      c.rpslObjectClass = objectClass ∧ f.name = name ∧ f.kind.isReference = true := by
  unfold isReferenceField at h
  rcases hf : classField objectClass name with _ | f
  · rw [hf] at h
    cases h
  rw [hf] at h
  have href : f.kind.isReference = true := h
  obtain ⟨c, hc, hfind⟩ := Option.bind_eq_some_iff.mp hf
  exact ⟨c, List.mem_of_find?_eq_some hc, f, List.mem_of_find?_eq_some hfind,
    by simpa using List.find?_some hc, by simpa using List.find?_some hfind, href⟩

theorem Definitions.Sound.generateField (h : defs.Sound) (field : String × String) :
    (generateField defs field).Sound := by
  unfold Irrd.Rpsl.generateField
  split
  · refine h.modify (fun c hc f hf href hclass hname ↦ ?_)
    rw [← hclass, ← hname]
    exact (h c hc f hf href).resolveReferences
  · exact h

theorem generateField_referring (field : String × String) (objectClass name : String) :
    (generateField defs field objectClass name).referring =
      (defs objectClass name).referring := by
  unfold Irrd.Rpsl.generateField
  split
  · exact referring_modify ReferenceField.referring_resolveReferences _ _ _ _
  · rfl

/-- A field for which a type is generated has resolved its references, and stays so. -/
theorem generateField_resolved (h : defs.Sound) {field : String × String}
    {objectClass name : String}
    (href : isReferenceField objectClass name = true)
    (hresolved : (defs objectClass name).referringIdentifierFields ≠ [] ∨
      field = (objectClass, name)) :
    (Irrd.Rpsl.generateField defs field objectClass name).referringIdentifierFields ≠ [] := by
  obtain ⟨c, hc, f, hf, rfl, rfl, hkind⟩ := exists_of_isReferenceField href
  have hsound := h c hc f hf hkind
  unfold Irrd.Rpsl.generateField
  by_cases hfield : field = (c.rpslObjectClass, f.name)
  · subst hfield
    by_cases hnil : (defs c.rpslObjectClass f.name).referringIdentifierFields = []
    · have hreferring : (defs c.rpslObjectClass f.name).referring = f.kind.referring := by
        rcases hsound.identifiers with hfresh | ⟨more, hmore, -⟩
        · exact hfresh.2
        · rw [hnil] at hmore
          exact absurd (List.append_eq_nil_iff.mp hmore.symm).1
            (identifierField_of_referring c hc f hf hkind).1
      have hne := (identifierField_of_referring c hc f hf hkind).1
      rw [if_pos ⟨href, hreferring ▸ hne⟩]
      simp [Definitions.modify, ReferenceField.resolveReferences, hnil, hreferring, hne]
    · split
      · simp [Definitions.modify, ReferenceField.resolveReferences, hnil]
      · exact hnil
  · have hkept := hresolved.resolve_right hfield
    split
    · unfold Definitions.modify
      split
      · simp [ReferenceField.resolveReferences, hkept]
      · exact hkept
    · exact hkept

theorem mem_schemaFields {objectClass name : String}
    (href : isReferenceField objectClass name = true) : (objectClass, name) ∈ schemaFields := by
  obtain ⟨c, hc, f, hf, rfl, rfl, -⟩ := exists_of_isReferenceField href
  refine List.mem_append_right _ (List.mem_flatMap.mpr ⟨c, hc, ?_⟩)
  exact List.mem_map_of_mem (List.mem_map_of_mem hf)

theorem foldl_generateField (h : defs.Sound) (fields : List (String × String)) :
    (fields.foldl Irrd.Rpsl.generateField defs).Sound ∧
      (∀ objectClass name, (fields.foldl Irrd.Rpsl.generateField defs objectClass name).referring =
        (defs objectClass name).referring) ∧
      ∀ objectClass name, isReferenceField objectClass name = true →
        (defs objectClass name).referringIdentifierFields ≠ [] ∨ (objectClass, name) ∈ fields →
        (fields.foldl Irrd.Rpsl.generateField defs objectClass name).referringIdentifierFields ≠
          [] := by
  induction fields generalizing defs with
  | nil => exact ⟨h, fun _ _ ↦ rfl, fun _ _ _ hresolved ↦ by simpa using hresolved⟩
  | cons field fields ih =>
    obtain ⟨hsound, hreferring, hresolved⟩ := ih (h.generateField field)
    refine ⟨hsound, fun objectClass name ↦ ?_, fun objectClass name href hdone ↦ ?_⟩
    · exact (hreferring objectClass name).trans (generateField_referring field objectClass name)
    · refine hresolved objectClass name href ?_
      rcases hdone with hdone | hmem
      · exact .inl (generateField_resolved h href (.inl hdone))
      · rcases List.mem_cons.mp hmem with hsame | hmem
        · exact .inl (generateField_resolved h href (.inr hsame.symm))
        · exact .inr hmem

/-- Types for all fields resolve all references, and change nothing else. -/
theorem generateSchema_spec (h : defs.Sound) : (generateSchema defs).Sound ∧
    (generateSchema defs).Resolved ∧ ∀ objectClass name,
      (generateSchema defs objectClass name).referring = (defs objectClass name).referring := by
  obtain ⟨hsound, hreferring, hresolved⟩ := foldl_generateField h schemaFields
  exact ⟨hsound, fun objectClass name href ↦
    hresolved objectClass name href (.inr (mem_schemaFields href)), hreferring⟩

/-- With sound reference fields, a text is accepted as in a fresh process, with the same data. -/
theorem rpslObjectFromTextIn_agree (h : defs.Sound) (env : Environment) (text : List Char)
    (strictValidation : Bool) (defaultSource : Option (List Char)) :
    Agree (fun obj' obj : ParsedObject ↦
        (obj'.errors = [] ↔ obj.errors = []) ∧ obj'.parsedData = obj.parsedData)
      (rpslObjectFromTextIn env defs text strictValidation defaultSource)
      (rpslObjectFromText env text strictValidation defaultSource) := by
  unfold rpslObjectFromTextIn rpslObjectFromText
  dsimp only
  rcases hclass : findClass (strip (beforeFirst ':' text)) with _ | c
  · rfl
  · have hc := mem_of_findClass hclass
    have hkinds : KindsAgree env c (defs.kindOf c) := by
      intro f hf
      by_cases href : f.kind.isReference = true
      · obtain ⟨more, hmore, hmem⟩ := (h c hc f hf href).tried
        unfold Definitions.kindOf
        rw [hmore]
        refine ⟨?_, parse_withReferring_agree env (identifierField_of_referring c hc f hf) hmem⟩
        cases f.kind <;> rfl
      · have hsame : defs.kindOf c f = f.kind := by
          unfold Definitions.kindOf
          cases hkind : f.kind <;> first | rfl | exact absurd (by rw [hkind]; rfl) href
        rw [hsame]
        exact ⟨rfl, fun value strict ↦ agree_sameOutcome_refl _⟩
    exact (ParsedObject.SameUpToMessages.validateObject hkinds
      (ParsedObject.SameUpToMessages.extractObject text strictValidation defaultSource)).mono
        (fun _ _ hobj ↦ ⟨hobj.errors, hobj.parsedData⟩)

end Process

end Irrd.Rpsl
