import Irrd.Rpsl.ValidObjects

/-!
# Parsing with more identifier fields

A reference field tries identifier fields in turn. Fields that are tried again after all of them do
not change which texts are accepted, or what is parsed from them.
-/

namespace Irrd.Rpsl

open Irrd.Base Irrd.Utils

/-- A field with other identifier fields. -/
def FieldKind.withReferring (kind : FieldKind) (referring : List String) : FieldKind :=
  match kind with
  | .reference _ => .reference referring
  | .referenceList _ allowKwAny strong => .referenceList referring allowKwAny strong
  | kind => kind

/-- A class whose fields are of other kinds. -/
def RPSLObjectClass.mapKinds (c : RPSLObjectClass) (kind : RPSLField → FieldKind) :
    RPSLObjectClass :=
  { c with fields := c.fields.map (fun f ↦ { f with kind := kind f }) }

section Fields

variable {env : Environment} {value : List Char} {strictValidation : Bool}
  {referring more : List String} {messages messages' : RPSLParserMessages}

/-- The same result, and errors in both or in neither. -/
def SameOutcome (o o' : FieldOutcome) : Prop :=
  o.1 = o'.1 ∧ (RPSLParserMessages.errors o.2 = [] ↔ RPSLParserMessages.errors o'.2 = [])

theorem sameOutcome_refl (o : FieldOutcome) : SameOutcome o o := ⟨rfl, Iff.rfl⟩

theorem agree_sameOutcome_refl (x : Except ParserException FieldOutcome) :
    Agree SameOutcome x x := by
  cases x with
  | ok o => exact sameOutcome_refl o
  | error e => rfl

theorem sameOutcome_of_none {o o' : FieldOutcome} (ho : o.1 = none) (ho' : o'.1 = none)
    (hfails : FailsWithError o) (hfails' : FailsWithError o') : SameOutcome o o' :=
  ⟨ho.trans ho'.symm, iff_of_false (hfails ho) (hfails' ho')⟩

/-- A value that is parsed by one of the first identifier fields is parsed the same with more. -/
theorem referenceFieldParse_append_of_some {r : RPSLFieldParseResult}
    (h : referenceFieldParse env value strictValidation referring messages =
      .ok (some r, messages')) :
    referenceFieldParse env value strictValidation (referring ++ more) messages =
      .ok (some r, messages') := by
  induction referring generalizing messages with
  | nil => cases h
  | cons name referring ih =>
    simp only [List.cons_append, referenceFieldParse] at h ⊢
    rcases hname : identifierField name with _ | f
    · simp only [hname] at h ⊢
      exact ih h
    · simp only [hname] at h ⊢
      obtain ⟨⟨result, fieldMessages⟩, hresult, hrest⟩ := bind_eq_ok_iff.mp h
      rw [hresult]
      cases result with
      | some r => exact hrest
      | none => exact ih hrest

/-- A value that no identifier field parses is parsed by none of them again. -/
theorem referenceFieldParse_eq_none_iff :
    (∃ messages', referenceFieldParse env value strictValidation referring messages =
        .ok (none, messages')) ↔
      ∀ name ∈ referring, ∀ f ∈ identifierField name, ∃ fieldMessages,
        f.kind.parseDirect env value strictValidation = .ok (none, fieldMessages) := by
  induction referring generalizing messages with
  | nil => simp [referenceFieldParse]
  | cons name referring ih =>
    rw [List.forall_mem_cons]
    simp only [referenceFieldParse]
    rcases hname : identifierField name with _ | f
    · simpa using ih
    · simp only [Option.mem_def, Option.some.injEq, forall_eq']
      rcases hresult : f.kind.parseDirect env value strictValidation with e | ⟨_ | r, fieldMessages⟩
      · simp [bind, Except.bind]
      · simpa [bind, Except.bind] using ih
      · simp [bind, Except.bind, pure, Except.pure]

/-- Identifier fields that are tried again do not change an outcome, other than how often an error
is repeated. -/
theorem referenceFieldParse_agree (hne : referring ≠ [])
    (hnames : ∀ name ∈ referring, (identifierField name).isSome)
    (hmore : ∀ name ∈ more, name ∈ referring) :
    Agree SameOutcome
      (referenceFieldParse env value strictValidation (referring ++ more) [])
      (referenceFieldParse env value strictValidation referring []) := by
  obtain ⟨⟨result, messages⟩, ho⟩ :=
    referenceFieldParse_ok env value strictValidation referring []
  cases result with
  | some r =>
    exact Agree.of_eq_ok (referenceFieldParse_append_of_some ho) ho (sameOutcome_refl _)
  | none =>
    have hfailing := referenceFieldParse_eq_none_iff.mp ⟨messages, ho⟩
    obtain ⟨messages', ho'⟩ := (@referenceFieldParse_eq_none_iff env value strictValidation
      (referring ++ more) []).mpr (fun name hname ↦ by
        rcases List.mem_append.mp hname with hname | hname
        · exact hfailing name hname
        · exact hfailing name (hmore name hname))
    refine Agree.of_eq_ok ho' ho (sameOutcome_of_none rfl rfl ?_ ?_)
    · refine failsWithError_referenceFieldParse env (fun name hname ↦ ?_) (.inl (by simp [hne])) ho'
      rcases List.mem_append.mp hname with hname | hname
      · exact hnames name hname
      · exact hnames name (hmore name hname)
    · exact failsWithError_referenceFieldParse env hnames (.inl hne) ho

theorem errors_flatten_eq_nil {outcomes outcomes' : List FieldOutcome}
    (h : List.Forall₂ SameOutcome outcomes outcomes') :
    outcomes.map Prod.fst = outcomes'.map Prod.fst ∧
      (RPSLParserMessages.errors (outcomes.map Prod.snd).flatten = [] ↔
        RPSLParserMessages.errors (outcomes'.map Prod.snd).flatten = []) := by
  induction h with
  | nil => simp
  | cons hone _ ih =>
    simp only [List.map_cons, List.flatten_cons, errors_append, List.append_eq_nil_iff]
    exact ⟨by rw [hone.1, ih.1], and_congr hone.2 ih.2⟩

theorem listFieldParse_agree {parseOne parseOne' : List Char → Except ParserException FieldOutcome}
    (h : ∀ v, Agree SameOutcome (parseOne v) (parseOne' v)) (value : List Char) :
    Agree SameOutcome (listFieldParse parseOne value) (listFieldParse parseOne' value) := by
  unfold listFieldParse
  refine (Agree.mapM h _).bind (fun outcomes outcomes' houtcomes ↦ ?_)
  obtain ⟨hresults, herrors⟩ := errors_flatten_eq_nil houtcomes
  have hmapM (os : List FieldOutcome) : os.mapM Prod.fst = (os.map Prod.fst).mapM id := by
    rw [List.mapM_map]
    rfl
  dsimp only
  rw [hmapM outcomes, hmapM outcomes', hresults]
  cases (outcomes'.map Prod.fst).mapM id with
  | none => exact ⟨rfl, herrors⟩
  | some results => exact ⟨rfl, herrors⟩

/-- A reference field with identifier fields that are tried again. -/
theorem parse_withReferring_agree (env : Environment) {kind : FieldKind}
    (hkind : kind.isReference → kind.referring ≠ [] ∧
      ∀ name ∈ kind.referring, (identifierField name).isSome)
    (hmore : ∀ name ∈ more, name ∈ kind.referring) (value : List Char) (strictValidation : Bool) :
    Agree SameOutcome
      ((kind.withReferring (kind.referring ++ more)).parse env value strictValidation)
      (kind.parse env value strictValidation) := by
  cases kind with
  | reference referring =>
    obtain ⟨hne, hnames⟩ := hkind rfl
    exact referenceFieldParse_agree hne hnames hmore
  | referenceList referring allowKwAny strong =>
    obtain ⟨hne, hnames⟩ := hkind rfl
    show Agree SameOutcome
        (FieldKind.parse env (.referenceList (referring ++ more) allowKwAny strong)
      value strictValidation) _
    unfold FieldKind.parse
    dsimp only
    split
    · exact agree_sameOutcome_refl _
    · exact listFieldParse_agree (fun v ↦ referenceFieldParse_agree hne hnames hmore) value
  | _ => exact agree_sameOutcome_refl _

end Fields

namespace RPSLObjectClass

variable {c : RPSLObjectClass} {kind : RPSLField → FieldKind}

@[simp] theorem rpslObjectClass_mapKinds :
    (c.mapKinds kind).rpslObjectClass = c.rpslObjectClass := by
  unfold rpslObjectClass mapKinds
  rw [List.head?_map, Option.map_map]
  rfl

@[simp] theorem pkFields_mapKinds : (c.mapKinds kind).pkFields = c.pkFields := by
  simp only [pkFields, mapKinds, List.filter_map, List.map_map]
  rfl

@[simp] theorem attrsAllowed_mapKinds : (c.mapKinds kind).attrsAllowed = c.attrsAllowed := by
  simp only [attrsAllowed, mapKinds, List.map_map]
  rfl

@[simp] theorem attrsRequired_mapKinds : (c.mapKinds kind).attrsRequired = c.attrsRequired := by
  simp only [attrsRequired, mapKinds, List.filter_map, List.map_map]
  rfl

@[simp] theorem attrsMultiple_mapKinds : (c.mapKinds kind).attrsMultiple = c.attrsMultiple := by
  simp only [attrsMultiple, mapKinds, List.filter_map, List.map_map]
  rfl

theorem field?_mapKinds (attr : List Char) :
    (c.mapKinds kind).field? attr = (c.field? attr).map (fun f ↦ { f with kind := kind f }) := by
  simp only [field?, mapKinds, List.find?_map]
  rfl

/-- The attributes of a text depend on the names of the fields alone. -/
theorem extractLines_mapKinds (lineNo : Nat) (data : List Attribute) (current : Option Attribute)
    (lines : List (List Char)) :
    extractLines (c.mapKinds kind) lineNo data current lines =
      extractLines c lineNo data current lines := by
  have hsave (data : List Attribute) (current : Option Attribute) :
      saveAttribute (c.mapKinds kind) data current = saveAttribute c data current := rfl
  induction lines generalizing lineNo data current with
  | nil => simp only [extractLines, hsave]
  | cons line lines ih =>
    cases line with
    | nil => rfl
    | cons char rest => simp only [extractLines, ih, hsave, attrsAllowed_mapKinds]

end RPSLObjectClass

section Objects

variable {env : Environment} {kind : RPSLField → FieldKind} {c : RPSLObjectClass}
  {obj obj' : ParsedObject}

/-- The other kinds of the fields of a class parse the same. -/
def KindsAgree (env : Environment) (c : RPSLObjectClass) (kind : RPSLField → FieldKind) : Prop :=
  ∀ f ∈ c.fields, (kind f).keepCase = f.kind.keepCase ∧ ∀ value strictValidation,
    Agree SameOutcome ((kind f).parse env value strictValidation)
      (f.kind.parse env value strictValidation)

/-- Two objects that differ in the kinds of the fields of their class, and in their messages, where
both have errors or neither does. -/
structure ParsedObject.SameUpToMessages (c : RPSLObjectClass) (kind : RPSLField → FieldKind)
    (obj' obj : ParsedObject) : Prop where
  objectClass : obj.objectClass = c
  objectClass' : obj'.objectClass = c.mapKinds kind
  strictValidation : obj'.strictValidation = obj.strictValidation
  defaultSource : obj'.defaultSource = obj.defaultSource
  errors : obj'.errors = [] ↔ obj.errors = []
  objectData : obj'.objectData = obj.objectData
  parsedData : obj'.parsedData = obj.parsedData
  resources : obj'.resources = obj.resources

namespace ParsedObject.SameUpToMessages

theorem extractObject (text : List Char) (strictValidation : Bool)
    (defaultSource : Option (List Char)) :
    SameUpToMessages c kind (extractObject (c.mapKinds kind) text strictValidation defaultSource)
      (extractObject c text strictValidation defaultSource) := by
  have hextract : extractAttributesValues (c.mapKinds kind) text = extractAttributesValues c text :=
    RPSLObjectClass.extractLines_mapKinds _ _ _ _
  refine ⟨rfl, rfl, rfl, rfl, ?_, ?_, rfl, rfl⟩
  · simp only [Irrd.Rpsl.extractObject, hextract, ParsedObject.errors]
  · simp only [Irrd.Rpsl.extractObject, hextract]

theorem validateCounts (h : SameUpToMessages c kind obj' obj) :
    SameUpToMessages c kind obj'.validateCounts obj.validateCounts := by
  have hcounts : obj'.validateAttributeCounts = obj.validateAttributeCounts := by
    unfold validateAttributeCounts
    simp only [h.objectClass, h.objectClass', h.strictValidation, h.defaultSource, h.objectData,
      RPSLObjectClass.rpslObjectClass_mapKinds, RPSLObjectClass.pkFields_mapKinds,
      RPSLObjectClass.attrsAllowed_mapKinds, RPSLObjectClass.attrsRequired_mapKinds,
      RPSLObjectClass.attrsMultiple_mapKinds]
  unfold ParsedObject.validateCounts
  by_cases herrors : obj.errors = []
  · rw [if_pos herrors, if_pos (h.errors.mpr herrors)]
    refine ⟨h.objectClass, h.objectClass', h.strictValidation, h.defaultSource, ?_, h.objectData,
      h.parsedData, h.resources⟩
    simp only [ParsedObject.errors, errors_append, hcounts, List.append_eq_nil_iff]
    exact and_congr_left' h.errors
  · rw [if_neg herrors, if_neg (fun h' ↦ herrors (h.errors.mp h'))]
    exact h

theorem parseAttribute (hkinds : KindsAgree env c kind) (h : SameUpToMessages c kind obj' obj)
    (allowInvalidMetadata : Bool) (a : Attribute) :
    Agree (SameUpToMessages c kind) (parseAttribute env allowInvalidMetadata obj' a)
      (parseAttribute env allowInvalidMetadata obj a) := by
  unfold Irrd.Rpsl.parseAttribute
  rw [h.objectClass, h.objectClass', RPSLObjectClass.field?_mapKinds]
  rcases hfield : c.field? a.name with _ | f
  · exact ⟨rfl, rfl, h.strictValidation, h.defaultSource, h.errors,
      by simp only [h.objectData], h.parsedData, h.resources⟩
  · obtain ⟨hcase, hparse⟩ := hkinds f (mem_of_field? hfield).1
    simp only [Option.map_some]
    rw [h.strictValidation]
    refine (hparse _ _).bind (fun o' o ho ↦ ?_)
    obtain ⟨result', fieldMessages'⟩ := o'
    obtain ⟨result, fieldMessages⟩ := o
    obtain ⟨rfl, hmessages⟩ := ho
    have herrors : RPSLParserMessages.errors (if f.raisesErrors obj.strictValidation then
          obj'.messages ++ fieldMessages' else obj'.messages) = [] ↔
        RPSLParserMessages.errors (if f.raisesErrors obj.strictValidation then
          obj.messages ++ fieldMessages else obj.messages) = [] := by
      split
      · simp only [errors_append, List.append_eq_nil_iff]
        exact and_congr h.errors hmessages
      · exact h.errors
    cases result' with
    | none =>
      exact ⟨rfl, rfl, rfl, h.defaultSource, herrors,
        by simp only [h.objectData], h.parsedData, h.resources⟩
    | some r =>
      have hstore : storeValue { f with kind := kind f } a.name r obj'.parsedData =
          storeValue f a.name r obj.parsedData := by
        simp only [storeValue, hcase, h.parsedData]
      have hupdate : updateResources { f with kind := kind f } allowInvalidMetadata
          obj'.resources r =
          updateResources f allowInvalidMetadata obj.resources r := by
        rw [h.resources]
        rfl
      dsimp only
      rw [hstore, hupdate]
      cases storeValue f a.name r obj.parsedData with
      | error e => rfl
      | ok parsedData =>
        cases updateResources f allowInvalidMetadata obj.resources r with
        | error e => rfl
        | ok resources =>
          exact ⟨rfl, rfl, rfl, h.defaultSource, herrors,
            by simp only [h.objectData], rfl, rfl⟩

theorem withDefaultSource (h : SameUpToMessages c kind obj' obj) :
    SameUpToMessages c kind obj'.withDefaultSource obj.withDefaultSource := by
  unfold ParsedObject.withDefaultSource
  rw [h.parsedData, h.defaultSource]
  split
  · exact ⟨h.objectClass, h.objectClass', h.strictValidation, rfl, h.errors, h.objectData, rfl,
      h.resources⟩
  · exact h

theorem addError (h : SameUpToMessages c kind obj' obj) (message : String) :
    SameUpToMessages c kind (obj'.addError message) (obj.addError message) := by
  refine ⟨h.objectClass, h.objectClass', h.strictValidation, h.defaultSource, ?_, h.objectData,
    h.parsedData, h.resources⟩
  have hadded (messages : RPSLParserMessages) :
      RPSLParserMessages.errors (messages ++ [(.error, message)]) ≠ [] := by
    rw [errors_append]
    exact fun hnil ↦ by simpa [RPSLParserMessages.errors] using (List.append_eq_nil_iff.mp hnil).2
  exact iff_of_false (hadded _) (hadded _)

theorem updateAttributeValue (h : SameUpToMessages c kind obj' obj) (attr : String)
    (newValues : List (List Char)) (flatten : Bool) :
    SameUpToMessages c kind (obj'.updateAttributeValue attr newValues flatten)
      (obj.updateAttributeValue attr newValues flatten) := by
  unfold ParsedObject.updateAttributeValue
  exact ⟨h.objectClass, h.objectClass', h.strictValidation, h.defaultSource, h.errors,
    by simp only [h.objectData], by simp only [h.parsedData], h.resources⟩

theorem textOf (h : SameUpToMessages c kind obj' obj) (key : String) :
    obj'.textOf key = obj.textOf key := by
  unfold ParsedObject.textOf
  rw [h.parsedData]

theorem values (h : SameUpToMessages c kind obj' obj) (key : String) :
    obj'.values key = obj.values key := by
  unfold ParsedObject.values
  rw [h.parsedData]

theorem clean (h : SameUpToMessages c kind obj' obj) :
    SameUpToMessages c kind (obj'.clean env) (obj.clean env) := by
  have hname : obj'.rpslObjectClass = obj.rpslObjectClass := by
    unfold ParsedObject.rpslObjectClass
    rw [h.objectClass, h.objectClass', RPSLObjectClass.rpslObjectClass_mapKinds]
  unfold ParsedObject.clean
  rw [hname]
  split
  · unfold ParsedObject.cleanMntner ParsedObject.authHashes
    rw [h.values]
    dsimp only
    split
    · exact h.addError _
    · exact h
  · split
    · unfold ParsedObject.cleanKeyCert
      rw [h.values, h.textOf]
      dsimp only
      split
      · split
        · exact h.addError _
        · exact ((h.updateAttributeValue _ _ _).updateAttributeValue _ _ _).updateAttributeValue
            _ _ _
      · exact h.addError _
    · exact h

theorem cleanIfValid (h : SameUpToMessages c kind obj' obj) :
    SameUpToMessages c kind (obj'.cleanIfValid env) (obj.cleanIfValid env) := by
  have hvalid : (obj'.strictValidation ∧ obj'.errors = []) ↔
      (obj.strictValidation ∧ obj.errors = []) := by
    rw [h.strictValidation, h.errors]
  unfold ParsedObject.cleanIfValid
  by_cases hclean : obj.strictValidation ∧ obj.errors = []
  · rw [if_pos hclean, if_pos (hvalid.mpr hclean)]
    exact h.clean
  · rw [if_neg hclean, if_neg (fun h' ↦ hclean (hvalid.mp h'))]
    exact h

theorem validateObject (hkinds : KindsAgree env c kind) (h : SameUpToMessages c kind obj' obj) :
    Agree (SameUpToMessages c kind) (validateObject env obj') (validateObject env obj) := by
  have hcounts := h.validateCounts
  have hallow : decide (obj'.validateCounts.errors ≠ []) =
      decide (obj.validateCounts.errors ≠ []) :=
    decide_eq_decide.mpr (not_congr hcounts.errors)
  unfold Irrd.Rpsl.validateObject parseAttributeData
  rw [hallow, hcounts.objectData]
  have hstart : SameUpToMessages c kind { obj'.validateCounts with objectData := [] }
      { obj.validateCounts with objectData := [] } :=
    ⟨hcounts.objectClass, hcounts.objectClass', hcounts.strictValidation, hcounts.defaultSource,
      hcounts.errors, rfl, hcounts.parsedData, hcounts.resources⟩
  exact ((Agree.foldlM (fun _ _ a hobj ↦ hobj.parseAttribute hkinds _ a) _ hstart).map
    (fun _ _ hobj ↦ hobj.withDefaultSource)).map (fun _ _ hobj ↦ hobj.cleanIfValid)

end ParsedObject.SameUpToMessages

end Objects

end Irrd.Rpsl
