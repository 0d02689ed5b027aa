import Irrd.Rpsl.ParserExceptions

/-!
# Objects without errors

A value that is not parsed leaves an error, so an object without errors has a parsed value for
every attribute whose errors count: its keys, its source, and in strict mode everything.
-/

namespace Irrd.Rpsl

open Irrd.Base Irrd.Utils

section Errors

/-- Errors of messages one after the other. -/
@[simp] theorem errors_append (messages later : RPSLParserMessages) :
    RPSLParserMessages.errors (messages ++ later) = messages.errors ++ later.errors := by
  simp [RPSLParserMessages.errors]

/-- A value that is not parsed leaves an error. -/
def FailsWithError (o : FieldOutcome) : Prop := o.1 = none → RPSLParserMessages.errors o.2 ≠ []

theorem failsWithError_invalid (message : String) : FailsWithError (invalid message) := by
  intro _ h
  simp [invalid, RPSLParserMessages.errors] at h

theorem failsWithError_of_some {o : FieldOutcome} {r : RPSLFieldParseResult} (h : o.1 = some r) :
    FailsWithError o := by
  intro hnone
  rw [h] at hnone
  cases hnone

theorem failsWithError_parsed (value : List Char) (resources : Resources) (reformatted : Bool)
    (message : String) : FailsWithError (parsed value resources reformatted message) :=
  failsWithError_of_some rfl

theorem failsWithError_unchanged (value : List Char) : FailsWithError (unchanged value) :=
  failsWithError_of_some rfl

/-- A list that is not parsed has an element that is not parsed. -/
theorem failsWithError_listFieldParse {parseOne : List Char → Except ParserException FieldOutcome}
    (hone : ∀ v o, parseOne v = .ok o → FailsWithError o) {value : List Char} {o : FieldOutcome}
    (ho : listFieldParse parseOne value = .ok o) : FailsWithError o := by
  unfold listFieldParse at ho
  obtain ⟨outcomes, houtcomes, hrest⟩ := bind_eq_ok_iff.mp ho
  dsimp only at hrest
  split at hrest
  · next hnone =>
    cases hrest
    intro _
    obtain ⟨outcome, houtcome, hfst⟩ := mapM_eq_none_iff.mp hnone
    obtain ⟨v, -, hv⟩ := exists_of_mem_mapM houtcomes houtcome
    have herrors := hone v outcome hv hfst
    intro hnil
    apply herrors
    have hsub : (RPSLParserMessages.errors outcome.2).Sublist
        (RPSLParserMessages.errors (outcomes.map Prod.snd).flatten) := by
      refine List.Sublist.map _ (List.Sublist.filter _ ?_)
      exact List.sublist_flatten_of_mem (List.mem_map_of_mem houtcome)
    rw [hnil] at hsub
    exact List.sublist_nil.mp hsub
  · cases hrest
    exact failsWithError_of_some rfl

/-- A set name that is not parsed leaves an error. -/
theorem failsWithError_parseSetName (prefixes : List String) (value : List Char)
    (strictValidation : Bool) : FailsWithError (parseSetName prefixes value strictValidation) := by
  simp only [parseSetName]
  split
  · exact failsWithError_invalid _
  · split
    · exact failsWithError_invalid _
    · split
      · exact failsWithError_invalid _
      · exact failsWithError_parsed _ _ _ _

/-- A route set member that is not parsed leaves an error. -/
theorem failsWithError_routeSetMemberFieldParse (env : Environment) (ipVersion : Nat)
    (value : List Char) (strictValidation : Bool) :
    FailsWithError (routeSetMemberFieldParse env ipVersion value strictValidation) := by
  simp only [routeSetMemberFieldParse]
  repeat' split
  all_goals first
    | exact failsWithError_invalid _
    | exact failsWithError_parsed _ _ _ _

variable (env : Environment)

/-- Kinds of fields that refer to other objects. -/
def FieldKind.isReference : FieldKind → Bool
  | .reference _ | .referenceList .. => true
  | _ => false

/-- A value of a field that is no reference leaves an error if it is not parsed. -/
theorem failsWithError_parseDirect {kind : FieldKind} (hkind : kind.isReference = false)
    {value : List Char} {strictValidation : Bool} {o : FieldOutcome}
    (ho : kind.parseDirect env value strictValidation = .ok o) : FailsWithError o := by
  have hok {o' : FieldOutcome} (h : (Except.ok o' : Except ParserException FieldOutcome) = .ok o) :
      o' = o := by
    cases h
    rfl
  cases kind with
  | reference referring => cases hkind
  | referenceList referring allowKwAny strong => cases hkind
  | ipv4Prefixes =>
    refine failsWithError_listFieldParse (fun v o' h ↦ ?_) ho
    cases h
    simp only [ipv4PrefixFieldParse, ipPrefixFieldParse]
    repeat' split
    all_goals first
      | exact failsWithError_invalid _
      | exact failsWithError_parsed _ _ _ _
  | ipv6Prefixes =>
    refine failsWithError_listFieldParse (fun v o' h ↦ ?_) ho
    cases h
    simp only [ipv6PrefixFieldParse, ipPrefixFieldParse]
    repeat' split
    all_goals first
      | exact failsWithError_invalid _
      | exact failsWithError_parsed _ _ _ _
  | routeSetMembers ipVersion =>
    refine failsWithError_listFieldParse (fun v o' h ↦ ?_) ho
    cases h
    exact failsWithError_routeSetMemberFieldParse env ipVersion v strictValidation
  | setName setPrefix =>
    cases hok ho
    exact failsWithError_parseSetName _ _ _
  | url =>
    simp only [FieldKind.parseDirect, urlFieldParse] at ho
    split at ho
    · next outcome houtcome =>
      obtain ⟨⟨scheme, netloc⟩, -, rfl⟩ := Option.map_eq_some_iff.mp houtcome
      cases hok ho
      dsimp only
      split
      · exact failsWithError_unchanged _
      · exact failsWithError_invalid _
    · cases ho
  | _ =>
    cases hok ho
    simp only [ipv4PrefixFieldParse, ipv6PrefixFieldParse, ipPrefixFieldParse, textFieldParse,
      ipv4AddressRangeFieldParse, asNumberFieldParse, asBlockFieldParse, emailFieldParse,
      changedFieldParse, dnsNameFieldParse, genericNameFieldParse, authFieldParse]
    repeat' split
    all_goals first
      | exact failsWithError_invalid _
      | exact failsWithError_parsed _ _ _ _
      | exact failsWithError_unchanged _

/-- Every class that a field refers to has a field that identifies its objects. -/
theorem identifierField_of_referring : ∀ c ∈ objectClasses, ∀ f ∈ c.fields, f.kind.isReference →
    f.kind.referring ≠ [] ∧ ∀ name ∈ f.kind.referring, (identifierField name).isSome := by
  decide

/-- A field that identifies objects is no reference. -/
theorem not_isReference_of_key : ∀ c ∈ objectClasses, ∀ f ∈ c.fields, f.primaryKey → f.lookupKey →
    f.kind.isReference = false := by
  decide

/-- A reference that is not parsed leaves an error. -/
theorem failsWithError_referenceFieldParse {value : List Char} {strictValidation : Bool}
    {referring : List String} {messages : RPSLParserMessages} {o : FieldOutcome}
    (hnames : ∀ name ∈ referring, (identifierField name).isSome)
    (hmessages : referring ≠ [] ∨ messages.errors ≠ [])
    (ho : referenceFieldParse env value strictValidation referring messages = .ok o) :
    FailsWithError o := by
  induction referring generalizing messages with
  | nil =>
    cases ho
    exact fun _ ↦ hmessages.resolve_left (fun h ↦ h rfl)
  | cons name referring ih =>
    obtain ⟨hname, hnames⟩ := List.forall_mem_cons.mp hnames
    obtain ⟨f, hf⟩ := Option.isSome_iff_exists.mp hname
    simp only [referenceFieldParse, hf] at ho
    obtain ⟨c, hc, hfc, hprimary, hlookup⟩ := mem_of_identifierField hf
    obtain ⟨⟨result, fieldMessages⟩, hresult, hrest⟩ := bind_eq_ok_iff.mp ho
    cases result with
    | some r =>
      cases hrest
      exact failsWithError_of_some rfl
    | none =>
      have hfailed := failsWithError_parseDirect env
        (not_isReference_of_key c hc f hfc hprimary hlookup) hresult rfl
      refine ih hnames (.inr ?_) hrest
      rw [errors_append]
      exact fun h ↦ hfailed (List.append_eq_nil_iff.mp h).2

/-- A value of a field of a class leaves an error if it is not parsed. -/
theorem failsWithError_parse {c : RPSLObjectClass} (hc : c ∈ objectClasses) {f : RPSLField}
    (hf : f ∈ c.fields) {value : List Char} {strictValidation : Bool} {o : FieldOutcome}
    (ho : f.kind.parse env value strictValidation = .ok o) : FailsWithError o := by
  have hreferring := identifierField_of_referring c hc f hf
  generalize f.kind = kind at ho hreferring
  cases kind with
  | reference referring =>
    obtain ⟨hne, hnames⟩ := hreferring rfl
    exact failsWithError_referenceFieldParse env hnames (.inl hne) ho
  | referenceList referring allowKwAny strong =>
    obtain ⟨hne, hnames⟩ := hreferring rfl
    simp only [FieldKind.parse] at ho
    split at ho
    · cases ho
      exact failsWithError_of_some rfl
    · exact failsWithError_listFieldParse (fun v o' h ↦
        failsWithError_referenceFieldParse env hnames (.inl hne) h) ho
  | _ =>
    unfold FieldKind.parse at ho
    exact failsWithError_parseDirect env rfl ho

end Errors

section Stored

variable {env : Environment} {allowInvalidMetadata : Bool} {obj obj' : ParsedObject}
  {a : Attribute} {d d' : ParsedData}

/-- The data that one has, another has too. -/
def ParsedData.Within (d d' : ParsedData) : Prop :=
  ∀ key, (d.get key).isSome → (d'.get key).isSome

theorem ParsedData.within_set (d : ParsedData) (key : List Char) (v : ParsedValue) :
    d.Within (d.set key v) := by
  intro key' hkey'
  rw [ParsedData.get_set]
  split
  · rfl
  · exact hkey'

/-- Storing a value adds its key to the data. -/
theorem storeValue_eq_ok {f : RPSLField} {attr : List Char} {r : RPSLFieldParseResult}
    (h : storeValue f attr r d = .ok d') : ∃ v, d' = d.set attr v := by
  simp only [storeValue] at h
  repeat' split at h
  all_goals first
    | exact ⟨_, (Except.ok.inj h).symm⟩
    | cases h

/-- An object without errors after an attribute had none before, and has a value of the attribute
if its errors count. -/
theorem parseAttribute_valid (hc : obj.objectClass ∈ objectClasses)
    (h : parseAttribute env allowInvalidMetadata obj a = .ok obj') :
    obj.parsedData.Within obj'.parsedData ∧ (obj'.errors = [] → obj.errors = [] ∧
      ∀ f, obj.objectClass.field? a.name = some f → f.raisesErrors obj.strictValidation →
        (obj'.parsedData.get a.name).isSome) := by
  cases hf : obj.objectClass.field? a.name with
  | none =>
    rw [parseAttribute_of_no_field hf] at h
    cases h
    exact ⟨fun _ h ↦ h, fun hvalid ↦ ⟨hvalid, by simp⟩⟩
  | some f =>
    have hmessages {messages : RPSLParserMessages} (hvalid :
        RPSLParserMessages.errors (obj.messagesWith f messages) = []) :
        obj.errors = [] ∧ (f.raisesErrors obj.strictValidation → messages.errors = []) := by
      unfold ParsedObject.messagesWith at hvalid
      split at hvalid
      · rw [errors_append] at hvalid
        have hnil := List.append_eq_nil_iff.mp hvalid
        exact ⟨hnil.1, fun _ ↦ hnil.2⟩
      · next hraises => exact ⟨hvalid, fun h ↦ absurd h hraises⟩
    cases ho : f.kind.parse env (normaliseRpslValue a.value) obj.strictValidation with
    | error e =>
      rw [parseAttribute_of_error hf ho] at h
      cases h
    | ok o =>
      obtain ⟨result, fieldMessages⟩ := o
      cases result with
      | none =>
        rw [parseAttribute_of_none hf ho] at h
        cases h
        refine ⟨fun _ h ↦ h, fun hvalid ↦ ?_⟩
        obtain ⟨hbefore, hfield⟩ := hmessages hvalid
        refine ⟨hbefore, fun f' hf' hraises ↦ ?_⟩
        cases hf'
        exact absurd (hfield hraises) (failsWithError_parse env hc (mem_of_field? hf).1 ho rfl)
      | some r =>
        cases hstore : storeValue f a.name r obj.parsedData with
        | error e =>
          simp only [parseAttribute, hf, ho, hstore, bind, Except.bind] at h
          cases h
        | ok parsedData =>
          rw [parseAttribute_of_some hf ho hstore] at h
          cases hupdate : updateResources f allowInvalidMetadata obj.resources r with
          | error e =>
            rw [hupdate] at h
            cases h
          | ok resources =>
            rw [hupdate] at h
            cases h
            obtain ⟨v, rfl⟩ := storeValue_eq_ok hstore
            refine ⟨ParsedData.within_set _ _ _, fun hvalid ↦ ⟨(hmessages hvalid).1, ?_⟩⟩
            intro f' _ _
            simp [ParsedData.get_set]

/-- An object without errors has a value of every attribute whose errors count. -/
theorem foldlM_parseAttribute_valid {data : List Attribute}
    (hc : obj.objectClass ∈ objectClasses)
    (hd : StoredAsLists obj.objectClass obj.parsedData)
    (h : data.foldlM (parseAttribute env allowInvalidMetadata) obj = .ok obj') :
    obj'.objectClass = obj.objectClass ∧ obj'.strictValidation = obj.strictValidation ∧
      obj'.defaultSource = obj.defaultSource ∧ StoredAsLists obj'.objectClass obj'.parsedData ∧
      obj.parsedData.Within obj'.parsedData ∧ (obj'.errors = [] → obj.errors = [] ∧
        ∀ a ∈ data, ∀ f, obj.objectClass.field? a.name = some f →
          f.raisesErrors obj.strictValidation → (obj'.parsedData.get a.name).isSome) := by
  induction data generalizing obj with
  | nil =>
    cases h
    exact ⟨rfl, rfl, rfl, hd, fun _ h ↦ h, fun hvalid ↦ ⟨hvalid, by simp⟩⟩
  | cons a data ih =>
    rw [List.foldlM_cons] at h
    obtain ⟨obj'', ha, hrest⟩ := bind_eq_ok_iff.mp h
    obtain ⟨hclass, hstrict, hsource, hstored, -⟩ :=
      (parseAttribute_spec env allowInvalidMetadata a hc hd).2 obj'' ha
    obtain ⟨hwithin, hvalid⟩ := parseAttribute_valid hc ha
    obtain ⟨hclass', hstrict', hsource', hstored', hwithin', hvalid'⟩ :=
      ih (hclass ▸ hc) hstored hrest
    refine ⟨hclass'.trans hclass, hstrict'.trans hstrict, hsource'.trans hsource, hstored',
      fun key hkey ↦ hwithin' key (hwithin key hkey), fun herrors ↦ ?_⟩
    obtain ⟨herrors', hlater⟩ := hvalid' herrors
    obtain ⟨hbefore, hfirst⟩ := hvalid herrors'
    rw [hclass, hstrict] at hlater
    exact ⟨hbefore, List.forall_mem_cons.mpr
      ⟨fun f hf hraises ↦ hwithin' _ (hfirst f hf hraises), hlater⟩⟩

end Stored

section Valid

variable {env : Environment}

/-- The attributes that an object has to have. -/
def requiredAttributes (c : RPSLObjectClass) (strictValidation : Bool) : List String :=
  if strictValidation then c.attrsRequired else c.pkFields

/-- Cleaning an object keeps its data, and removes no errors. -/
theorem clean_frame (obj : ParsedObject) :
    (obj.clean env).objectClass = obj.objectClass ∧
      obj.parsedData.Within (obj.clean env).parsedData ∧
      ((obj.clean env).errors = [] → obj.errors = []) := by
  have hadd (o : ParsedObject) (message : String) : (o.addError message).errors ≠ [] := by
    simp [ParsedObject.errors, ParsedObject.addError, RPSLParserMessages.errors]
  have hself : obj.objectClass = obj.objectClass ∧ obj.parsedData.Within obj.parsedData ∧
      (obj.errors = [] → obj.errors = []) := ⟨rfl, fun _ h ↦ h, fun h ↦ h⟩
  have herror (message : String) : (obj.addError message).objectClass = obj.objectClass ∧
      obj.parsedData.Within (obj.addError message).parsedData ∧
      ((obj.addError message).errors = [] → obj.errors = []) :=
    ⟨rfl, fun _ h ↦ h, fun h ↦ absurd h (hadd obj message)⟩
  unfold ParsedObject.clean
  split
  · simp only [ParsedObject.cleanMntner]
    split
    · exact herror _
    · exact hself
  · split
    · simp only [ParsedObject.cleanKeyCert]
      split
      · split
        · exact herror _
        · refine ⟨rfl, fun key hkey ↦ ?_, fun h ↦ h⟩
          exact ParsedData.within_set _ _ _ key (ParsedData.within_set _ _ _ key
            (ParsedData.within_set _ _ _ key hkey))
      · exact herror _
    · exact hself

/-- The required attributes of a class are among its fields, and their errors count. -/
theorem field?_of_required : ∀ c ∈ objectClasses, ∀ strictValidation,
    ∀ name ∈ requiredAttributes c strictValidation ++ ["source"],
      ∃ f, c.field? name.toList = some f ∧ f.raisesErrors strictValidation := by
  decide

/-- An object without errors in its counts has the attributes that it has to have. -/
theorem mem_of_validateAttributeCounts {obj : ParsedObject}
    (h : RPSLParserMessages.errors obj.validateAttributeCounts = []) :
    ∀ name ∈ requiredAttributes obj.objectClass obj.strictValidation ++
      (if obj.strictValidation ∨ obj.defaultSource ≠ [] then [] else ["source"]),
      name.toList ∈ obj.objectData.map Attribute.name := by
  have hmissing {required : List String} {message : String → String}
      (hnil : RPSLParserMessages.errors ((required.filter (fun attr ↦
        attr.toList ∉ obj.objectData.map Attribute.name)).map (fun attr ↦
          (MessageLevel.error, message attr))) = []) :
      ∀ name ∈ required, name.toList ∈ obj.objectData.map Attribute.name := by
    intro name hname
    by_contra hnot
    have hmem : message name ∈ RPSLParserMessages.errors ((required.filter (fun attr ↦
        attr.toList ∉ obj.objectData.map Attribute.name)).map (fun attr ↦
          (MessageLevel.error, message attr))) := by
      unfold RPSLParserMessages.errors
      refine List.mem_map.mpr ⟨(.error, message name), List.mem_filter.mpr ⟨?_, rfl⟩, rfl⟩
      exact List.mem_map_of_mem (List.mem_filter.mpr ⟨hname, by simpa using hnot⟩)
    rw [hnil] at hmem
    cases hmem
  simp only [ParsedObject.validateAttributeCounts] at h
  unfold requiredAttributes
  cases hstrict : obj.strictValidation with
  | true =>
    rw [hstrict] at h
    simp only [if_true] at h
    rw [errors_append] at h
    have hrequired := hmissing (List.append_eq_nil_iff.mp h).2
    simpa using hrequired
  | false =>
    rw [hstrict] at h
    simp only [Bool.false_eq_true, if_false] at h
    have hrequired := hmissing h
    by_cases hsource : obj.defaultSource = []
    · simpa [hsource] using hrequired
    · simpa [hsource] using hrequired

/-- The default source adds to the data at most. -/
theorem withDefaultSource_frame (obj : ParsedObject) :
    obj.withDefaultSource.objectClass = obj.objectClass ∧
      obj.withDefaultSource.messages = obj.messages ∧
      obj.parsedData.Within obj.withDefaultSource.parsedData ∧
      (obj.defaultSource ≠ [] →
        (obj.withDefaultSource.parsedData.get "source".toList).isSome) := by
  unfold ParsedObject.withDefaultSource
  split
  · refine ⟨rfl, rfl, ParsedData.within_set _ _ _, fun _ ↦ ?_⟩
    rw [ParsedData.get_set, if_pos rfl]
    rfl
  · next hnot =>
    refine ⟨rfl, rfl, fun _ h ↦ h, fun hsource ↦ ?_⟩
    by_contra hnone
    exact hnot ⟨by simpa using hnone, hsource⟩

/-- Cleaning where there are no errors keeps the data, and removes no errors. -/
theorem cleanIfValid_frame (env : Environment) (obj : ParsedObject) :
    (obj.cleanIfValid env).objectClass = obj.objectClass ∧
      obj.parsedData.Within (obj.cleanIfValid env).parsedData ∧
      ((obj.cleanIfValid env).errors = [] → obj.errors = []) := by
  unfold ParsedObject.cleanIfValid
  split
  · exact clean_frame obj
  · exact ⟨rfl, fun _ h ↦ h, fun h ↦ h⟩

/-- The parts of a validated object. -/
theorem validateObject_eq_ok {obj obj' : ParsedObject} (h : validateObject env obj = .ok obj') :
    ∃ parsed, obj.validateCounts.objectData.foldlM
      (parseAttribute env (decide (obj.validateCounts.errors ≠ [])))
        { obj.validateCounts with objectData := [] } = .ok parsed ∧
      obj' = (parsed.withDefaultSource).cleanIfValid env := by
  unfold validateObject parseAttributeData at h
  cases hparsed : obj.validateCounts.objectData.foldlM
      (parseAttribute env (decide (obj.validateCounts.errors ≠ [])))
      { obj.validateCounts with objectData := [] } with
  | error e =>
    rw [hparsed] at h
    cases h
  | ok parsed =>
    rw [hparsed] at h
    cases h
    exact ⟨parsed, rfl, rfl⟩

/-- The object of a text before its attributes are parsed stores everything properly. -/
theorem storedAsLists_countedObject (c : RPSLObjectClass) (text : List Char)
    (strictValidation : Bool) (defaultSource : Option (List Char)) :
    StoredAsLists (countedObject c text strictValidation defaultSource).objectClass
      (countedObject c text strictValidation defaultSource).parsedData := by
  rw [(countedObject_frame c text strictValidation defaultSource).2.2.1]
  intro attr f _ _ v hv
  cases hv

/-- Parsing keeps the class of an object. -/
theorem objectClass_validateObject {c : RPSLObjectClass} (hc : c ∈ objectClasses)
    {text : List Char} {strictValidation : Bool} {defaultSource : Option (List Char)}
    {obj : ParsedObject}
    (h : validateObject env (extractObject c text strictValidation defaultSource) = .ok obj) :
    obj.objectClass = c := by
  have hclass := (countedObject_frame c text strictValidation defaultSource).1
  obtain ⟨parsed, hparsed, rfl⟩ := validateObject_eq_ok h
  change (countedObject c text strictValidation defaultSource).objectData.foldlM _
    { countedObject c text strictValidation defaultSource with objectData := [] } = _ at hparsed
  have hfold := foldlM_parseAttribute_valid (by rwa [hclass])
    (by exact storedAsLists_countedObject c text strictValidation defaultSource) hparsed
  rw [(cleanIfValid_frame env _).1, (withDefaultSource_frame _).1]
  exact hfold.1.trans hclass

/-- The class of a parsed object is the one that its text names. -/
theorem objectClass_of_ok {text : List Char} {strictValidation : Bool}
    {defaultSource : Option (List Char)} {obj : ParsedObject}
    (h : rpslObjectFromText env text strictValidation defaultSource = .ok obj) :
    findClass (strip (beforeFirst ':' text)) = some obj.objectClass := by
  unfold rpslObjectFromText at h
  dsimp only at h
  split at h
  · cases h
  · next c hc => rw [hc, objectClass_validateObject (mem_of_findClass hc) h]

/-- An object without errors before its attributes are parsed has the attributes that it has to
have. -/
theorem mem_of_countedObject {c : RPSLObjectClass} {text : List Char} {strictValidation : Bool}
    {defaultSource : Option (List Char)}
    (h : (countedObject c text strictValidation defaultSource).errors = []) :
    ∀ name ∈ requiredAttributes c strictValidation ++
      (if strictValidation ∨
        (countedObject c text strictValidation defaultSource).defaultSource ≠ [] then []
        else ["source"]),
      name.toList ∈ (countedObject c text strictValidation defaultSource).objectData.map
        Attribute.name := by
  unfold countedObject ParsedObject.validateCounts at h ⊢
  split at h
  · next hextract =>
    rw [if_pos hextract]
    have hcounts := List.append_eq_nil_iff.mp ((errors_append _ _).symm.trans h)
    exact mem_of_validateAttributeCounts hcounts.2
  · next hextract => exact absurd h hextract

/-- The attributes that a strict object has to have include its source. -/
theorem source_mem_attrsRequired : ∀ c ∈ objectClasses, "source" ∈ c.attrsRequired := by
  decide

/-- An object without errors has a value of every required attribute, and a source. -/
theorem rpslObjectFromText_valid {text : List Char} {strictValidation : Bool}
    {defaultSource : Option (List Char)} {obj : ParsedObject}
    (h : rpslObjectFromText env text strictValidation defaultSource = .ok obj)
    (hvalid : obj.errors = []) :
    ∀ name ∈ requiredAttributes obj.objectClass strictValidation ++ ["source"],
      (obj.parsedData.get name.toList).isSome := by
  unfold rpslObjectFromText at h
  dsimp only at h
  split at h
  · cases h
  · next c hc =>
    have hmem := mem_of_findClass hc
    obtain ⟨parsed, hparsed, rfl⟩ := validateObject_eq_ok h
    obtain ⟨hclass, hstrict, -⟩ := countedObject_frame c text strictValidation defaultSource
    change (countedObject c text strictValidation defaultSource).objectData.foldlM _
      { countedObject c text strictValidation defaultSource with objectData := [] } = _ at hparsed
    obtain ⟨hclass', -, hsource', -, -, hfold⟩ := foldlM_parseAttribute_valid (by rwa [hclass])
      (by exact storedAsLists_countedObject c text strictValidation defaultSource) hparsed
    dsimp only at hclass' hsource' hfold
    rw [hclass, hstrict] at hfold
    obtain ⟨hclean, hcleanWithin, hcleanErrors⟩ :=
      cleanIfValid_frame env parsed.withDefaultSource
    obtain ⟨hdefault, hmessages, hdefaultWithin, hdefaultSource⟩ := withDefaultSource_frame parsed
    have hparsedErrors : parsed.errors = [] := by
      have herrors := hcleanErrors hvalid
      unfold ParsedObject.errors at herrors
      rwa [hmessages] at herrors
    obtain ⟨hcounted, hvalues⟩ := hfold hparsedErrors
    have hattributes := mem_of_countedObject hcounted
    have hpresent (name : String)
        (hname : name ∈ requiredAttributes c strictValidation ++ ["source"])
        (hattr : name.toList ∈ (countedObject c text strictValidation defaultSource).objectData.map
          Attribute.name) : (parsed.parsedData.get name.toList).isSome := by
      obtain ⟨a, ha, haname⟩ := List.mem_map.mp hattr
      obtain ⟨f, hf, hraises⟩ := field?_of_required c hmem strictValidation name hname
      rw [← haname] at hf ⊢
      exact hvalues a ha f hf hraises
    intro name hname
    rw [hclean, hdefault, hclass', hclass] at hname
    apply hcleanWithin
    rcases List.mem_append.mp hname with hrequired | hsource
    · exact hdefaultWithin _ (hpresent name hname (hattributes name
        (List.mem_append_left _ hrequired)))
    · cases List.mem_singleton.mp hsource
      by_cases hmode : strictValidation ∨
          (countedObject c text strictValidation defaultSource).defaultSource ≠ []
      · rcases hmode with hstrictMode | hdefaultMode
        · subst hstrictMode
          exact hdefaultWithin _ (hpresent "source" hname (hattributes "source"
            (List.mem_append_left _ (source_mem_attrsRequired c hmem))))
        · exact hdefaultSource (hsource' ▸ hdefaultMode)
      · refine hdefaultWithin _ (hpresent "source" hname (hattributes "source" ?_))
        rw [if_neg hmode]
        exact List.mem_append_right _ (List.mem_singleton.mpr rfl)

/-- An object without errors has a source. -/
theorem source_isSome {text : List Char} {strictValidation : Bool}
    {defaultSource : Option (List Char)} {obj : ParsedObject}
    (h : rpslObjectFromText env text strictValidation defaultSource = .ok obj)
    (hvalid : obj.errors = []) : obj.source.isSome := by
  unfold ParsedObject.source
  rw [Option.isSome_map]
  exact rpslObjectFromText_valid h hvalid "source"
    (List.mem_append_right _ (List.mem_singleton.mpr rfl))

end Valid

end Irrd.Rpsl
