import Irrd.Rpsl.ValidObjects
import Irrd.Storage.Models

/-!
# Importing objects

Mirrors parse objects from files and from NRTM operations, and ignore the ones that they
cannot use. Source: `irrd/mirroring/parsers.py`, `irrd/mirroring/nrtm_operation.py`. An exception
that is not handled ends the import.
-/

namespace Irrd.Mirroring.Parsers

open Irrd.Base Irrd.Rpsl Irrd.Storage Irrd.Utils

/-- Settings of an import, `irrd/mirroring/parsers.py:50–71`. -/
structure ImportSettings where
  source : List Char
  directErrorReturn : Bool
  strictValidationKeyCert : Bool
  objectClassFilter : Option (List String)

/-- What `parse_object` does with an object. -/
inductive ImportOutcome
  | accepted (obj : ParsedObject)
  | invalid (errors : List String)
  | wrongSource (found : List Char) (pk : List Char)
  | filtered
  | artifact
  | unknownClass (name : List Char)
  | importError (message : String)

/-- An operation has the text of an object, or its key. -/
inductive OperationContent
  | text (objectText : List Char)
  | key (rpslPk : List Char) (objectClass : String)

/-- `NRTMOperation`, `irrd/mirroring/nrtm_operation.py:12–51`. -/
structure NRTMOperation where
  source : List Char
  operation : DatabaseOperation
  content : OperationContent
  strictValidationKeyCert : Bool
  objectClassFilter : Option (List String)

/-- What `save` does with an operation. -/
inductive SaveOutcome
  | unknownClass (name : List Char)
  | filtered
  | invalid (errors : List String)
  | wrongSource (found : List Char)
  | upsert (obj : ParsedObject)
  | delete (rpslPk : List Char) (objectClass : String)
  | nothing

section Parsing

variable (env : Environment)

/-- Parse an object, and a key-cert once more in strict mode where that is set,
`irrd/mirroring/parsers.py:80–86`, `irrd/mirroring/nrtm_operation.py:57–68`. -/
def parseMirrored (strictValidationKeyCert : Bool) (text : List Char)
    (defaultSource : Option (List Char)) : Except ParserException ParsedObject := do
  let obj ← rpslObjectFromText env text false defaultSource
  if strictValidationKeyCert ∧ obj.rpslObjectClass = "key-cert" then
    rpslObjectFromText env text true defaultSource
  else return obj

/-- Whether a filter leaves a class out. -/
def leavesOut (filter : Option (List String)) (objectClass : String) : Bool :=
  filter.any (objectClass ∉ ·)

/-- A message for `RPSLImportError` where errors are returned, or else the outcome. -/
def orImportError (i : ImportSettings) (message : String) (outcome : ImportOutcome) :
    ImportOutcome :=
  if i.directErrorReturn then .importError message else outcome

/-- `parse_object`, `irrd/mirroring/parsers.py:73–137`. -/
def parseObject (i : ImportSettings) (rpslText : List Char) :
    Except ParserException ImportOutcome :=
  match parseMirrored env i.strictValidationKeyCert (strip rpslText) none with
  | .error (.unknownRPSLObjectClass name) =>
    if "*xx".toList.isPrefixOf name then .ok .artifact
    else .ok (orImportError i s!"Unknown object class: {display name}" (.unknownClass name))
  | .error e => .error e
  | .ok obj =>
    if obj.errors ≠ [] then
      .ok (orImportError i (s!"Parsing errors: {obj.errors}, original object text follows:\n"
        ++ display rpslText) (.invalid obj.errors))
    else
      match obj.source with
      | none => .error .noSource
      | some source =>
        if source ≠ i.source then
          .ok (orImportError i (s!"Invalid source {display source} for object {display obj.pk}, "
            ++ s!"expected {display i.source}") (.wrongSource source obj.pk))
        else if leavesOut i.objectClassFilter obj.rpslObjectClass then .ok .filtered
        else .ok (.accepted obj)

/-- `MirrorFileImportParser.run_import` over the paragraphs of a file: the outcomes, up to an error
that is returned. -/
def runImport (i : ImportSettings) : List (List Char) → Except ParserException (List ImportOutcome)
  | [] => .ok []
  | text :: texts => do
    let outcome ← parseObject env i text
    match outcome with
    | .importError message => return [.importError message]
    | outcome => return outcome :: (← runImport i texts)

/-- `NRTMOperation.save`, `irrd/mirroring/nrtm_operation.py:53–132`. -/
def NRTMOperation.save (o : NRTMOperation) : Except ParserException SaveOutcome :=
  match o.content with
  | .key rpslPk objectClass =>
    if leavesOut o.objectClassFilter objectClass then .ok .filtered
    else if o.operation = .delete then .ok (.delete rpslPk objectClass)
    else .ok .nothing
  | .text objectText =>
    let defaultSource := if o.operation = .delete then some o.source else none
    match parseMirrored env o.strictValidationKeyCert (strip objectText) defaultSource with
    | .error (.unknownRPSLObjectClass name) => .ok (.unknownClass name)
    | .error e => .error e
    | .ok obj =>
      if leavesOut o.objectClassFilter obj.rpslObjectClass then .ok .filtered
      else if obj.errors ≠ [] then .ok (.invalid obj.errors)
      else
        match obj.source with
        | none => .error .noSource
        | some source =>
          if upperText source ≠ o.source then .ok (.wrongSource source)
          else if o.operation = .addOrUpdate then .ok (.upsert obj)
          else .ok (.delete obj.pk obj.rpslObjectClass)

end Parsing

section Exceptions

variable {env : Environment} {strictValidationKeyCert : Bool} {text : List Char}
  {defaultSource : Option (List Char)}

/-- Parsing an object for a mirror raises no exception that is not handled: its text parses without
exceptions, and where it is parsed once more, then too. -/
def MirrorsWithoutException (env : Environment) (strictValidationKeyCert : Bool)
    (text : List Char) (defaultSource : Option (List Char)) : Prop :=
  ∀ c, findClass (strip (beforeFirst ':' text)) = some c →
    ParsesWithoutException env c text false defaultSource ∧
      (strictValidationKeyCert → c.rpslObjectClass = "key-cert" →
        ParsesWithoutException env c text true defaultSource)

/-- The outcomes of parsing an object for a mirror that are handled. -/
theorem parseMirrored_handled_iff :
    ((∃ obj, parseMirrored env strictValidationKeyCert text defaultSource = .ok obj) ∨
      ∃ name, parseMirrored env strictValidationKeyCert text defaultSource =
        .error (.unknownRPSLObjectClass name)) ↔
      MirrorsWithoutException env strictValidationKeyCert text defaultSource := by
  have hfirst := isHandled_iff env text false defaultSource
  have hsecond := isHandled_iff env text true defaultSource
  unfold IsHandled at hfirst hsecond
  unfold MirrorsWithoutException parseMirrored
  cases hc : findClass (strip (beforeFirst ':' text)) with
  | none =>
    refine iff_of_true (.inr ⟨strip (beforeFirst ':' text), ?_⟩) (by simp)
    simp only [rpslObjectFromText, hc, bind, Except.bind]
  | some c =>
    simp only [hc, Option.some_inj, forall_eq'] at hfirst hsecond ⊢
    cases hobj : rpslObjectFromText env text false defaultSource with
    | error e =>
      rw [hobj] at hfirst
      simp only [bind, Except.bind]
      rw [hfirst]
      refine ⟨fun hparses ↦ ?_, fun h ↦ h.1⟩
      rcases hfirst.mpr hparses with ⟨obj, h⟩ | ⟨name, h⟩
      · cases h
      · rw [rpslObjectFromText_of_findClass hc] at hobj
        cases h
        rcases validateObject_eq_error (mem_of_findClass hc) hobj with ⟨value, h⟩ | ⟨value, attr, h⟩
        · cases h
        · cases h
    | ok obj =>
      rw [hobj] at hfirst
      have hparses := hfirst.mp (.inl ⟨obj, rfl⟩)
      have hclass : obj.objectClass = c :=
        Option.some_inj.mp ((objectClass_of_ok hobj).symm.trans hc)
      have hname : obj.rpslObjectClass = c.rpslObjectClass :=
        congrArg RPSLObjectClass.rpslObjectClass hclass
      simp only [bind, Except.bind, hname, hparses, true_and]
      split
      · next hagain => simpa [hagain.1, hagain.2] using hsecond
      · next hagain =>
        refine iff_of_true (.inl ⟨obj, rfl⟩) (fun hkey hcert ↦ absurd ⟨hkey, hcert⟩ hagain)

/-- A mirrored object without errors has a source. -/
theorem parseMirrored_source {obj : ParsedObject}
    (h : parseMirrored env strictValidationKeyCert text defaultSource = .ok obj)
    (hvalid : obj.errors = []) : obj.source.isSome := by
  unfold parseMirrored at h
  obtain ⟨first, hfirst, hrest⟩ := bind_eq_ok_iff.mp h
  split at hrest
  · exact source_isSome hrest hvalid
  · cases hrest
    exact source_isSome hfirst hvalid

/-- An object in a file is imported or ignored exactly under this condition. -/
theorem parseObject_ok_iff (i : ImportSettings) (rpslText : List Char) :
    (∃ outcome, parseObject env i rpslText = .ok outcome) ↔
      MirrorsWithoutException env i.strictValidationKeyCert (strip rpslText) none := by
  rw [← parseMirrored_handled_iff]
  unfold parseObject
  cases hobj : parseMirrored env i.strictValidationKeyCert (strip rpslText) none with
  | error e =>
    cases e with
    | unknownRPSLObjectClass name =>
      refine iff_of_true ?_ (.inr ⟨name, rfl⟩)
      dsimp only
      split <;> exact ⟨_, rfl⟩
    | _ => simp
  | ok obj =>
    refine iff_of_true ?_ (.inl ⟨obj, rfl⟩)
    dsimp only
    split
    · exact ⟨_, rfl⟩
    · next hvalid =>
      obtain ⟨source, hsource⟩ :=
        Option.isSome_iff_exists.mp (parseMirrored_source hobj (not_not.mp hvalid))
      rw [hsource]
      dsimp only
      split_ifs <;> exact ⟨_, rfl⟩

/-- An operation is saved or ignored exactly under this condition. -/
theorem save_ok_iff (o : NRTMOperation) : (∃ outcome, o.save env = .ok outcome) ↔
    ∀ text, o.content = .text text → MirrorsWithoutException env o.strictValidationKeyCert
      (strip text) (if o.operation = .delete then some o.source else none) := by
  unfold NRTMOperation.save
  cases hcontent : o.content with
  | key rpslPk objectClass =>
    refine iff_of_true ?_ (by simp)
    dsimp only
    split_ifs <;> exact ⟨_, rfl⟩
  | text objectText =>
    simp only [OperationContent.text.injEq, forall_eq']
    rw [← parseMirrored_handled_iff]
    cases hobj : parseMirrored env o.strictValidationKeyCert (strip objectText)
        (if o.operation = .delete then some o.source else none) with
    | error e => cases e <;> simp
    | ok obj =>
      refine iff_of_true ?_ (.inl ⟨obj, rfl⟩)
      dsimp only
      split
      · exact ⟨_, rfl⟩
      · split
        · exact ⟨_, rfl⟩
        · next hvalid =>
          obtain ⟨source, hsource⟩ :=
            Option.isSome_iff_exists.mp (parseMirrored_source hobj (not_not.mp hvalid))
          rw [hsource]
          dsimp only
          split_ifs <;> exact ⟨_, rfl⟩

/-- An accepted object has no errors, and is one of the source. -/
theorem parseObject_accepted {i : ImportSettings} {rpslText : List Char} {obj : ParsedObject}
    (h : parseObject env i rpslText = .ok (.accepted obj)) :
    obj.errors = [] ∧ obj.source = some i.source := by
  have hor (message : String) {outcome : ImportOutcome} (hne : outcome ≠ .accepted obj) :
      orImportError i message outcome ≠ .accepted obj := by
    unfold orImportError
    split
    · simp
    · exact hne
  unfold parseObject at h
  split at h
  · split at h
    · cases h
    · exact absurd (Except.ok.inj h) (hor _ (by simp))
  · cases h
  · split at h
    · exact absurd (Except.ok.inj h) (hor _ (by simp))
    · next hvalid =>
      split at h
      · cases h
      · next source hsource =>
        split at h
        · exact absurd (Except.ok.inj h) (hor _ (by simp))
        · next hsame =>
          split at h
          · cases h
          · cases h
            exact ⟨not_not.mp hvalid, by rw [hsource, not_not.mp hsame]⟩

/-- The accepted objects of an import are those of its texts. -/
theorem accepted_of_runImport {i : ImportSettings} {texts : List (List Char)}
    {outcomes : List ImportOutcome} (h : runImport env i texts = .ok outcomes) {obj : ParsedObject}
    (hobj : .accepted obj ∈ outcomes) :
    ∃ text ∈ texts, parseObject env i text = .ok (.accepted obj) := by
  induction texts generalizing outcomes with
  | nil =>
    cases h
    cases hobj
  | cons text texts ih =>
    unfold runImport at h
    obtain ⟨outcome, houtcome, hrest⟩ := bind_eq_ok_iff.mp h
    have hcases : ImportOutcome.accepted obj = outcome ∨
        ∃ rest, runImport env i texts = .ok rest ∧ .accepted obj ∈ rest := by
      cases outcome with
      | importError message =>
        cases hrest
        simp at hobj
      | _ =>
        obtain ⟨rest, hothers, hall⟩ := bind_eq_ok_iff.mp hrest
        cases hall
        exact (List.mem_cons.mp hobj).imp id (fun hmem ↦ ⟨rest, hothers, hmem⟩)
    rcases hcases with rfl | ⟨rest, hothers, hmem⟩
    · exact ⟨text, List.mem_cons_self, houtcome⟩
    · obtain ⟨text', htext', hparse⟩ := ih hothers hmem
      exact ⟨text', List.mem_cons_of_mem _ htext', hparse⟩

section Examples

end Examples

end Exceptions

end Irrd.Mirroring.Parsers
