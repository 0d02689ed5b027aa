import Irrd.Rpsl.ValidObjects
import Irrd.Utils.Splitlines

/-!
# Rendered text

The lines of a rendered object: each attribute has one that begins with its name, and lines that
continue it. Source: `irrd/rpsl/parser.py`.
-/

namespace Irrd.Rpsl

open Irrd.Base Irrd.Utils

section Lines

/-- The lines of a value have no newlines, and do not end in a carriage return. -/
theorem mem_splitlineUnicodesafe {value line : List Char}
    (hline : line ∈ splitlineUnicodesafe value) : '\n' ∉ line ∧ line.getLast? ≠ some '\r' := by
  unfold splitlineUnicodesafe at hline
  split at hline
  · cases hline
  · obtain ⟨part, hpart, rfl⟩ := List.mem_map.mp hline
    refine ⟨fun h ↦ not_mem_of_mem_splitOn hpart (mem_of_mem_stripChars h), fun h ↦ ?_⟩
    exact getLast?_stripChars h (by simp)

end Lines

section Attributes

/-- The character that continues an attribute on its next line. -/
def continuationChar (a : Attribute) (line : List Char) (idx : Nat) : Char :=
  if line = [] then '+' else a.continuationChars.getD idx '+'

/-- The lines of an attribute. -/
def attributeLines (a : Attribute) : List (List Char) :=
  match splitlineUnicodesafe a.value with
  | [] => [a.name ++ [':']]
  | first :: rest =>
    (ljust (a.name ++ [':']) rpslAttributeTextWidth ++ first) ::
      rest.zipIdx.map (fun (line, idx) ↦
        continuationChar a line idx :: (List.replicate (rpslAttributeTextWidth - 1) ' ' ++ line))

/-- Rendering writes the lines of an attribute. -/
theorem renderAttribute_eq (a : Attribute) :
    ParsedObject.renderAttribute a = newlineTerminated (attributeLines a) := by
  unfold ParsedObject.renderAttribute attributeLines newlineTerminated
  cases splitlineUnicodesafe a.value with
  | nil => simp
  | cons first rest => simp [List.flatMap_map, continuationChar]

/-- Rendering writes the lines of all attributes. -/
theorem renderRpslText_eq (obj : ParsedObject) :
    obj.renderRpslText = newlineTerminated (obj.objectData.flatMap attributeLines) := by
  unfold ParsedObject.renderRpslText
  induction obj.objectData with
  | nil => rfl
  | cons a data ih =>
    rw [List.flatMap_cons, List.flatMap_cons, newlineTerminated_append, ih, renderAttribute_eq]

/-- An attribute as the parser extracts it: with a name, and continued as it can be. -/
structure ProperAttribute (a : Attribute) : Prop where
  name : reAttrName a.name = true
  continued : ∀ c ∈ a.continuationChars, isContinuation c = true

theorem ProperAttribute.isContinuation {a : Attribute} (ha : ProperAttribute a)
    (line : List Char) (idx : Nat) : Rpsl.isContinuation (continuationChar a line idx) = true := by
  unfold continuationChar
  split
  · rfl
  · rw [List.getD_eq_getElem?_getD]
    cases hidx : a.continuationChars[idx]? with
    | none => rfl
    | some c => exact ha.continued c (List.mem_of_getElem? hidx)

/-- The characters of names do not continue attributes, end lines or end names. -/
theorem ProperAttribute.of_mem_name {a : Attribute} (ha : ProperAttribute a) {c : Char}
    (hc : c ∈ a.name) : Rpsl.isContinuation c = false ∧ c ∉ lineBreaks ∧ c ≠ ':' := by
  have hall := ha.name
  simp only [reAttrName, Bool.and_eq_true, List.all_eq_true] at hall
  have hchar := hall.2 c hc
  refine ⟨?_, ?_, ?_⟩
  · by_contra hnot
    simp only [Rpsl.isContinuation, Bool.not_eq_false, decide_eq_true_eq, List.mem_cons,
      List.not_mem_nil, or_false] at hnot
    rcases hnot with rfl | rfl | rfl <;> revert hchar <;> decide
  · intro hbreak
    simp only [lineBreaks, List.mem_cons, List.not_mem_nil, or_false] at hbreak
    rcases hbreak with rfl | rfl | rfl | rfl | rfl | rfl | rfl | rfl | rfl | rfl <;>
      revert hchar <;> decide
  · rintro rfl
    revert hchar
    decide

/-- The first line of an attribute begins with its name, the others continue it. -/
theorem attributeLines_spec {a : Attribute} (ha : ProperAttribute a) :
    ∃ first rest, attributeLines a = (a.name ++ ':' :: first) :: rest ∧
      ∀ line ∈ rest, ∃ c text, line = c :: text ∧ isContinuation c = true := by
  unfold attributeLines
  cases splitlineUnicodesafe a.value with
  | nil => exact ⟨[], [], rfl, by simp⟩
  | cons first rest =>
    have hfirst : ljust (a.name ++ [':']) rpslAttributeTextWidth ++ first = a.name ++ ':' ::
        (List.replicate (rpslAttributeTextWidth - (a.name ++ [':']).length) ' ' ++ first) := by
      simp [ljust]
    dsimp only
    rw [hfirst]
    refine ⟨_, _, rfl, fun line hline ↦ ?_⟩
    obtain ⟨⟨text, idx⟩, -, rfl⟩ := List.mem_map.mp hline
    exact ⟨_, _, rfl, ha.isContinuation text idx⟩

/-- The lines of an attribute have no newlines, and do not end in a carriage return. -/
theorem mem_attributeLines {a : Attribute} (ha : ProperAttribute a) {line : List Char}
    (hline : line ∈ attributeLines a) : '\n' ∉ line ∧ line.getLast? ≠ some '\r' := by
  have hname : '\n' ∉ a.name := fun h ↦ (ha.of_mem_name h).2.1 (by decide)
  have hlast {start text : List Char} (hstart : start.getLast? ≠ some '\r')
      (htext : text.getLast? ≠ some '\r') : (start ++ text).getLast? ≠ some '\r' := by
    rw [List.getLast?_append]
    cases hlast : text.getLast? with
    | none => simpa using hstart
    | some c => simpa [hlast] using htext
  have hspaces (n : Nat) : (List.replicate n ' ').getLast? ≠ some '\r' := by
    rw [List.getLast?_replicate]
    split <;> simp
  have hvalue {line : List Char} (h : line ∈ splitlineUnicodesafe a.value) :=
    mem_splitlineUnicodesafe h
  unfold attributeLines at hline
  generalize splitlineUnicodesafe a.value = lines at hline hvalue
  cases lines with
  | nil =>
    cases List.mem_singleton.mp hline
    exact ⟨by simp [hname], by simp⟩
  | cons first rest =>
    rcases List.mem_cons.mp hline with rfl | hline
    · obtain ⟨hnewline, hreturn⟩ := hvalue List.mem_cons_self
      refine ⟨by simp [ljust, hname, hnewline], hlast (hlast (by simp) (hspaces _)) hreturn⟩
    · obtain ⟨⟨text, idx⟩, hmem, rfl⟩ := List.mem_map.mp hline
      obtain ⟨hnewline, hreturn⟩ :=
        hvalue (List.mem_cons_of_mem _ (List.fst_mem_of_mem_zipIdx hmem))
      have hc := ha.isContinuation text idx
      dsimp only
      generalize continuationChar a text idx = c at hc
      have hne (d : Char) (hd : isContinuation d = false) : d ≠ c := by
        rintro rfl
        exact Bool.false_ne_true (hd.symm.trans hc)
      have hstart : [c].getLast? ≠ some '\r' := by
        simpa using (hne '\r' rfl).symm
      refine ⟨by simp [hnewline, hne '\n' rfl], ?_⟩
      have hrest : (List.replicate (rpslAttributeTextWidth - 1) ' ' ++ text).getLast? ≠ some '\r' :=
        hlast (hspaces _) hreturn
      exact hlast hstart hrest

end Attributes

section Accepted

/-- Objects with proper attributes only. -/
def ParsedObject.ProperAttributes (obj : ParsedObject) : Prop :=
  ∀ a ∈ obj.objectData, ProperAttribute a

/-- The attributes that classes allow have proper names. -/
theorem reAttrName_of_allowed : ∀ c ∈ objectClasses, ∀ name ∈ c.attrsAllowed,
    reAttrName name.toList = true := by
  decide

theorem mem_saveAttribute {c : RPSLObjectClass} {data : List Attribute} {current : Option Attribute}
    {a : Attribute} (ha : a ∈ saveAttribute c data current) : a ∈ data ∨ current = some a := by
  unfold saveAttribute at ha
  split at ha
  · split at ha
    · exact .inl ha
    · rcases List.mem_append.mp ha with ha | ha
      · exact .inl ha
      · exact .inr (by rw [List.mem_singleton.mp ha])
  · exact .inl ha

/-- Extracted attributes are proper. -/
theorem properAttribute_of_extractLines {c : RPSLObjectClass} (hc : c ∈ objectClasses)
    {lineNo : Nat} {data : List Attribute} {current : Option Attribute} {lines : List (List Char)}
    (hdata : ∀ a ∈ data, ProperAttribute a) (hcurrent : ∀ a ∈ current, ProperAttribute a) :
    ∀ a ∈ (extractLines c lineNo data current lines).1, ProperAttribute a := by
  have hsaved {current : Option Attribute} {data : List Attribute}
      (hdata : ∀ a ∈ data, ProperAttribute a) (hcurrent : ∀ a ∈ current, ProperAttribute a) :
      ∀ a ∈ saveAttribute c data current, ProperAttribute a := by
    intro a ha
    rcases mem_saveAttribute ha with ha | ha
    · exact hdata a ha
    · exact hcurrent a ha
  fun_induction extractLines c lineNo data current lines with
  | case1 lineNo data current => exact hsaved hdata hcurrent
  | case2 lineNo data current lines => exact hdata
  | case3 lineNo data current char rest lines hcontinues ih =>
    refine ih hdata ?_
    intro a ha
    obtain ⟨b, hb, rfl⟩ := Option.map_eq_some_iff.mp ha
    have hproper := hcurrent b hb
    refine ⟨hproper.name, fun d hd ↦ ?_⟩
    rcases List.mem_append.mp hd with hd | hd
    · exact hproper.continued d hd
    · rw [List.mem_singleton.mp hd]
      exact hcontinues
  | case4 lineNo data current char rest lines hcontinues saved hsplit =>
    exact hsaved hdata hcurrent
  | case5 lineNo data current char rest lines hcontinues saved attr value hsplit attr' hname =>
    exact hsaved hdata hcurrent
  | case6 lineNo data current char rest lines hcontinues saved attr value hsplit attr' hname ih =>
    refine ih (hsaved hdata hcurrent) ?_
    intro a ha
    cases ha
    refine ⟨?_, by simp⟩
    by_contra hnot
    refine hname ⟨fun hallowed ↦ ?_, hnot⟩
    obtain ⟨w, hw, hsame⟩ := List.any_eq_true.mp hallowed
    have hw' : w.toList = attr' := by simpa using hsame
    exact hnot (hw' ▸ reAttrName_of_allowed c hc w hw)

/-- Parsing an attribute keeps proper attributes proper. -/
theorem properAttributes_parseAttribute {env : Environment} {allowInvalidMetadata : Bool}
    {obj obj' : ParsedObject} {a : Attribute} (hobj : obj.ProperAttributes)
    (ha : ProperAttribute a) (h : parseAttribute env allowInvalidMetadata obj a = .ok obj') :
    obj'.ProperAttributes := by
  have hadded (value : List Char) : ∀ b ∈ obj.objectData ++ [{ a with value }],
      ProperAttribute b := by
    intro b hb
    rcases List.mem_append.mp hb with hb | hb
    · exact hobj b hb
    · rw [List.mem_singleton.mp hb]
      exact ⟨ha.name, ha.continued⟩
  unfold parseAttribute at h
  split at h
  · cases h
    exact hadded a.value
  · obtain ⟨⟨result, fieldMessages⟩, -, h⟩ := bind_eq_ok_iff.mp h
    cases result with
    | none =>
      cases h
      exact hadded a.value
    | some r =>
      obtain ⟨parsedData, -, h⟩ := bind_eq_ok_iff.mp h
      obtain ⟨resources, -, h⟩ := bind_eq_ok_iff.mp h
      cases h
      exact hadded _

theorem properAttributes_foldlM {env : Environment} {allowInvalidMetadata : Bool}
    {data : List Attribute} {obj obj' : ParsedObject} (hobj : obj.ProperAttributes)
    (hdata : ∀ a ∈ data, ProperAttribute a)
    (h : data.foldlM (parseAttribute env allowInvalidMetadata) obj = .ok obj') :
    obj'.ProperAttributes := by
  induction data generalizing obj with
  | nil =>
    cases h
    exact hobj
  | cons a data ih =>
    rw [List.foldlM_cons] at h
    obtain ⟨obj'', ha, hrest⟩ := bind_eq_ok_iff.mp h
    exact ih (properAttributes_parseAttribute hobj (hdata a List.mem_cons_self) ha)
      (fun b hb ↦ hdata b (List.mem_cons_of_mem _ hb)) hrest

/-- Setting an attribute with a proper name keeps proper attributes proper. -/
theorem properAttributes_updateAttributeValue {obj : ParsedObject} {attr : String}
    (hattr : reAttrName attr.toList = true) (hobj : obj.ProperAttributes)
    (newValues : List (List Char)) (flatten : Bool) :
    (obj.updateAttributeValue attr newValues flatten).ProperAttributes := by
  intro a ha
  rcases List.mem_append.mp ha with ha | ha
  · rcases List.mem_append.mp ha with ha | ha
    · exact hobj a (List.mem_of_mem_filter (List.mem_of_mem_take ha))
    · obtain ⟨value, -, rfl⟩ := List.mem_map.mp ha
      exact ⟨hattr, by simp⟩
  · exact hobj a (List.mem_of_mem_filter (List.mem_of_mem_drop ha))

/-- Cleaning keeps proper attributes proper. -/
theorem properAttributes_clean {env : Environment} {obj : ParsedObject}
    (hobj : obj.ProperAttributes) : (obj.clean env).ProperAttributes := by
  unfold ParsedObject.clean
  split
  · simp only [ParsedObject.cleanMntner]
    split
    · exact hobj
    · exact hobj
  · split
    · simp only [ParsedObject.cleanKeyCert]
      split
      · split
        · exact hobj
        · refine properAttributes_updateAttributeValue (by decide) ?_ _ _
          refine properAttributes_updateAttributeValue (by decide) ?_ _ _
          exact properAttributes_updateAttributeValue (by decide) hobj _ _
      · exact hobj
    · exact hobj

/-- The attributes of a parsed object are proper. -/
theorem properAttributes_rpslObjectFromText {env : Environment} {text : List Char}
    {strictValidation : Bool} {defaultSource : Option (List Char)} {obj : ParsedObject}
    (h : rpslObjectFromText env text strictValidation defaultSource = .ok obj) :
    obj.ProperAttributes := by
  unfold rpslObjectFromText at h
  dsimp only at h
  split at h
  · cases h
  · next c hc =>
    obtain ⟨parsed, hparsed, rfl⟩ := validateObject_eq_ok h
    have hcounted :
        (extractObject c text strictValidation defaultSource).validateCounts.objectData =
        (extractAttributesValues c text).1 := by
      unfold ParsedObject.validateCounts
      split <;> rfl
    have hextracted : ∀ a ∈ (extractObject c text strictValidation
        defaultSource).validateCounts.objectData, ProperAttribute a := by
      rw [hcounted]
      exact properAttribute_of_extractLines (mem_of_findClass hc) (by simp) (by simp)
    have hproper := properAttributes_foldlM (by intro a ha; cases ha) hextracted hparsed
    have hdefault : parsed.withDefaultSource.ProperAttributes := by
      unfold ParsedObject.withDefaultSource
      split
      · exact hproper
      · exact hproper
    unfold ParsedObject.cleanIfValid
    split
    · exact properAttributes_clean hdefault
    · exact hdefault

end Accepted

end Irrd.Rpsl
