import Irrd.Rpki.Importer
import Irrd.Rpsl.ExtractedLines

/-!
# Lines of pseudo-IRR objects

The text of a pseudo-IRR object by its lines, and the attributes that are extracted from it. The
configured remarks and the name of the trust anchor may have several lines. Source:
`irrd/rpki/importer.py`.
-/

namespace Irrd.Rpki

open Irrd.Base Irrd.Rpsl Irrd.Storage Irrd.Utils

section Remarks

/-- The fields of `str.format` that a text begins with: what they stand for, and their lengths. -/
def formatField (asn prefixStr text : List Char) : Option (List Char × Nat) :=
  [("\x7b\x7b".toList, "\x7b".toList), ("\x7d\x7d".toList, "\x7d".toList),
    ("\x7basn\x7d".toList, asn), ("\x7bprefix\x7d".toList, prefixStr)].findSome?
      (fun (name, value) ↦ if name.isPrefixOf text then some (value, name.length) else none)

/-- `str.format` with `asn` and `prefix`, which skips the rest of a field. Other braces raise an
exception. -/
def formatSkipping (asn prefixStr : List Char) : Nat → List Char → Option (List Char)
  | _, [] => some []
  | skip + 1, _ :: text => formatSkipping asn prefixStr skip text
  | 0, c :: text =>
    match formatField asn prefixStr (c :: text) with
    | some (value, length) =>
      (formatSkipping asn prefixStr (length - 1) text).map (fun rest ↦ value ++ rest)
    | none =>
      if c ∈ ['\x7b', '\x7d'] then none
      else (formatSkipping asn prefixStr 0 text).map (fun rest ↦ c :: rest)

/-- The remarks before they are formatted, `irrd/rpki/importer.py:236–237`. -/
def remarksFormat (setting : String) : List Char :=
  strip (replace ['\n'] ('\n' :: List.replicate rpslAttributeTextWidth ' ') setting.toList)

/-- `rpki.pseudo_irr_remarks`, which `str.format` takes. Its fields have no conversions and no
specifications of a format. -/
structure RemarksSetting where
  text : String
  formats : (formatSkipping [] [] 0 (remarksFormat text)).isSome = true

theorem map_formatField (asn prefixStr asn' prefixStr' text : List Char) :
    (formatField asn prefixStr text).map Prod.snd =
      (formatField asn' prefixStr' text).map Prod.snd := by
  simp only [formatField, List.findSome?]
  split_ifs <;> rfl

/-- Whether a text can be formatted does not depend on the values. -/
theorem isSome_formatSkipping (asn prefixStr asn' prefixStr' : List Char) (skip : Nat)
    (text : List Char) : (formatSkipping asn prefixStr skip text).isSome =
      (formatSkipping asn' prefixStr' skip text).isSome := by
  fun_induction formatSkipping asn prefixStr skip text with
  | case1 => rfl
  | case2 skip c text ih => exact ih
  | case3 c text value length hfield ih =>
    have hsame := map_formatField asn prefixStr asn' prefixStr' (c :: text)
    rw [hfield] at hsame
    obtain ⟨⟨value', length'⟩, hfield', rfl⟩ := Option.map_eq_some_iff.mp hsame.symm
    rw [formatSkipping, hfield', Option.isSome_map, Option.isSome_map, ih]
  | case4 c text hfield hbrace =>
    have hsame := map_formatField asn prefixStr asn' prefixStr' (c :: text)
    rw [hfield] at hsame
    rw [formatSkipping, Option.map_eq_none_iff.mp hsame.symm]
    dsimp only
    rw [if_pos hbrace]
  | case5 c text hfield hbrace ih =>
    have hsame := map_formatField asn prefixStr asn' prefixStr' (c :: text)
    rw [hfield] at hsame
    rw [formatSkipping, Option.map_eq_none_iff.mp hsame.symm]
    dsimp only
    rw [if_neg hbrace, Option.isSome_map, Option.isSome_map, ih]

theorem RemarksSetting.isSome_format (setting : RemarksSetting) (asn prefixStr : List Char) :
    (formatSkipping asn prefixStr 0 (remarksFormat setting.text)).isSome = true :=
  (isSome_formatSkipping asn prefixStr [] [] 0 _).trans setting.formats

/-- The remarks of `rpki.pseudo_irr_remarks`, `irrd/rpki/importer.py:236–238`. -/
def pseudoIrrRemarks (setting : RemarksSetting) (asn : Nat) (prefixStr : String) : String :=
  String.ofList ((formatSkipping (toString asn).toList prefixStr.toList 0
    (remarksFormat setting.text)).get (setting.isSome_format _ _))

example : pseudoIrrRemarks ⟨"ROA of AS\x7basn\x7d\nfor \x7bprefix\x7d\n", by decide +kernel⟩ 65530
    "192.0.2.0/24" = "ROA of AS65530\n                for 192.0.2.0/24" := by decide +kernel

/-- Every newline of a text is followed by a space. -/
def Indented : List Char → Prop
  | [] => True
  | c :: text => (c = '\n' → text.head? = some ' ') ∧ Indented text

theorem indented_append {text text' : List Char} (htext : '\n' ∉ text) :
    Indented (text ++ text') ↔ Indented text' := by
  induction text with
  | nil => rfl
  | cons c text ih =>
    obtain ⟨hc, hothers⟩ := not_or.mp (fun h ↦ htext (List.mem_cons.mpr h))
    rw [List.cons_append, Indented, ih hothers]
    exact ⟨fun h ↦ h.2, fun h ↦ ⟨fun hnewline ↦ absurd hnewline.symm hc, h⟩⟩

theorem indented_of_append {text text' : List Char} (h : Indented (text ++ text')) :
    Indented text' ∧ (text.getLast? ≠ some '\n' → Indented text) := by
  induction text with
  | nil => exact ⟨h, fun _ ↦ trivial⟩
  | cons c text ih =>
    obtain ⟨hc, hrest⟩ := h
    obtain ⟨hafter, hbefore⟩ := ih hrest
    refine ⟨hafter, fun hlast ↦ ?_⟩
    cases text with
    | nil => exact ⟨fun hnewline ↦ absurd (by rw [hnewline]; rfl) hlast, trivial⟩
    | cons d text => exact ⟨hc, hbefore (by rwa [List.getLast?_cons_cons] at hlast)⟩

/-- Stripping keeps the newlines followed by spaces. -/
theorem indented_strip {text : List Char} (h : Indented text) : Indented (strip text) := by
  obtain ⟨front, back, htext, -, -⟩ := exists_eq_append_stripChars whitespace text
  rw [htext] at h
  have hstripped : (stripChars whitespace text).getLast? ≠ some '\n' :=
    fun hlast ↦ getLast?_stripChars hlast (by decide)
  rw [List.append_assoc] at h
  exact (indented_of_append (indented_of_append h).1).2 hstripped

/-- Newlines that are replaced are followed by spaces. -/
theorem indented_replace (text : List Char) :
    Indented (replace ['\n'] ('\n' :: List.replicate rpslAttributeTextWidth ' ') text) := by
  unfold replace
  rw [if_neg (by simp)]
  induction text with
  | nil => trivial
  | cons c text ih =>
    rw [replaceSkipping]
    by_cases hc : c = '\n'
    · subst hc
      rw [if_pos (by rfl), List.cons_append]
      exact ⟨fun _ ↦ rfl, (indented_append (by simp)).mpr ih⟩
    · rw [if_neg (by simpa using Ne.symm hc)]
      exact ⟨fun hnewline ↦ absurd hnewline hc, ih⟩

/-- A field begins with a brace, and stands for a text in one line. -/
theorem formatField_spec {asn prefixStr text value : List Char} {length : Nat}
    (hasn : '\n' ∉ asn) (hprefixStr : '\n' ∉ prefixStr)
    (h : formatField asn prefixStr text = some (value, length)) :
    '\n' ∉ value ∧ text.head? ≠ some ' ' := by
  obtain ⟨⟨name, value'⟩, hmem, hfield⟩ := List.exists_of_findSome?_eq_some h
  dsimp only at hfield
  split at hfield
  · next hname =>
    cases hfield
    obtain ⟨rest, rfl⟩ := List.isPrefixOf_iff_prefix.mp hname
    simp only [List.mem_cons, List.not_mem_nil, or_false] at hmem
    rcases hmem with hmem | hmem | hmem | hmem <;> cases hmem
    · exact ⟨by decide, by simp⟩
    · exact ⟨by decide, by simp⟩
    · exact ⟨hasn, by simp⟩
    · exact ⟨hprefixStr, by simp⟩
  · cases hfield

/-- Formatting keeps the newlines followed by spaces. -/
theorem indented_formatSkipping {asn prefixStr : List Char} (hasn : '\n' ∉ asn)
    (hprefixStr : '\n' ∉ prefixStr) (skip : Nat) {text formatted : List Char}
    (htext : Indented text) (h : formatSkipping asn prefixStr skip text = some formatted) :
    Indented formatted ∧
      (skip = 0 → text.head? = some ' ' → formatted.head? = some ' ') := by
  fun_induction formatSkipping asn prefixStr skip text generalizing formatted with
  | case1 =>
    cases h
    exact ⟨trivial, by simp⟩
  | case2 skip c text ih => exact ⟨(ih htext.2 h).1, fun h ↦ absurd h (by simp)⟩
  | case3 c text value length hfield ih =>
    obtain ⟨rest, hrest, rfl⟩ := Option.map_eq_some_iff.mp h
    obtain ⟨hvalue, hhead⟩ := formatField_spec hasn hprefixStr hfield
    exact ⟨(indented_append hvalue).mpr (ih htext.2 hrest).1, fun _ h ↦ absurd h hhead⟩
  | case4 => cases h
  | case5 c text hfield hbrace ih =>
    obtain ⟨rest, hrest, rfl⟩ := Option.map_eq_some_iff.mp h
    obtain ⟨hindented, hspace⟩ := ih htext.2 hrest
    exact ⟨⟨fun hc ↦ hspace rfl (htext.1 hc), hindented⟩, fun _ h ↦ h⟩

/-- Every line of a text but the first begins with a space. -/
theorem head?_of_indented {text : List Char} (htext : Indented text) :
    (∀ line ∈ (text.splitOn '\n').tail, line.head? = some ' ') ∧
      (text.head? = some ' ' → ∃ first rest, text.splitOn '\n' = (' ' :: first) :: rest) := by
  induction text with
  | nil => simp
  | cons c text ih =>
    obtain ⟨hlines, hfirst⟩ := ih htext.2
    rw [List.splitOn_cons_eq_if_modifyHead]
    split
    · next hc =>
      have hnewline : c = '\n' := by simpa using hc
      obtain ⟨first, rest, hsplit⟩ := hfirst (htext.1 hnewline)
      rw [hsplit] at hlines ⊢
      refine ⟨fun line hline ↦ ?_, fun hspace ↦ ?_⟩
      · rcases List.mem_cons.mp hline with rfl | hline
        · rfl
        · exact hlines line hline
      · rw [hnewline] at hspace
        cases hspace
    · cases hsplit : text.splitOn '\n' with
      | nil => exact absurd hsplit (List.splitOn_ne_nil _ _)
      | cons first rest =>
        rw [hsplit] at hlines
        rw [List.modifyHead_cons]
        refine ⟨hlines, fun hspace ↦ ?_⟩
        cases hspace
        exact ⟨first, rest, rfl⟩

/-- The lines of the remarks after the first one begin with spaces. -/
theorem head?_pseudoIrrRemarks (setting : RemarksSetting) (asn : Nat) {prefixStr : String}
    (hprefixStr : '\n' ∉ prefixStr.toList) :
    ∀ line ∈ ((pseudoIrrRemarks setting asn prefixStr).toList.splitOn '\n').tail,
      line.head? = some ' ' := by
  unfold pseudoIrrRemarks
  rw [String.toList_ofList]
  have hasn : '\n' ∉ (toString asn).toList :=
    fun h ↦ absurd (isDigit_of_mem_toString h) (by decide)
  exact (head?_of_indented (indented_formatSkipping hasn hprefixStr 0
    (indented_strip (indented_replace setting.text.toList)) (Option.some_get _).symm).1).1

end Remarks

section Text

variable (ipy : IPyFunctions) (setting : RemarksSetting) (r : ROA)

/-- The name of the class of a pseudo-IRR object. -/
def ROA.objectClass : String := rpslRouteObjectClassForIpVersion r.ipPrefix.version

/-- The prefix of a pseudo-IRR object as text. -/
def ROA.prefixText : List Char := (ipy.str r.ipPrefix).toList

/-- The remarks of a pseudo-IRR object. -/
def ROA.remarks : List Char := (pseudoIrrRemarks setting r.asn (ipy.str r.ipPrefix)).toList

/-- The comment that names the trust anchor. -/
def ROA.comment : List Char := "# Trust Anchor: ".toList ++ r.trustAnchor.toList

/-- The attributes before the source, with their values. -/
def ROA.attributeValues : List (List Char × List Char) :=
  [(r.objectClass.toList,
      List.replicate (rpslAttributeTextWidth - (r.objectClass.length + 1)) ' ' ++
        r.prefixText ipy),
    ("descr".toList, "          RPKI ROA for ".toList ++ (r.prefixText ipy ++ (" / AS".toList ++
      (toString r.asn).toList))),
    ("remarks".toList, "        ".toList ++ r.remarks ipy setting),
    ("max-length".toList, "     ".toList ++ (toString r.maxLength).toList),
    ("origin".toList, "         AS".toList ++ (toString r.asn).toList)]

/-- A line with an attribute. -/
def valueLine (e : List Char × List Char) : List Char := e.1 ++ ':' :: e.2

/-- The text of a pseudo-IRR object before the comment. -/
def ROA.textBefore : List Char :=
  newlineTerminated ((r.attributeValues ipy setting).map valueLine) ++
    "source:         RPKI  ".toList

variable {ipy setting r}

theorem valueLine_append (e : List Char × List Char) (text : List Char) :
    valueLine e ++ text = e.1 ++ ':' :: (e.2 ++ text) := by
  simp [valueLine]

/-- The text of a pseudo-IRR object ends in the comment. -/
theorem ROA.toList_renderRpslText (ipy : IPyFunctions) (setting : RemarksSetting) (r : ROA) :
    (r.renderRpslText ipy (pseudoIrrRemarks setting)).toList =
    strip (r.textBefore ipy setting ++ (r.comment ++ ['\n'])) ++ ['\n'] := by
  have hclass (text : List Char) : ljust (r.objectClass.toList ++ [':']) rpslAttributeTextWidth ++
      text = r.objectClass.toList ++ ':' ::
        (List.replicate (rpslAttributeTextWidth - (r.objectClass.length + 1)) ' ' ++ text) := by
    rw [ljust, List.length_append, String.length_toList, List.append_assoc, List.append_assoc]
    rfl
  have hline (start name value : List Char) (hstart : start = '\n' :: (name ++ ':' :: value))
      (text : List Char) : start ++ text = '\n' :: (name ++ ':' :: (value ++ text)) := by
    simp [hstart]
  have hdescr := hline "\ndescr:          RPKI ROA for ".toList "descr".toList
    "          RPKI ROA for ".toList (by decide)
  have hremarks := hline "\nremarks:        ".toList "remarks".toList "        ".toList (by decide)
  have hmaxLength := hline "\nmax-length:     ".toList "max-length".toList "     ".toList
    (by decide)
  have horigin := hline "\norigin:         AS".toList "origin".toList "         AS".toList
    (by decide)
  have hsource (text : List Char) : "\nsource:         ".toList ++
      (Conf.rpkiIrrPseudoSource.toList ++ ("  # Trust Anchor: ".toList ++ text)) =
      '\n' :: ("source:         RPKI  ".toList ++ ("# Trust Anchor: ".toList ++ text)) := by
    have hlit : "\nsource:         ".toList ++ (Conf.rpkiIrrPseudoSource.toList ++
        "  # Trust Anchor: ".toList) =
        '\n' :: ("source:         RPKI  ".toList ++ "# Trust Anchor: ".toList) := by decide
    rw [← List.append_assoc, ← List.append_assoc, ← List.append_assoc]
    exact congrArg (· ++ text) hlit
  have hend : "\n".toList = ['\n'] := rfl
  have hstring (text : String) : toString text = text := rfl
  unfold ROA.objectClass at hclass
  unfold ROA.renderRpslText
  dsimp only
  rw [String.toList_append, String.toList_ofList, hend]
  refine congrArg (fun text ↦ strip text ++ ['\n']) ?_
  simp only [String.toList_append, String.toList_ofList, hstring, List.append_assoc]
  rw [hsource]
  simp only [hclass, hdescr, hremarks, hmaxLength, horigin, hend]
  unfold ROA.textBefore ROA.attributeValues ROA.comment
  rw [List.append_assoc, List.append_assoc]
  simp only [List.map_cons, List.map_nil]
  rw [newlineTerminated_cons_append, newlineTerminated_cons_append, newlineTerminated_cons_append,
    newlineTerminated_cons_append, newlineTerminated_cons_append, newlineTerminated_nil]
  simp only [valueLine_append, List.append_assoc, List.nil_append]
  rfl

end Text

section Extraction

variable {c : RPSLObjectClass}

/-- A value whose lines after the first continue an attribute that is kept. -/
structure ContinuedValue (c : RPSLObjectClass) (e : List Char × List Char) : Prop where
  name : reAttrName e.1 = true
  kept : isWord c.discardedFields e.1 = false
  continued : ∀ line ∈ (e.2.splitOn '\n').tail, line.head? = some ' '

/-- The attribute of a value. -/
structure ExtractedValue (e : List Char × List Char) (a : Attribute) : Prop where
  name : a.name = e.1
  single : '\n' ∉ e.2 → a = ⟨e.1, strip e.2, []⟩

/-- The lines of a value, as the parser gets them. -/
def valueLines (e : List Char × List Char) : List (List Char) :=
  ((valueLine e).splitOn '\n').map (stripChars ['\r'])

/-- A line with an attribute keeps its name, and what matters of its value. -/
theorem stripChars_valueLine {e : List Char × List Char} (hname : reAttrName e.1 = true) :
    ∃ value, stripChars ['\r'] (valueLine e) = valueLine (e.1, value) ∧
      strip value = strip e.2 := by
  have hproper : ProperAttribute ⟨e.1, [], []⟩ := ⟨hname, by simp⟩
  obtain ⟨value, back, hstripped, hvalue, hback⟩ :=
    stripChars_cons (show ':' ∉ ['\r'] by decide) e.2
  refine ⟨value, ?_, ?_⟩
  · unfold valueLine
    rw [stripChars_append_cons (fun d hd h ↦ ?_) (by decide), hstripped]
    rw [List.mem_singleton.mp h] at hd
    exact (hproper.of_mem_name (List.mem_of_mem_head? hd)).2.1 (by decide)
  · rw [hvalue]
    exact (stripChars_append_right (fun d hd ↦ by
      rw [List.mem_singleton.mp (hback d hd)]
      decide) value).symm

/-- The lines of a value are that of an attribute and others that continue it. -/
theorem valueLines_eq {e : List Char × List Char} (he : ContinuedValue c e) :
    ∃ value continuations, valueLines e = valueLine (e.1, value) :: continuations ∧
      (∀ line ∈ continuations, isContinuationLine line = true) ∧
      ('\n' ∉ e.2 → strip value = strip e.2 ∧ continuations = []) := by
  have hproper : ProperAttribute ⟨e.1, [], []⟩ := ⟨he.name, by simp⟩
  have hnewline : '\n' ∉ e.1 ++ [':'] := by
    intro h
    rcases List.mem_append.mp h with h | h
    · exact (hproper.of_mem_name h).2.1 (by decide)
    · exact absurd h (by decide)
  have hline : valueLine e = (e.1 ++ [':']) ++ e.2 := by simp [valueLine]
  unfold valueLines
  rw [hline, splitOn_append_of_not_mem hnewline]
  cases hlines : e.2.splitOn '\n' with
  | nil => exact absurd hlines (List.splitOn_ne_nil _ _)
  | cons first rest =>
    have hcontinued := he.continued
    rw [hlines, List.tail_cons] at hcontinued
    obtain ⟨value, hstripped, hvalue⟩ := stripChars_valueLine (e := (e.1, first)) he.name
    have hfirst : e.1 ++ [':'] ++ first = valueLine (e.1, first) := by simp [valueLine]
    rw [List.modifyHead_cons, List.map_cons, hfirst, hstripped]
    refine ⟨value, _, rfl, fun line hmem ↦ ?_, fun hsingle ↦ ?_⟩
    · obtain ⟨part, hpart, rfl⟩ := List.mem_map.mp hmem
      obtain ⟨text, rfl⟩ : ∃ text, part = ' ' :: text := by
        have hhead := hcontinued part hpart
        cases part with
        | nil => cases hhead
        | cons d text =>
          cases hhead
          exact ⟨text, rfl⟩
      obtain ⟨text', back, hpartStripped, -⟩ :=
        stripChars_cons (show ' ' ∉ ['\r'] by decide) text
      rw [hpartStripped]
      rfl
    · rw [List.splitOn_eq_singleton hsingle] at hlines
      cases hlines
      exact ⟨hvalue, rfl⟩

/-- Values become attributes, up to the one that follows them. -/
theorem extractLines_values {es : List (List Char × List Char)}
    (hes : ∀ e ∈ es, ContinuedValue c e) {e : List Char × List Char}
    (he : reAttrName e.1 = true) (lineNo : Nat) (data : List Attribute)
    (current : Option Attribute) (lines : List (List Char)) :
    ∃ lineNo' attributes, List.Forall₂ ExtractedValue es attributes ∧
      extractLines c lineNo data current (es.flatMap valueLines ++ valueLine e :: lines) =
        extractLines c lineNo' (saveAttribute c data current ++ attributes)
          (some ⟨e.1, strip e.2, []⟩) lines := by
  induction es generalizing lineNo data current with
  | nil =>
    refine ⟨lineNo + 1, [], .nil, ?_⟩
    rw [List.flatMap_nil, List.nil_append, List.append_nil]
    exact extractLines_attribute he e.2 lines
  | cons first es ih =>
    obtain ⟨hfirst, hothers⟩ := List.forall_mem_cons.mp hes
    obtain ⟨value, continuations, hlines, hcontinues, hsingle⟩ := valueLines_eq hfirst
    have hsaved {data : List Attribute} {a : Attribute} (ha : a.name = first.1) :
        saveAttribute c data (some a) = data ++ [a] := by
      have hne : first.1 ≠ [] := by
        intro h
        have hname := hfirst.name
        rw [h] at hname
        exact absurd hname (by decide)
      unfold saveAttribute
      dsimp only
      rw [ha, if_neg (by simp [hne, hfirst.kept])]
    obtain ⟨lineNo', attributes, hattributes, hrest⟩ := ih hothers
      (lineNo + 1 + continuations.length) (saveAttribute c data current)
      (some ((⟨first.1, strip value, []⟩ : Attribute).continued continuations))
    refine ⟨lineNo', (⟨first.1, strip value, []⟩ : Attribute).continued continuations :: attributes,
      .cons ⟨rfl, fun h ↦ ?_⟩ hattributes, ?_⟩
    · obtain ⟨hvalue, rfl⟩ := hsingle h
      rw [← hvalue]
      simp [Attribute.continued]
    · rw [List.flatMap_cons, hlines, List.append_assoc, List.cons_append]
      unfold valueLine at hrest ⊢
      rw [extractLines_attribute hfirst.name, extractLines_continued hcontinues, hrest, hsaved rfl,
        List.append_assoc, List.singleton_append]

end Extraction

section ROA

variable {ipy : IPyFunctions} {setting : RemarksSetting} {r : ROA}

/-- The lines that the name of the trust anchor adds after the source. -/
def ROA.furtherLines (r : ROA) : List (List Char) := (splitlineUnicodesafe (strip r.comment)).tail

/-- The class of a pseudo-IRR object. -/
def ROA.routeClass (r : ROA) : RPSLObjectClass :=
  if r.ipPrefix.version = 4 then rpslRoute else rpslRoute6

/-- Both classes at once. -/
theorem ROA.class_cases (r : ROA) :
    (r.routeClass = rpslRoute ∧ r.objectClass = "route") ∨
      (r.routeClass = rpslRoute6 ∧ r.objectClass = "route6") := by
  unfold ROA.routeClass ROA.objectClass rpslRouteObjectClassForIpVersion
  split
  · exact .inl ⟨rfl, rfl⟩
  · exact .inr ⟨rfl, rfl⟩

theorem ROA.findClass_objectClass (r : ROA) :
    findClass r.objectClass.toList = some r.routeClass := by
  rcases r.class_cases with ⟨hclass, hname⟩ | ⟨hclass, hname⟩ <;> rw [hclass, hname] <;> rfl

theorem ROA.objectClass_routeClass (r : ROA) : r.routeClass.rpslObjectClass = r.objectClass := by
  rcases r.class_cases with ⟨hclass, hname⟩ | ⟨hclass, hname⟩ <;> rw [hclass, hname] <;> decide

/-- The attributes before the source are extracted as they are. -/
theorem ROA.continuedValue (setting : RemarksSetting) (hprefixText : '\n' ∉ r.prefixText ipy) :
    ∀ e ∈ r.attributeValues ipy setting, ContinuedValue r.routeClass e := by
  have hnumber (n : Nat) : '\n' ∉ (toString n).toList :=
    fun h ↦ absurd (isDigit_of_mem_toString h) (by decide)
  have hsingle {value : List Char} (hvalue : '\n' ∉ value) :
      ∀ line ∈ (value.splitOn '\n').tail, line.head? = some ' ' := by
    rw [List.splitOn_eq_singleton hvalue]
    simp
  have hremarks : ∀ line ∈ (("        ".toList ++ r.remarks ipy setting).splitOn '\n').tail,
      line.head? = some ' ' := by
    rw [splitOn_append_of_not_mem (by decide), List.tail_modifyHead]
    exact head?_pseudoIrrRemarks setting r.asn hprefixText
  have hnames : ∀ name ∈ [r.objectClass, "descr", "remarks", "max-length", "origin"],
      reAttrName name.toList = true ∧ isWord r.routeClass.discardedFields name.toList = false := by
    rcases r.class_cases with ⟨hclass, hname⟩ | ⟨hclass, hname⟩ <;> rw [hclass, hname] <;> decide
  simp only [List.forall_mem_cons, List.not_mem_nil, false_implies, implies_true,
    and_true] at hnames
  obtain ⟨hclass, hdescr, hremarksName, hmaxLength, horigin⟩ := hnames
  unfold ROA.attributeValues
  simp only [List.forall_mem_cons, List.not_mem_nil, false_implies, implies_true, and_true]
  refine ⟨⟨hclass.1, hclass.2, hsingle ?_⟩, ⟨hdescr.1, hdescr.2, hsingle ?_⟩,
    ⟨hremarksName.1, hremarksName.2, hremarks⟩, ⟨hmaxLength.1, hmaxLength.2, hsingle ?_⟩,
    ⟨horigin.1, horigin.2, hsingle ?_⟩⟩
  · exact List.not_mem_append (by simp) hprefixText
  · exact List.not_mem_append (by decide) (List.not_mem_append hprefixText
      (List.not_mem_append (by decide) (hnumber r.asn)))
  · exact List.not_mem_append (by decide) (hnumber r.maxLength)
  · exact List.not_mem_append (by decide) (hnumber r.asn)

theorem ROA.exists_textBefore (ipy : IPyFunctions) (setting : RemarksSetting) (r : ROA) :
    ∃ rest, r.textBefore ipy setting = r.objectClass.toList ++ ':' :: rest := by
  unfold ROA.textBefore ROA.attributeValues
  rw [List.map_cons, newlineTerminated_cons_append, valueLine_append]
  exact ⟨_, rfl⟩

/-- The text of a pseudo-IRR object ends in the comment without the whitespace around it. -/
theorem ROA.renderRpslText_eq : (r.renderRpslText ipy (pseudoIrrRemarks setting)).toList =
    r.textBefore ipy setting ++ strip r.comment ++ ['\n'] := by
  have hfront : ∀ d ∈ (r.textBefore ipy setting).head?, d ∉ whitespace := by
    intro d hd
    obtain ⟨rest, hrest⟩ := ROA.exists_textBefore ipy setting r
    have hr : d = 'r' := by
      rw [hrest] at hd
      rcases r.class_cases with ⟨-, hname⟩ | ⟨-, hname⟩ <;> rw [hname] at hd <;> exact
        (Option.some.inj hd).symm
    rw [hr]
    decide
  have hcomment : r.comment = '#' :: (" Trust Anchor: ".toList ++ r.trustAnchor.toList) := rfl
  rw [ROA.toList_renderRpslText, ← List.append_assoc]
  refine congrArg (· ++ ['\n'])
    ((stripChars_append_right (show ['\n'] ⊆ whitespace by decide) _).trans ?_)
  rw [hcomment]
  exact stripChars_append_cons hfront (by decide) _

theorem ROA.strip_renderRpslText :
    strip (r.renderRpslText ipy (pseudoIrrRemarks setting)).toList =
      r.textBefore ipy setting ++ strip r.comment := by
  have hstripped := ROA.toList_renderRpslText ipy setting r
  have htext := List.append_cancel_right (hstripped.symm.trans ROA.renderRpslText_eq)
  rw [hstripped]
  refine (stripChars_append_right (show ['\n'] ⊆ whitespace by decide) _).trans ?_
  rw [← htext]
  exact stripChars_stripChars whitespace _

/-- The source of a pseudo-IRR object, with the first line of the comment. -/
def IsSourceValue (value : List Char) : Prop :=
  ∃ text, value = "RPKI  ".toList ++ '#' :: text ∧ '\n' ∉ text

/-- The attributes of a pseudo-IRR object before those that the name of the trust anchor adds. -/
theorem ROA.extractAttributesValues_eq (setting : RemarksSetting)
    (hprefixText : '\n' ∉ r.prefixText ipy) :
    ∃ lineNo attributes value, List.Forall₂ ExtractedValue (r.attributeValues ipy setting)
        attributes ∧ IsSourceValue value ∧
      extractAttributesValues r.routeClass
          (r.renderRpslText ipy (pseudoIrrRemarks setting)).toList =
        extractLines r.routeClass lineNo attributes (some ⟨"source".toList, value, []⟩)
          r.furtherLines := by
  have hcomment : r.comment = '#' :: (" Trust Anchor: ".toList ++ r.trustAnchor.toList) := rfl
  obtain ⟨text, back, hstripped, -⟩ := stripChars_cons (show '#' ∉ whitespace by decide)
    (" Trust Anchor: ".toList ++ r.trustAnchor.toList)
  rw [← hcomment] at hstripped
  change strip r.comment = '#' :: text at hstripped
  have hname : reAttrName "source".toList = true := by decide
  have hstart : "source:         RPKI  ".toList =
      "source".toList ++ ':' :: "         RPKI  ".toList := by decide
  -- The comment begins in the line of the source.
  obtain ⟨first, rest, hlines⟩ :
      ∃ first rest, ('#' :: text).splitOn '\n' = ('#' :: first) :: rest := by
    rw [List.splitOn_cons_eq_if_modifyHead, if_neg (by decide)]
    cases htext : text.splitOn '\n' with
    | nil => exact absurd htext (List.splitOn_ne_nil _ _)
    | cons first rest => exact ⟨first, rest, rfl⟩
  have hfirst : '\n' ∉ first := fun h ↦ not_mem_of_mem_splitOn
    (hlines ▸ List.mem_cons_self) (List.mem_cons_of_mem _ h)
  have hfurther : r.furtherLines = rest.map (stripChars ['\r']) := by
    unfold ROA.furtherLines
    rw [splitlineUnicodesafe_strip (by rw [hstripped]; exact List.cons_ne_nil _ _), hstripped,
      hlines]
    rfl
  obtain ⟨value, hvalue, hsame⟩ := stripChars_valueLine
    (e := ("source".toList, "         RPKI  ".toList ++ '#' :: first)) hname
  have hsplit : (r.textBefore ipy setting ++ '#' :: text).splitOn '\n' =
      (r.attributeValues ipy setting).flatMap (fun e ↦ (valueLine e).splitOn '\n') ++
        valueLine ("source".toList, "         RPKI  ".toList ++ '#' :: first) :: rest := by
    unfold ROA.textBefore
    rw [List.append_assoc, splitOn_newlineTerminated_flatMap, List.flatMap_map,
      splitOn_append_of_not_mem (by decide), hlines, List.modifyHead_cons, hstart]
    simp [valueLine]
  have hne : strip (r.renderRpslText ipy (pseudoIrrRemarks setting)).toList ≠ [] := by
    rw [ROA.strip_renderRpslText, hstripped]
    simp
  obtain ⟨lineNo, attributes, hattributes, hextract⟩ :=
    extractLines_values (ROA.continuedValue setting hprefixText)
      (e := ("source".toList, value)) hname 0 [] none (rest.map (stripChars ['\r']))
  refine ⟨lineNo, attributes, strip value, hattributes, ?_, ?_⟩
  · obtain ⟨text', back', hstripped', htext', -⟩ :=
      stripChars_cons (show '#' ∉ whitespace by decide) first
    refine ⟨text', ?_, fun h ↦ hfirst (htext' ▸ List.mem_append_left _ h)⟩
    have hspaces : "         RPKI  ".toList = "         ".toList ++ "RPKI  ".toList := by decide
    rw [hsame]
    dsimp only
    rw [hspaces, List.append_assoc]
    refine (stripChars_append_left (show "         ".toList ⊆ whitespace by decide) _).trans ?_
    rw [stripChars_append_cons (by rintro _ ⟨⟩; decide) (by decide), hstripped']
  · unfold extractAttributesValues
    rw [splitlineUnicodesafe_strip hne, ROA.strip_renderRpslText, hstripped, hsplit,
      List.map_append, List.map_flatMap, List.map_cons, hvalue, hfurther]
    exact hextract

/-- The class that the text of a pseudo-IRR object names. -/
theorem ROA.findClass_renderRpslText (ipy : IPyFunctions) (setting : RemarksSetting) (r : ROA) :
    findClass (strip (beforeFirst ':' (r.renderRpslText ipy (pseudoIrrRemarks setting)).toList)) =
      some r.routeClass := by
  obtain ⟨rest, hrest⟩ := ROA.exists_textBefore ipy setting r
  have hclass : strip (beforeFirst ':' (r.objectClass.toList ++ ':' ::
      (rest ++ (strip r.comment ++ ['\n'])))) = r.objectClass.toList := by
    unfold beforeFirst
    rcases r.class_cases with ⟨-, hname⟩ | ⟨-, hname⟩ <;> rw [hname] <;>
      rw [List.takeWhile_append_of_pos (List.all_eq_true.mp (by decide)),
        List.takeWhile_cons_of_neg (by decide), List.append_nil] <;> decide
  rw [ROA.renderRpslText_eq, hrest, List.append_assoc, List.append_assoc, List.cons_append, hclass]
  exact r.findClass_objectClass

end ROA

end Irrd.Rpki
