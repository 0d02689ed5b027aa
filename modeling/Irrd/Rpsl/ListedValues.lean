import Irrd.Rpsl.ValidObjects
import Irrd.Rpsl.WrittenObject
import Irrd.Utils.AsNumbers
import Irrd.Utils.Splitlines

/-!
# Values of lists

The values that are parsed from numbers, prefixes, members of sets and references never have the
separator of lists. Source: `irrd/rpsl/fields.py`.
-/

namespace Irrd.Rpsl

open Irrd.Base Irrd.Utils

/-- The texts of a value. -/
def ParsedValue.texts : ParsedValue → List (List Char)
  | .text value => [value]
  | .list values => values

/-- The stored values under a name are those that were parsed. -/
theorem lookup_stored (d : ParsedData) (attr : String) :
    (d.map (fun (attr, value) ↦ (display attr, value.stored))).lookup attr =
      (d.get attr.toList).map ParsedValue.stored := by
  unfold ParsedData.get
  induction d with
  | nil => rfl
  | cons e d ih =>
    obtain ⟨key, value⟩ := e
    rw [List.map_cons, List.lookup_cons, List.lookup_cons]
    by_cases hkey : key = attr.toList
    · subst hkey
      simp [display]
    · have hne : attr ≠ display key := by
        rintro rfl
        exact hkey String.toList_ofList.symm
      rw [beq_false_of_ne hne, beq_false_of_ne (Ne.symm hkey)]
      exact ih

theorem mem_stored {value : ParsedValue} {text : String} (h : text ∈ value.stored) :
    text.toList ∈ value.texts := by
  cases value with
  | text value =>
    rw [List.mem_singleton.mp h]
    simp [ParsedValue.texts, display]
  | list values =>
    obtain ⟨value, hvalue, rfl⟩ := List.mem_map.mp h
    simpa [ParsedValue.texts, display] using hvalue

/-- Fields whose values are numbers, prefixes, members of sets, or references to sets and numbers.
-/
def FieldKind.isListed : FieldKind → Bool
  | .ipv4Prefix | .ipv6Prefix | .asNumber | .routeSetMembers _ => true
  | .referenceList referring _ _ => referring = ["aut-num", "as-set"]
  | _ => false

section Values

variable {env : Environment}

theorem comma_notMem_asNumber {value parsedStr : List Char} {parsedInt : Nat}
    (h : asNumber value = .ok (parsedStr, parsedInt)) : ',' ∉ parsedStr := by
  obtain ⟨n, -, heq⟩ := parseAsNumberText_eq_ok_iff.mp h
  cases heq
  unfold asNumberText
  rw [String.toList_append, List.mem_append, not_or]
  exact ⟨by decide, fun hc ↦ absurd (isDigit_of_mem_toString hc) (by decide)⟩

/-- The characters of generic names. -/
theorem mem_of_reGenericName {text : List Char} (h : reGenericName text = true) {c : Char}
    (hc : c ∈ text) : c = '\n' ∨ isNameLetterOrDigit c = true ∨ c ∈ ['_', '-'] := by
  unfold reGenericName at h
  dsimp only at h
  rw [Bool.and_eq_true] at h
  have hall := List.all_eq_true.mp h.2
  simp only [Bool.or_eq_true, decide_eq_true_eq] at hall
  split at hall
  · next hlast =>
    have hsplit := List.dropLast_concat_getLast (List.ne_nil_of_mem hc)
    rw [← hsplit, List.mem_append, List.mem_singleton] at hc
    rw [List.getLast?_eq_some_getLast (by rintro rfl; cases hlast)] at hlast
    rcases hc with hc | hc
    · exact .inr (hall c hc)
    · exact .inl (hc.trans (Option.some.inj hlast))
  · exact .inr (hall c hc)

theorem comma_notMem_of_reGenericName {value : List Char}
    (h : reGenericName (upperText value) = true) : ',' ∉ value := by
  intro hc
  have hupper : ',' ∈ upperText value :=
    List.mem_flatMap.mpr ⟨',', hc, by decide⟩
  exact absurd (mem_of_reGenericName h hupper) (by decide)

theorem comma_notMem_parseSetComponent {prefixes : List String} {value component parsed : List Char}
    {strictValidation : Bool}
    (h : parseSetComponent prefixes value strictValidation component = .ok parsed) :
    ',' ∉ parsed := by
  unfold parseSetComponent parsedAsNumber at h
  cases hnumber : asNumber component with
  | ok result =>
    rw [hnumber] at h
    obtain ⟨parsedStr, parsedInt⟩ := result
    have hparsed : parsed = parsedStr := by
      simp only [Except.toOption, Option.map_some, Option.isNone_some,
        Bool.false_eq_true, and_false, false_and, if_false, Option.getD_some] at h
      split at h
      · cases h
      · cases h
        rfl
    exact hparsed ▸ comma_notMem_asNumber hnumber
  | error e =>
    rw [hnumber] at h
    simp only [Except.toOption, Option.map_none, Option.isNone_none, and_true, true_and,
      Option.getD_none] at h
    split at h
    · cases h
    · split at h
      · cases h
      · next hname =>
        split at h
        · cases h
        · cases h
          exact comma_notMem_of_reGenericName (not_not.mp hname)

theorem mem_joinWith {separator c : Char} {parts : List (List Char)}
    (hc : c ∈ joinWith separator parts) : c = separator ∨ ∃ part ∈ parts, c ∈ part := by
  unfold joinWith at hc
  induction parts with
  | nil => cases hc
  | cons part parts ih =>
    cases parts with
    | nil => exact .inr ⟨part, by simp, by simpa using hc⟩
    | cons part' parts =>
      simp only [List.intercalate_cons_cons, List.mem_append, List.mem_singleton] at hc
      rcases hc with (hc | hc) | hc
      · exact .inr ⟨part, List.mem_cons_self, hc⟩
      · exact .inl hc
      · rcases ih hc with hc | ⟨part'', hpart, hc⟩
        · exact .inl hc
        · exact .inr ⟨part'', List.mem_cons_of_mem _ hpart, hc⟩

theorem comma_notMem_parseSetName {prefixes : List String} {value : List Char}
    {strictValidation : Bool} {r : RPSLFieldParseResult}
    (hr : (parseSetName prefixes value strictValidation).1 = some r) : ',' ∉ r.value := by
  simp only [parseSetName] at hr
  split at hr
  · cases hr
  · split at hr
    · cases hr
    · split at hr
      · cases hr
      · next outputs houtputs =>
        cases hr
        intro hc
        rcases mem_joinWith hc with hc | ⟨part, hpart, hc⟩
        · cases hc
        · obtain ⟨component, -, hcomponent⟩ := exists_of_mem_mapM houtputs hpart
          exact comma_notMem_parseSetComponent hcomponent hc

theorem comma_notMem_routeSetMember (hstrIp : ∀ ip, ',' ∉ env.strIp ip) {ipVersion : Nat}
    {value : List Char} (hvalue : ',' ∉ value) {strictValidation : Bool} {r : RPSLFieldParseResult}
    (hr : (routeSetMemberFieldParse env ipVersion value strictValidation).1 = some r) :
    ',' ∉ r.value := by
  unfold routeSetMemberFieldParse at hr
  cases hsplit : splitOnce '^' value with
  | none =>
    rw [hsplit] at hr
    dsimp only at hr
    rw [if_neg (by simp)] at hr
    split at hr
    · next name hname =>
      cases hr
      exact (comma_notMem_parseSetName hname : ',' ∉ name.value)
    · next number hnumber =>
      cases hr
      exact comma_notMem_asNumber hnumber
    · split at hr
      · cases hr
      · split at hr
        · cases hr
        · cases hr
          rw [List.mem_append, not_or]
          refine ⟨hstrIp _, ?_⟩
          split
          · decide
          · split <;> decide
  | some parts =>
    obtain ⟨address, operator⟩ := parts
    obtain ⟨rfl, -⟩ := splitOnce_eq_some hsplit
    have hoperator {text : List Char} (htext : ',' ∉ text) : ',' ∉ text ++ '^' :: operator := by
      rw [List.mem_append, List.mem_cons, not_or, not_or] at hvalue ⊢
      exact ⟨htext, hvalue.2⟩
    rw [hsplit] at hr
    dsimp only at hr
    split at hr
    · cases hr
    · split at hr
      · next name hname =>
        cases hr
        exact hoperator (comma_notMem_parseSetName hname)
      · next number hnumber =>
        cases hr
        exact hoperator (comma_notMem_asNumber hnumber)
      · split at hr
        · cases hr
        · split at hr
          · cases hr
          · cases hr
            apply hoperator
            rw [List.mem_append, not_or]
            refine ⟨hstrIp _, ?_⟩
            split
            · decide
            · split <;> decide

/-- A list of values without separators: its values have none, and where it has no values, its text
has none. -/
def IsListed (r : RPSLFieldParseResult) : Prop :=
  (∀ value ∈ r.valuesList, ',' ∉ value) ∧ (r.valuesList = [] → ',' ∉ r.value)

theorem isListed_listFieldParse {parseOne : List Char → Except ParserException FieldOutcome}
    (hone : ∀ v r messages, ',' ∉ v → parseOne v = .ok (some r, messages) → ',' ∉ r.value)
    {value : List Char} {r : RPSLFieldParseResult} {messages : RPSLParserMessages}
    (hr : listFieldParse parseOne value = .ok (some r, messages)) : IsListed r := by
  obtain ⟨outcomes, houtcomes, hresult⟩ := bind_eq_ok_iff.mp hr
  dsimp only at hresult
  split at hresult
  · cases hresult
  · next results hresults =>
    cases hresult
    have hvalues : ∀ v ∈ results.map RPSLFieldParseResult.value, ',' ∉ v := by
      intro v hv
      obtain ⟨r', hr', rfl⟩ := List.mem_map.mp hv
      obtain ⟨⟨result, messages'⟩, houtcome, hfst⟩ := exists_of_mem_mapM_some hresults hr'
      dsimp only at hfst
      subst hfst
      obtain ⟨single, hsingle, hparse⟩ := exists_of_mem_mapM houtcomes houtcome
      obtain ⟨part, hpart, rfl⟩ := List.mem_map.mp (List.mem_of_mem_filter hsingle)
      refine hone _ _ _ (fun hc ↦ not_mem_of_mem_splitOn hpart ?_) hparse
      exact (mem_of_mem_stripChars hc : ',' ∈ part)
    refine ⟨hvalues, fun hnil ↦ ?_⟩
    dsimp only at hnil ⊢
    rw [hnil]
    exact List.not_mem_nil

end Values

section Kinds

variable {env : Environment}

theorem comma_notMem_ipPrefix (hstrIp : ∀ ip, ',' ∉ env.strIp ip) {ipVersion fullLength : Nat}
    {screen : List Char → Bool} {value : List Char} {r : RPSLFieldParseResult}
    (hr : (ipPrefixFieldParse env ipVersion fullLength screen value).1 = some r) :
    r.valuesList = [] ∧ ',' ∉ r.value := by
  unfold ipPrefixFieldParse at hr
  split at hr
  · split at hr
    · cases hr
    · next ip hip =>
      cases hr
      refine ⟨rfl, ?_⟩
      dsimp only
      rw [List.mem_append, not_or]
      refine ⟨hstrIp ip, ?_⟩
      split
      · rw [List.mem_cons, not_or]
        exact ⟨by decide, fun hc ↦ absurd (isDigit_of_mem_toString hc) (by decide)⟩
      · exact List.not_mem_nil
  · cases hr

theorem comma_notMem_asNumberField {value : List Char} {r : RPSLFieldParseResult}
    (hr : (asNumberFieldParse value).1 = some r) : r.valuesList = [] ∧ ',' ∉ r.value := by
  unfold asNumberFieldParse at hr
  split at hr
  · cases hr
  · next hnumber =>
    cases hr
    exact ⟨rfl, comma_notMem_asNumber hnumber⟩

/-- The fields that identify the classes that sets of ASes refer to. -/
theorem kind_identifierField : ∀ name ∈ ["aut-num", "as-set"], ∀ f, identifierField name = some f →
    f.kind = .asNumber ∨ f.kind = .setName "AS" := by
  decide

/-- A reference to a number or a set of them. -/
theorem comma_notMem_referenceFieldParse {referring : List String}
    (hnames : ∀ name ∈ referring, name ∈ ["aut-num", "as-set"]) {value : List Char}
    {strictValidation : Bool} {messages messages' : RPSLParserMessages} {r : RPSLFieldParseResult}
    (hr : referenceFieldParse env value strictValidation referring messages =
      .ok (some r, messages')) : ',' ∉ r.value := by
  induction referring generalizing messages with
  | nil => cases hr
  | cons name referring ih =>
    obtain ⟨hname, hnames⟩ := List.forall_mem_cons.mp hnames
    simp only [referenceFieldParse] at hr
    split at hr
    · exact ih hnames hr
    · next f hf =>
      obtain ⟨⟨result, fieldMessages⟩, ho, hrest⟩ := bind_eq_ok_iff.mp hr
      cases result with
      | none => exact ih hnames hrest
      | some r' =>
        cases hrest
        rcases kind_identifierField name hname f hf with hkind | hkind
        · rw [hkind] at ho
          have hfst : (asNumberFieldParse value).1 = some r := congrArg Prod.fst (Except.ok.inj ho)
          exact (comma_notMem_asNumberField hfst).2
        · rw [hkind] at ho
          exact comma_notMem_parseSetName (congrArg Prod.fst (Except.ok.inj ho))

/-- What such a field parses is a list of values without separators. -/
theorem isListed_parse (hstrIp : ∀ ip, ',' ∉ env.strIp ip) {kind : FieldKind}
    (hkind : kind.isListed = true) {value : List Char} {strictValidation : Bool}
    {r : RPSLFieldParseResult} {messages : RPSLParserMessages}
    (hr : kind.parse env value strictValidation = .ok (some r, messages)) : IsListed r := by
  have hsingle (h : r.valuesList = [] ∧ ',' ∉ r.value) : IsListed r := by
    refine ⟨fun v hv ↦ ?_, fun _ ↦ h.2⟩
    rw [h.1] at hv
    cases hv
  cases kind with
  | ipv4Prefix =>
    exact hsingle (comma_notMem_ipPrefix hstrIp (congrArg Prod.fst (Except.ok.inj hr)))
  | ipv6Prefix =>
    exact hsingle (comma_notMem_ipPrefix hstrIp (congrArg Prod.fst (Except.ok.inj hr)))
  | asNumber => exact hsingle (comma_notMem_asNumberField (congrArg Prod.fst (Except.ok.inj hr)))
  | routeSetMembers ipVersion =>
    refine isListed_listFieldParse (fun v r' messages' hv ho ↦ ?_) hr
    exact comma_notMem_routeSetMember hstrIp hv (congrArg Prod.fst (Except.ok.inj ho))
  | referenceList referring allowKwAny strong =>
    have hreferring : referring = ["aut-num", "as-set"] := by simpa [FieldKind.isListed] using hkind
    subst hreferring
    simp only [FieldKind.parse] at hr
    split at hr
    · cases hr
      exact ⟨by decide, fun h ↦ by cases h⟩
    · exact isListed_listFieldParse (fun v r' messages' _ ho ↦
        comma_notMem_referenceFieldParse (fun name hname ↦ hname) ho) hr
  | _ => cases hkind

end Kinds

section Objects

variable {env : Environment} {allowInvalidMetadata : Bool} {obj obj' : ParsedObject}

/-- Data in which every attribute is a field with a value, and the values of listed fields have no
separators. -/
def ListsWithoutSeparators (c : RPSLObjectClass) (d : ParsedData) : Prop :=
  ∀ attr v, d.get attr = some v → ∃ f, c.field? attr = some f ∧ v.texts ≠ [] ∧
    (f.kind.isListed = true → ∀ text ∈ v.texts, ',' ∉ text)

theorem ListsWithoutSeparators.set {c : RPSLObjectClass} {d : ParsedData}
    (hd : ListsWithoutSeparators c d) {attr : List Char} {v : ParsedValue} {f : RPSLField}
    (hf : c.field? attr = some f) (hne : v.texts ≠ [])
    (hv : f.kind.isListed = true → ∀ text ∈ v.texts, ',' ∉ text) :
    ListsWithoutSeparators c (d.set attr v) := by
  intro attr' v' hv'
  rw [ParsedData.get_set] at hv'
  split at hv'
  · next hattr =>
    subst hattr
    cases hv'
    exact ⟨f, hf, hne, hv⟩
  · exact hd attr' v' hv'

/-- Text in upper case stays as it is in upper case. -/
theorem upper_display_upperText (text : List Char) :
    upper (display (upperText text)) = display (upperText text) := by
  unfold upper display
  rw [String.toList_ofList, upperText_upperText]

theorem comma_notMem_upperText {text : List Char} (h : ',' ∉ text) : ',' ∉ upperText text :=
  fun hc ↦ h (mem_of_mem_upperText (by decide) (by decide) hc)

theorem ListsWithoutSeparators.storeValue {c : RPSLObjectClass} {d d' : ParsedData}
    (hd : ListsWithoutSeparators c d) {attr : List Char} {f : RPSLField}
    (hf : c.field? attr = some f) {r : RPSLFieldParseResult}
    (hr : f.kind.isListed = true → IsListed r) (h : storeValue f attr r d = .ok d') :
    ListsWithoutSeparators c d' := by
  have hcase {text : List Char} (htext : ',' ∉ text) :
      ',' ∉ (if f.kind.keepCase then text else upperText text) := by
    split
    · exact htext
    · exact comma_notMem_upperText htext
  have hold {values : List (List Char)} (hget : d.get attr = some (.list values))
      (hlisted : f.kind.isListed = true) : ∀ text ∈ values, ',' ∉ text := by
    obtain ⟨f', hf', -, hvalues⟩ := hd attr _ hget
    cases hf.symm.trans hf'
    exact hvalues hlisted
  have hnew (hlisted : f.kind.isListed = true) : ∀ text ∈ r.valuesList.map (fun text ↦
      if f.kind.keepCase then text else upperText text), ',' ∉ text := by
    intro text htext
    obtain ⟨value, hvalue, rfl⟩ := List.mem_map.mp htext
    exact hcase ((hr hlisted).1 value hvalue)
  simp only [Rpsl.storeValue] at h
  split at h
  · next hvalues =>
    have hne : r.valuesList.map (fun text ↦
        if f.kind.keepCase then text else upperText text) ≠ [] :=
      fun hnil ↦ hvalues (List.map_eq_nil_iff.mp hnil)
    split at h
    · cases h
      exact hd.set hf hne hnew
    · next values hget =>
      cases h
      refine hd.set hf (List.append_ne_nil_of_right_ne_nil _ hne) (fun hlisted text htext ↦ ?_)
      rcases List.mem_append.mp htext with htext | htext
      · exact hold hget hlisted text htext
      · exact hnew hlisted text htext
    · cases h
  · next hnil =>
    have hvalue (hlisted : f.kind.isListed = true) :
        ',' ∉ (if f.kind.keepCase then r.value else upperText r.value) :=
      hcase ((hr hlisted).2 (not_not.mp hnil))
    split at h
    · split at h
      · cases h
        exact hd.set hf (List.cons_ne_nil _ _)
          (fun hlisted text htext ↦ List.mem_singleton.mp htext ▸ hvalue hlisted)
      · next values hget =>
        cases h
        refine hd.set hf (List.append_ne_nil_of_right_ne_nil _ (List.cons_ne_nil _ _))
          (fun hlisted text htext ↦ ?_)
        rcases List.mem_append.mp htext with htext | htext
        · exact hold hget hlisted text htext
        · exact List.mem_singleton.mp htext ▸ hvalue hlisted
      · cases h
    · split at h
      · cases h
        exact hd.set hf (List.cons_ne_nil _ _)
          (fun hlisted text htext ↦ List.mem_singleton.mp htext ▸ hvalue hlisted)
      · cases h
        refine hd.set hf (List.cons_ne_nil _ _) (fun hlisted text htext ↦ ?_)
        rw [List.mem_singleton.mp htext, List.mem_cons, not_or]
        exact ⟨by decide, hvalue hlisted⟩

theorem listsWithoutSeparators_parseAttribute (hstrIp : ∀ ip, ',' ∉ env.strIp ip) {a : Attribute}
    (hd : ListsWithoutSeparators obj.objectClass obj.parsedData)
    (h : parseAttribute env allowInvalidMetadata obj a = .ok obj') :
    obj'.objectClass = obj.objectClass ∧
      ListsWithoutSeparators obj.objectClass obj'.parsedData := by
  cases hf : obj.objectClass.field? a.name with
  | none =>
    rw [parseAttribute_of_no_field hf] at h
    cases h
    exact ⟨rfl, hd⟩
  | some f =>
    cases ho : f.kind.parse env (normaliseRpslValue a.value) obj.strictValidation with
    | error e =>
      rw [parseAttribute_of_error hf ho] at h
      cases h
    | ok o =>
      obtain ⟨result, fieldMessages⟩ := o
      cases result with
      | none =>
        rw [parseAttribute_of_none hf ho] at h
        cases h
        exact ⟨rfl, hd⟩
      | some r =>
        cases hstore : storeValue f a.name r obj.parsedData with
        | error e =>
          simp only [parseAttribute, hf, ho, hstore, bind, Except.bind] at h
          cases h
        | ok parsedData =>
          rw [parseAttribute_of_some hf ho hstore] at h
          cases hupdate : updateResources f allowInvalidMetadata obj.resources r with
          | error e =>
            rw [hupdate] at h
            cases h
          | ok resources =>
            rw [hupdate] at h
            cases h
            exact ⟨rfl, hd.storeValue hf (fun hkind ↦ isListed_parse hstrIp hkind ho) hstore⟩

theorem listsWithoutSeparators_foldlM (hstrIp : ∀ ip, ',' ∉ env.strIp ip) {data : List Attribute}
    (hd : ListsWithoutSeparators obj.objectClass obj.parsedData)
    (h : data.foldlM (parseAttribute env allowInvalidMetadata) obj = .ok obj') :
    obj'.objectClass = obj.objectClass ∧
      ListsWithoutSeparators obj.objectClass obj'.parsedData := by
  induction data generalizing obj with
  | nil =>
    cases h
    exact ⟨rfl, hd⟩
  | cons a data ih =>
    rw [List.foldlM_cons] at h
    obtain ⟨obj'', ha, hrest⟩ := bind_eq_ok_iff.mp h
    obtain ⟨hclass, hd'⟩ := listsWithoutSeparators_parseAttribute hstrIp hd ha
    obtain ⟨hclass', hd''⟩ := ih (hclass ▸ hd') hrest
    exact ⟨hclass'.trans hclass, hclass ▸ hd''⟩

/-- The source of an object is a field of every class that holds no list. -/
theorem field?_source : ∀ c ∈ objectClasses, ∃ f, c.field? "source".toList = some f ∧
    f.kind.isListed = false := by
  decide

theorem ListsWithoutSeparators.withDefaultSource (hc : obj.objectClass ∈ objectClasses)
    (hd : ListsWithoutSeparators obj.objectClass obj.parsedData) :
    ListsWithoutSeparators obj.objectClass obj.withDefaultSource.parsedData := by
  unfold ParsedObject.withDefaultSource
  split
  · obtain ⟨f, hf, hkind⟩ := field?_source obj.objectClass hc
    exact hd.set hf (List.cons_ne_nil _ _) (fun hlisted ↦ by rw [hkind] at hlisted; cases hlisted)
  · exact hd

/-- Cleaning changes only the data of key certificates. -/
theorem parsedData_cleanIfValid (hclass : obj.rpslObjectClass ≠ "key-cert") :
    (obj.cleanIfValid env).parsedData = obj.parsedData := by
  unfold ParsedObject.cleanIfValid
  split
  · unfold ParsedObject.clean
    split
    · unfold ParsedObject.cleanMntner
      dsimp only
      split <;> rfl
    · rfl
  · rfl

/-- The class of a parsed object is one of the classes. -/
theorem mem_objectClasses {text : List Char} {strictValidation : Bool}
    {defaultSource : Option (List Char)}
    (h : rpslObjectFromText env text strictValidation defaultSource = .ok obj) :
    obj.objectClass ∈ objectClasses := by
  unfold rpslObjectFromText at h
  dsimp only at h
  split at h
  · cases h
  · next c hc =>
    have hmem := mem_of_findClass hc
    rwa [objectClass_validateObject hmem h]

/-- The listed fields of an object have no values with separators. -/
theorem listsWithoutSeparators_rpslObjectFromText (hstrIp : ∀ ip, ',' ∉ env.strIp ip)
    {text : List Char} {strictValidation : Bool} {defaultSource : Option (List Char)}
    (h : rpslObjectFromText env text strictValidation defaultSource = .ok obj)
    (hclass : obj.rpslObjectClass ≠ "key-cert") :
    ListsWithoutSeparators obj.objectClass obj.parsedData := by
  unfold rpslObjectFromText at h
  dsimp only at h
  split at h
  · cases h
  · next c hc =>
    have hmem := mem_of_findClass hc
    obtain ⟨parsed, hparsed, rfl⟩ := validateObject_eq_ok h
    obtain ⟨hcounted, -, hdata, -⟩ := countedObject_frame c text strictValidation defaultSource
    change (countedObject c text strictValidation defaultSource).objectData.foldlM _
      { countedObject c text strictValidation defaultSource with objectData := [] } = _ at hparsed
    have hnil : ListsWithoutSeparators
        (countedObject c text strictValidation defaultSource).objectClass
        (countedObject c text strictValidation defaultSource).parsedData := by
      rw [hdata]
      intro attr v hv
      cases hv
    obtain ⟨hparsedClass, hd⟩ := listsWithoutSeparators_foldlM hstrIp (by exact hnil) hparsed
    dsimp only at hparsedClass hd
    have hsource := ListsWithoutSeparators.withDefaultSource
      (by rw [hparsedClass, hcounted]; exact hmem) (hparsedClass ▸ hd)
    have hframe := (cleanIfValid_frame env parsed.withDefaultSource).1
    have hdefault := (withDefaultSource_frame parsed).1
    rw [hframe, hdefault, parsedData_cleanIfValid]
    · exact hsource
    · unfold ParsedObject.rpslObjectClass at hclass ⊢
      rwa [hframe] at hclass

end Objects

end Irrd.Rpsl
