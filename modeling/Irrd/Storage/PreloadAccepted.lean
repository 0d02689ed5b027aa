import Irrd.Rpki.Importer
import Irrd.Rpsl.ListedValues
import Irrd.Rpsl.WrittenObject
import Irrd.Storage.PreloadFaithful
import Irrd.Utils.UnicodeText
import Mathlib.Data.Finset.Sort
import Mathlib.Data.String.Basic

/-!
# Accepted objects in the preload store

Objects that the parser accepts, or that stand for ROAs, in sources with configured names, are
stored under keys with one source and name, and the members of their sets have no separators.
-/

namespace Irrd.Storage

open Irrd.Base Irrd.Rpsl Irrd.Utils

/-- `SOURCE_NAME_RE`, `irrd/conf/__init__.py:25`. The end of the pattern permits a final newline. -/
def isSourceName (name : String) : Bool :=
  let text := name.toList
  let text := if text.getLast? = some '\n' then text.dropLast else text
  2 ≤ text.length && text.head?.any Char.isUpper &&
    text.getLast?.any (fun c ↦ c.isUpper || c.isDigit) &&
    text.all (fun c ↦ c.isUpper || c.isDigit || c = '-')

/-- A row with an object that the parser accepts. -/
def IsAccepted (env : Environment) (row : RPSLDatabaseObject) : Prop :=
  ∃ text strictValidation defaultSource obj render,
    rpslObjectFromText env text strictValidation defaultSource = .ok obj ∧ obj.errors = [] ∧
      row.rpslPk = (writtenObject render obj).pk ∧
      row.source = (writtenObject render obj).source ∧
      row.objectClass = (writtenObject render obj).rpslObjectClass ∧
      row.parsedData = (writtenObject render obj).parsedData

/-- A row with the pseudo-IRR object of a ROA. -/
def IsPseudoIrr (row : RPSLDatabaseObject) : Prop :=
  ∃ (s : Conf.Settings) (v : Scopefilter.ScopeFilterValidator) (ipy : Rpki.IPyFunctions)
    (pseudoIrrRemarks : Nat → String → String) (r : Rpki.ROA),
    row.rpslPk = (r.rpslObject s v ipy pseudoIrrRemarks).pk ∧
      row.source = (r.rpslObject s v ipy pseudoIrrRemarks).source ∧
      row.objectClass = (r.rpslObject s v ipy pseudoIrrRemarks).rpslObjectClass ∧
      row.parsedData = (r.rpslObject s v ipy pseudoIrrRemarks).parsedData

section Names

/-- The characters of the name of a source. -/
theorem mem_of_isSourceName {name : String} (hname : isSourceName name = true) {c : Char}
    (hc : c ∈ name.toList) : c = '\n' ∨ c.isUpper = true ∨ c.isDigit = true ∨ c = '-' := by
  unfold isSourceName at hname
  dsimp only at hname
  rw [Bool.and_eq_true] at hname
  have hall := List.all_eq_true.mp hname.2
  simp only [Bool.or_eq_true, decide_eq_true_eq, or_assoc] at hall
  split at hall
  · next hlast =>
    have hne : name.toList ≠ [] := List.ne_nil_of_mem hc
    have hsplit := List.dropLast_concat_getLast hne
    rw [← hsplit, List.mem_append, List.mem_singleton] at hc
    rw [List.getLast?_eq_some_getLast hne] at hlast
    rcases hc with hc | hc
    · exact .inr (hall c hc)
    · exact .inl (hc.trans (Option.some.inj hlast))
  · exact .inr (hall c hc)

theorem hasNoSeparator_of_isSourceName {name : String} (hname : isSourceName name = true) :
    HasNoSeparator name := by
  intro hc
  rcases mem_of_isSourceName hname hc with h | h | h | h <;> exact absurd h (by decide)

theorem isAscii_of_isSourceName {name : String} (hname : isSourceName name = true) :
    isAscii name = true := by
  refine List.all_eq_true.mpr (fun c hc ↦ decide_eq_true ?_)
  rcases mem_of_isSourceName hname hc with rfl | h | h | rfl
  · decide
  · have hrange : 'A'.val ≤ c.val ∧ c.val ≤ 'Z'.val := of_decide_eq_true h
    exact UInt32.le_trans hrange.2 (by decide)
  · simp only [Char.isDigit, Bool.and_eq_true, decide_eq_true_eq] at h
    exact UInt32.le_trans h.2 (by decide)
  · decide

end Names

section Accepted

variable {env : Environment} {row : RPSLDatabaseObject}

/-- The attributes of a set that list its members are listed fields. -/
theorem isListed_members : ∀ c ∈ objectClasses, c.rpslObjectClass ∈ ["as-set", "route-set"] →
    ∀ attr ∈ ["members", "mp-members"], ∀ f, c.field? attr.toList = some f →
      f.kind.isListed = true := by
  decide +kernel

/-- The first attribute of an object that can be a member by reference is required and listed. -/
theorem isListed_classAttribute : ∀ c ∈ objectClasses,
    c.rpslObjectClass ∈ ["aut-num", "route", "route6"] →
      (∀ strictValidation, c.rpslObjectClass ∈ requiredAttributes c strictValidation) ∧
        ∀ f, c.field? c.rpslObjectClass.toList = some f → f.kind.isListed = true := by
  decide +kernel

/-- The values of an attribute of a row are texts of a value of the object. -/
theorem exists_of_mem_parsedValues {obj : ParsedObject} {render : RenderSettings}
    (hparsed : row.parsedData = (writtenObject render obj).parsedData) {attr text : String}
    (h : text ∈ row.parsedValues attr) :
    ∃ value, obj.parsedData.get attr.toList = some value ∧ text.toList ∈ value.texts := by
  unfold RPSLDatabaseObject.parsedValues at h
  have hlookup : (writtenObject render obj).parsedData.lookup attr = _ :=
    lookup_stored obj.parsedData attr
  rw [hparsed, hlookup] at h
  cases hget : obj.parsedData.get attr.toList with
  | none =>
    rw [hget] at h
    cases h
  | some value =>
    rw [hget] at h
    exact ⟨value, rfl, mem_stored h⟩

theorem comma_notMem_parsedValues (hstrIp : ∀ ip, ',' ∉ env.strIp ip)
    (haccepted : IsAccepted env row)
    {attr : String} (hclass : row.objectClass ≠ "key-cert")
    (hattr : ∀ c ∈ objectClasses, c.rpslObjectClass = row.objectClass →
      ∀ f, c.field? attr.toList = some f → f.kind.isListed = true) :
    ∀ text ∈ row.parsedValues attr, ',' ∉ text.toList := by
  intro text htext
  obtain ⟨source, strictValidation, defaultSource, obj, render, hobj, -, -, -, hrow, hparsed⟩ :=
    haccepted
  obtain ⟨value, hget, htexts⟩ := exists_of_mem_parsedValues hparsed htext
  rw [hrow] at hclass
  have hlists := listsWithoutSeparators_rpslObjectFromText hstrIp hobj hclass
  obtain ⟨f, hf, -, hcommas⟩ := hlists _ value hget
  have hmem : obj.objectClass ∈ objectClasses := mem_objectClasses hobj
  exact hcommas (hattr obj.objectClass hmem hrow.symm f hf) _ htexts

/-- An object that can be a member by reference has its first attribute, which is listed. -/
theorem classAttribute_of_accepted (hstrIp : ∀ ip, ',' ∉ env.strIp ip)
    (haccepted : IsAccepted env row) (hclass : row.objectClass ∈ ["aut-num", "route", "route6"]) :
    ∃ value, row.classAttribute = some value ∧ ',' ∉ value.toList := by
  have hkeyCert : row.objectClass ≠ "key-cert" := by
    rintro h
    rw [h] at hclass
    exact absurd hclass (by decide)
  have hcommas : ∀ text ∈ row.parsedValues row.objectClass, ',' ∉ text.toList :=
    comma_notMem_parsedValues hstrIp haccepted hkeyCert
      (fun c hc heq f hf ↦ (isListed_classAttribute c hc (heq ▸ hclass)).2 f (heq ▸ hf))
  obtain ⟨source, strictValidation, defaultSource, obj, render, hobj, hvalid, -, -, hrow,
    hparsed⟩ := haccepted
  have hobjClass : obj.objectClass.rpslObjectClass = row.objectClass := hrow.symm
  have hmem : obj.objectClass ∈ objectClasses := mem_objectClasses hobj
  have hrequired := (isListed_classAttribute _ hmem (hobjClass ▸ hclass)).1 strictValidation
  obtain ⟨value, hget⟩ := Option.isSome_iff_exists.mp
    (rpslObjectFromText_valid hobj hvalid _ (List.mem_append_left _ hrequired))
  rw [hobjClass] at hget
  rw [hrow] at hkeyCert
  obtain ⟨f, -, hne, -⟩ :=
    listsWithoutSeparators_rpslObjectFromText hstrIp hobj hkeyCert _ value hget
  have hlookup : row.parsedData.lookup row.objectClass = some value.stored := by
    rw [hparsed]
    exact (lookup_stored _ _).trans (by rw [hget]; rfl)
  have hstored : value.stored ≠ [] := by
    cases value with
    | text value => exact List.cons_ne_nil _ _
    | list values => simpa [ParsedValue.stored, ParsedValue.texts] using hne
  obtain ⟨text, texts, htexts⟩ := List.exists_cons_of_ne_nil hstored
  refine ⟨text, ?_, hcommas text ?_⟩
  · unfold RPSLDatabaseObject.classAttribute
    rw [hlookup, htexts]
    rfl
  · unfold RPSLDatabaseObject.parsedValues
    rw [hlookup, htexts]
    exact List.mem_cons_self

end Accepted

section PseudoIrr

variable {row : RPSLDatabaseObject}

/-- The row of a ROA is a route with its prefix, and it names no sets. -/
theorem IsPseudoIrr.spec (h : IsPseudoIrr row) :
    (row.objectClass = "route" ∨ row.objectClass = "route6") ∧ row.classAttribute.isSome ∧
      row.parsedValues "member-of" = [] := by
  obtain ⟨s, v, ipy, remarks, r, -, -, hclass, hparsed⟩ := h
  have hdata : (r.rpslObject s v ipy remarks).parsedData =
      [((r.rpslObject s v ipy remarks).rpslObjectClass, [ipy.str r.ipPrefix]),
        ("origin", ["AS" ++ toString r.asn]), ("source", ["RPKI"]),
        ("rpki_max_length", [toString r.maxLength])] := rfl
  have hcases : row.objectClass = "route" ∨ row.objectClass = "route6" := by
    rw [hclass]
    exact ite_eq_or_eq (r.ipPrefix.version = 4) "route" "route6"
  rw [hdata, ← hclass] at hparsed
  refine ⟨hcases, ?_, ?_⟩
  · unfold RPSLDatabaseObject.classAttribute
    rw [hparsed, List.lookup_cons_self]
    rfl
  · unfold RPSLDatabaseObject.parsedValues
    rw [hparsed]
    rcases hcases with hcase | hcase <;> rw [hcase] <;> rfl

/-- A set is not the row of a ROA. -/
theorem isAccepted_of_isSet {env : Environment} (hrow : IsAccepted env row ∨ IsPseudoIrr row)
    (hclass : row.objectClass ∈ ["as-set", "route-set"]) : IsAccepted env row := by
  rcases hrow with haccepted | hpseudo
  · exact haccepted
  · rcases hpseudo.spec.1 with hroute | hroute <;> rw [hroute] at hclass <;>
      exact absurd hclass (by decide)

/-- A row that names a set is not the row of a ROA. -/
theorem isAccepted_of_mem_memberOf {env : Environment}
    (hrow : IsAccepted env row ∨ IsPseudoIrr row) {setPk : String}
    (hmemberOf : setPk ∈ row.parsedValues "member-of") : IsAccepted env row := by
  rcases hrow with haccepted | hpseudo
  · exact haccepted
  · rw [hpseudo.spec.2.2] at hmemberOf
    exact absurd hmemberOf List.not_mem_nil

end PseudoIrr

/-- Accepted objects and pseudo-IRR objects in configured sources have what storing relies on. -/
theorem storable_of_accepted {env : Environment} (hstrIp : ∀ ip, ',' ∉ env.strIp ip)
    (objects : KeyedTable RPSLDatabaseObject.key)
    (hstored : ∀ row ∈ objects.rows, IsAccepted env row ∨ IsPseudoIrr row)
    (hsources : ∀ row ∈ objects.rows, isSourceName row.source = true) : Storable objects.rows := by
  have hset {kind : SetObjectClass} {set : RPSLDatabaseObject}
      (hmem : set ∈ suppressedQuery objects.rows [kind.name]) :
      set.objectClass ∈ ["as-set", "route-set"] ∧ IsAccepted env set := by
    obtain ⟨hrow, hclass, -⟩ := mem_suppressedQuery.mp hmem
    rw [List.mem_singleton] at hclass
    have hsetClass : set.objectClass ∈ ["as-set", "route-set"] := by
      cases kind <;> simp_all [SetObjectClass.name]
    exact ⟨hsetClass, isAccepted_of_isSet (hstored set hrow) hsetClass⟩
  refine ⟨⟨objects.nodup, fun row hrow ↦ hasNoSeparator_of_isSourceName (hsources row hrow),
    fun row hrow kind hclass ↦ ?_⟩, fun row hrow ↦ isAscii_of_isSourceName (hsources row hrow),
    fun kind set hmem ↦ ?_, fun kind set hmem member hmember ↦ ?_⟩
  · rcases hstored row hrow with haccepted | hpseudo
    · obtain ⟨value, hvalue, -⟩ := classAttribute_of_accepted hstrIp haccepted
        (by cases kind <;> simp_all [SetObjectClass.memberClasses])
      rw [hvalue]
      rfl
    · exact hpseudo.spec.2.1
  · obtain ⟨_, _, _, obj, _, -, -, hpk, -⟩ := (hset hmem).2
    rw [hpk]
    exact upper_display_upperText _
  · obtain ⟨hsetClass, haccepted⟩ := hset hmem
    rcases Finset.mem_union.mp hmember with hdirect | hreferring
    · have hkeyCert : set.objectClass ≠ "key-cert" := by
        rintro h
        rw [h] at hsetClass
        exact absurd hsetClass (by decide)
      have hattr (attr : String) (hattr : attr ∈ ["members", "mp-members"]) :=
        comma_notMem_parsedValues hstrIp haccepted hkeyCert (fun c hc heq f hf ↦
          isListed_members c hc (heq ▸ hsetClass) attr hattr f hf)
      rcases List.mem_append.mp (List.mem_toFinset.mp hdirect) with h | h
      · exact hattr "members" (by decide) member h
      · exact hattr "mp-members" (by decide) member h
    · obtain ⟨reference, hreference, hvalue⟩ :=
        List.mem_flatMap.mp (List.mem_toFinset.mp hreferring)
      obtain ⟨hquery, hmemberOf⟩ := mem_references (List.mem_of_mem_filter hreference)
      obtain ⟨hrow, hclass, -⟩ := mem_suppressedQuery.mp hquery
      obtain ⟨value, hclassAttribute, hcomma⟩ := classAttribute_of_accepted hstrIp
        (isAccepted_of_mem_memberOf (hstored _ hrow) hmemberOf)
        (by cases kind <;> simp_all [SetObjectClass.memberClasses])
      rw [hclassAttribute] at hvalue
      exact List.mem_singleton.mp hvalue ▸ hcomma

section Examples

/-- An IPv4 address as text. -/
def dottedQuad (ip : IP) : String :=
  toString (ip.int / 2 ^ 24) ++ "." ++ toString (ip.int / 2 ^ 16 % 256) ++ "." ++
    toString (ip.int / 2 ^ 8 % 256) ++ "." ++ toString (ip.int % 256)

/-- Sets are iterated over in order, and addresses are IPv4 addresses. -/
def plainLibrary : PreloadLibrary where
  iterate members := members.sort (· ≤ ·)
  nodup_iterate members := members.sort_nodup (· ≤ ·)
  toFinset_iterate members := members.sort_toFinset (· ≤ ·)
  inetText := dottedQuad
  inetText_ascii ip := by
    have hdot : isAscii "." = true := by decide
    simp only [dottedQuad, isAscii_append, isAscii_toString, hdot, Bool.and_self]
  inetText_comma ip := by
    have hdot : ',' ∉ ".".toList := by decide
    simp only [dottedQuad, String.toList_append, List.mem_append, comma_notMem_toString, hdot,
      or_self, not_false_iff]

/-- A row with a set of ASes. -/
def asSetRow (rpslPk : String) (attributes : List (String × List String)) :
    RPSLDatabaseObject where
  rpslPk := rpslPk
  source := "TEST"
  objectClass := "as-set"
  parsedData := ("as-set", [rpslPk]) :: attributes ++ [("source", ["TEST"])]
  objectText := ""
  ipVersion := none
  ipFirst := none
  ipLast := none
  ipSize := none
  prefixLength := none
  ipPrefix := none
  asnFirst := none
  asnLast := none
  rpkiStatus := .notFound
  scopefilterStatus := .inScope
  routePreferenceStatus := .visible
  updated := 0
  pk := 0
  created := 0

/-- A set of ASes with a set as its member, which admits an AS by reference. -/
def outerRow : RPSLDatabaseObject := asSetRow "AS-M" [("members", ["AS1", "AS-N"])]

def innerRow : RPSLDatabaseObject := asSetRow "AS-N" [("mbrs-by-ref", ["MNT-A"])]

def memberRow : RPSLDatabaseObject :=
  { asSetRow "AS65000" [] with
    objectClass := "aut-num"
    parsedData := [("aut-num", ["AS65000"]), ("member-of", ["AS-N"]), ("mnt-by", ["MNT-A"]),
      ("source", ["TEST"])] }

theorem isAccepted_outerRow : IsAccepted plainEnvironment outerRow :=
  ⟨"as-set: AS-M\nmembers: AS1, AS-N\nsource: TEST\n".toList, false, none, _,
    ⟨fun _ ↦ false, fun _ ↦ false, fun _ ↦ []⟩, rfl, rfl, rfl, rfl, rfl, rfl⟩

theorem isAccepted_innerRow : IsAccepted plainEnvironment innerRow :=
  ⟨"as-set: AS-N\nmbrs-by-ref: MNT-A\nsource: TEST\n".toList, false, none, _,
    ⟨fun _ ↦ false, fun _ ↦ false, fun _ ↦ []⟩, rfl, rfl, rfl, rfl, rfl, rfl⟩

theorem isAccepted_memberRow : IsAccepted plainEnvironment memberRow :=
  ⟨"aut-num: AS65000\nmember-of: AS-N\nmnt-by: MNT-A\nsource: TEST\n".toList, false, none, _,
    ⟨fun _ ↦ false, fun _ ↦ false, fun _ ↦ []⟩, rfl, rfl, rfl, rfl, rfl, rfl⟩

theorem isAccepted_withoutMembers : IsAccepted plainEnvironment (asSetRow "AS-E" []) :=
  ⟨"as-set: AS-E\nsource: TEST\n".toList, false, none, _,
    ⟨fun _ ↦ false, fun _ ↦ false, fun _ ↦ []⟩, rfl, rfl, rfl, rfl, rfl, rfl⟩

/-- A set of ASes alone, in a database. -/
def setAlone (set : RPSLDatabaseObject) : KeyedTable RPSLDatabaseObject.key :=
  ⟨[set], List.nodup_singleton _⟩

theorem comma_notMem_strDottedQuad (ip : IP) : ',' ∉ plainEnvironment.strIp ip := by
  have hdigits {n : Nat} : ',' ∉ (toString n).toList := comma_notMem_toString n
  intro hc
  rcases List.mem_append.mp hc with hc | hc
  · rcases mem_joinWith hc with hc | ⟨part, hpart, hc⟩
    · cases hc
    · obtain ⟨n, -, rfl⟩ := List.mem_map.mp hpart
      exact hdigits hc
  · split at hc
    · cases hc
    · rcases List.mem_cons.mp hc with hc | hc
      · cases hc
      · exact hdigits hc

/-- A database with these sets and the AS. -/
def nestedSets : KeyedTable RPSLDatabaseObject.key := ⟨[outerRow, innerRow, memberRow], by decide⟩

theorem storable_nestedSets : Storable nestedSets.rows := by
  have hall {P : RPSLDatabaseObject → Prop} (houter : P outerRow) (hinner : P innerRow)
      (hmember : P memberRow) : ∀ row ∈ nestedSets.rows, P row := by
    simp [nestedSets, houter, hinner, hmember]
  exact storable_of_accepted comma_notMem_strDottedQuad nestedSets
    (hall (.inl isAccepted_outerRow) (.inl isAccepted_innerRow) (.inl isAccepted_memberRow))
    (hall (by decide) (by decide) (by decide))

/-- Sets with direct members and members by reference are stored and read back. -/
theorem encodesFaithfully_nestedSets : EncodesFaithfully plainLibrary nestedSets.rows := by
  refine (encodesFaithfully_iff plainLibrary storable_nestedSets).mpr (fun kind ↦ ?_)
  have hsets : suppressedQuery nestedSets.rows [SetObjectClass.asSet.name] =
      [outerRow, innerRow] := rfl
  have hrefs : references nestedSets.rows SetObjectClass.asSet.memberClasses =
      [(memberRow, "AS-N")] := rfl
  cases kind with
  | asSet =>
    constructor
    · intro reference hreference
      rw [hrefs] at hreference
      rw [List.mem_singleton.mp hreference]
      rintro ⟨set, -, -, -, hnone⟩
      cases hnone
    all_goals
      intro set hset
      rw [hsets] at hset
      rcases List.mem_pair.mp hset with rfl | rfl <;> decide +kernel
  | routeSet =>
    refine ⟨fun r hr ↦ absurd hr List.not_mem_nil, ?_, ?_, ?_⟩ <;> intro set hset <;>
      exact absurd hset List.not_mem_nil

/-- An accepted set without members is not read back as a set without members. -/
theorem not_encodesFaithfully_withoutMembers :
    IsAccepted plainEnvironment (asSetRow "AS-E" []) ∧ isSourceName "TEST" = true ∧
      ¬ EncodesFaithfully plainLibrary [asSetRow "AS-E" []] := by
  have hstorable : Storable [asSetRow "AS-E" []] :=
    storable_of_accepted comma_notMem_strDottedQuad (setAlone (asSetRow "AS-E" []))
      (fun row hrow ↦ .inl (List.mem_singleton.mp hrow ▸ isAccepted_withoutMembers))
      (fun row hrow ↦ List.mem_singleton.mp hrow ▸ by decide)
  refine ⟨isAccepted_withoutMembers, by decide, fun h ↦ ?_⟩
  have hnonempty := (encodable_of_encodesFaithfully hstorable h .asSet).nonempty
    (asSetRow "AS-E" []) List.mem_cons_self
  exact absurd hnonempty (by decide +kernel)

end Examples

end Irrd.Storage
