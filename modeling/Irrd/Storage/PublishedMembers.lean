import Irrd.Storage.PreloadAccepted

/-!
# Published members of sets

The members that an update of sets publishes, against what a set lists and the objects it admits by
reference. The update reads the maintainers of an object without a default. Source:
`irrd/storage/preload.py:532–578`.
-/

namespace Irrd.Storage

open Irrd.Base Irrd.Rpsl Irrd.Utils

/-- An object that is a member of a set by reference. -/
structure IsReferringMember (kind : SetObjectClass) (set row : RPSLDatabaseObject) : Prop where
  memberClass : row.objectClass ∈ kind.memberClasses
  visible : row.isVisible = true
  source : row.source = set.source
  memberOf : set.rpslPk ∈ row.parsedValues "member-of"
  mntner : "ANY" ∈ set.parsedValues "mbrs-by-ref" ∨
    ∃ mntner ∈ set.parsedValues "mbrs-by-ref", mntner ∈ row.parsedValues "mnt-by"

/-- What is to be published as a member of a set: what it lists itself, and the name of each object
that is a member by reference. -/
def IsMember (rows : List RPSLDatabaseObject) (kind : SetObjectClass) (set : RPSLDatabaseObject)
    (member : String) : Prop :=
  member ∈ set.parsedValues "members" ∨ member ∈ set.parsedValues "mp-members" ∨
    ∃ row ∈ rows, IsReferringMember kind set row ∧ row.classAttribute = some member

/-- An update that does not raise, and has the visible sets with exactly their members. -/
def PublishesMembers (rows : List RPSLDatabaseObject) (kind : SetObjectClass) : Prop :=
  ∃ store, updateSet rows kind = .ok store ∧
    (∀ set ∈ rows, set.objectClass = kind.name → set.isVisible = true →
      ∃ members, store.lookup (storeKey set.source set.rpslPk) = some members ∧
        ∀ member, member ∈ members ↔ IsMember rows kind set member) ∧
    ∀ key ∈ store, ∃ set ∈ rows, set.objectClass = kind.name ∧ set.isVisible = true ∧
      key = storeKey set.source set.rpslPk

/-- Every visible object has maintainers if it names a visible set that admits some maintainers
only. -/
def HasNeededMntners (rows : List RPSLDatabaseObject) (kind : SetObjectClass) : Prop :=
  ∀ row ∈ rows, row.objectClass ∈ kind.memberClasses → row.isVisible = true →
    ∀ set ∈ rows, set.objectClass = kind.name → set.isVisible = true → set.source = row.source →
      set.rpslPk ∈ row.parsedValues "member-of" → set.parsedValues "mbrs-by-ref" ≠ [] →
        "ANY" ∉ set.parsedValues "mbrs-by-ref" → row.parsedData.lookup "mnt-by" ≠ none

section Collected

variable {rows : List RPSLDatabaseObject} {kind : SetObjectClass}

/-- The references are what visible objects name in `member-of`. -/
theorem mem_references_iff {classes : List String} {row : RPSLDatabaseObject} {memberOf : String} :
    (row, memberOf) ∈ references rows classes ↔
      row ∈ suppressedQuery rows classes ∧ memberOf ∈ row.parsedValues "member-of" := by
  constructor
  · exact mem_references
  · rintro ⟨hrow, hmemberOf⟩
    apply List.mem_flatMap.mpr
    refine ⟨row, List.mem_filter.mpr ⟨hrow, ?_⟩, List.mem_map.mpr ⟨memberOf, hmemberOf, rfl⟩⟩
    cases hlookup : row.parsedData.lookup "member-of" with
    | none =>
      rw [RPSLDatabaseObject.parsedValues, hlookup] at hmemberOf
      cases hmemberOf
    | some values => rfl

theorem admits_iff (set row : RPSLDatabaseObject) : set.admits row = true ↔
    "ANY" ∈ set.parsedValues "mbrs-by-ref" ∨
      ∃ mntner ∈ set.parsedValues "mbrs-by-ref", mntner ∈ row.parsedValues "mnt-by" := by
  unfold RPSLDatabaseObject.admits
  rw [decide_eq_true_eq]

/-- The members that are collected are those to be published. -/
theorem mem_membersOf_iff (set : RPSLDatabaseObject) (member : String) :
    member ∈ membersOf rows kind set ↔ IsMember rows kind set member := by
  unfold membersOf directMembers referringMembers IsMember
  rw [Finset.mem_union, List.mem_toFinset, List.mem_toFinset, List.mem_append, or_assoc]
  apply or_congr_right
  apply or_congr_right
  simp only [List.mem_flatMap, List.mem_filter, decide_eq_true_eq, Option.mem_toList]
  constructor
  · rintro ⟨⟨row, memberOf⟩, ⟨href, hsource, rfl, hadmits⟩, hvalue⟩
    obtain ⟨hrow, hmemberOf⟩ := mem_references_iff.mp href
    obtain ⟨hmem, hclass, hvisible⟩ := mem_suppressedQuery.mp hrow
    exact ⟨row, hmem, ⟨hclass, hvisible, hsource, hmemberOf, (admits_iff set row).mp hadmits⟩,
      hvalue⟩
  · rintro ⟨row, hmem, hmember, hvalue⟩
    have hrow := mem_suppressedQuery.mpr ⟨hmem, hmember.memberClass, hmember.visible⟩
    exact ⟨(row, set.rpslPk), ⟨mem_references_iff.mpr ⟨hrow, hmember.memberOf⟩, hmember.source, rfl,
      (admits_iff set row).mpr hmember.mntner⟩, hvalue⟩

/-- No reference is refused if and only if the objects have the maintainers that are needed. -/
theorem not_refused_iff (hkeys : (rows.map RPSLDatabaseObject.key).Nodup) :
    (∀ reference ∈ references rows kind.memberClasses, ¬ Refused rows kind reference) ↔
      HasNeededMntners rows kind := by
  constructor
  · intro hnever row hrow hclass hvisible set hset hsetClass hsetVisible hsource
      hmemberOf hrefs hany hnone
    have href := mem_references_iff.mpr
      ⟨mem_suppressedQuery.mpr ⟨hrow, hclass, hvisible⟩, hmemberOf⟩
    refine hnever _ href
      ⟨set, (findSet_eq_some_iff hkeys).mpr ⟨?_, hsource, rfl⟩, hrefs, hany, hnone⟩
    exact mem_suppressedQuery.mpr ⟨hset, List.mem_singleton.mpr hsetClass, hsetVisible⟩
  · rintro hneeded ⟨row, memberOf⟩ href ⟨set, hfind, hrefs, hany, hnone⟩
    obtain ⟨hrow, hmemberOf⟩ := mem_references_iff.mp href
    obtain ⟨hmem, hclass, hvisible⟩ := mem_suppressedQuery.mp hrow
    obtain ⟨hquery, hsource, rfl⟩ := (findSet_eq_some_iff hkeys).mp hfind
    obtain ⟨hset, hsetClass, hsetVisible⟩ := mem_suppressedQuery.mp hquery
    exact hneeded row hmem hclass hvisible set hset (List.mem_singleton.mp hsetClass) hsetVisible
      hsource hmemberOf hrefs hany hnone

/-- A store with the members of all sets publishes them. -/
theorem publishes_of_holdsMembers (hrows : Collectable rows) {store : PreloadDict}
    (hupdate : updateSet rows kind = .ok store)
    (h : HoldsMembers rows kind (references rows kind.memberClasses) store) :
    PublishesMembers rows kind := by
  refine ⟨store, hupdate, ?_, ?_⟩
  · intro set hset hclass hvisible
    have hfind : findSet rows kind set.source set.rpslPk = some set := by
      apply (findSet_eq_some_iff hrows.keys).mpr
      exact ⟨mem_suppressedQuery.mpr ⟨hset, List.mem_singleton.mpr hclass, hvisible⟩, rfl, rfl⟩
    have hlookup := h.lookup set.source set.rpslPk (hrows.sources set hset)
    rw [hfind, Option.map_some] at hlookup
    exact ⟨_, hlookup, fun member ↦ mem_membersOf_iff set member⟩
  · intro key hkey
    obtain ⟨set, hset, rfl⟩ := h.keys key hkey
    obtain ⟨hmem, hclass, hvisible⟩ := mem_suppressedQuery.mp hset
    exact ⟨set, hmem, List.mem_singleton.mp hclass, hvisible, rfl⟩

/-- An update of sets publishes their members if and only if the objects have the maintainers that
are needed. -/
theorem publishes_iff_hasNeededMntners (hrows : Collectable rows) :
    PublishesMembers rows kind ↔ HasNeededMntners rows kind := by
  obtain ⟨hok, herror⟩ := updateSet_spec hrows kind
  rw [← not_refused_iff hrows.keys]
  constructor
  · rintro ⟨store, hupdate, -⟩ reference href hrefused
    obtain ⟨e, hfailed⟩ := herror ⟨reference, href, hrefused⟩
    rw [hfailed] at hupdate
    cases hupdate
  · intro hnever
    obtain ⟨store, hupdate, hholds⟩ := hok hnever
    exact publishes_of_holdsMembers hrows hupdate hholds

end Collected

/-- For every database of objects that the parser accepts, strictly or not, and of pseudo-IRR
objects, in configured sources: an update of as-sets or route-sets raises no exception and publishes
exactly the members of the visible sets, if and only if the visible objects have maintainers where
these are needed. -/
theorem publishesMembers_iff {env : Environment} (hstrIp : ∀ ip, ',' ∉ env.strIp ip)
    (objects : KeyedTable RPSLDatabaseObject.key)
    (hstored : ∀ row ∈ objects.rows, IsAccepted env row ∨ IsPseudoIrr row)
    (hsources : ∀ row ∈ objects.rows, isSourceName row.source = true) (kind : SetObjectClass) :
    PublishesMembers objects.rows kind ↔ HasNeededMntners objects.rows kind :=
  publishes_iff_hasNeededMntners
    (storable_of_accepted hstrIp objects hstored hsources).toCollectable

section Examples

/-- A row with an autonomous system that names a set, and has no maintainers. -/
def autNumRow : RPSLDatabaseObject :=
  { asSetRow "AS65000" [] with
    objectClass := "aut-num"
    parsedData := [("aut-num", ["AS65000"]), ("member-of", ["AS-M"]), ("source", ["TEST"])] }

/-- A row with a set that admits members by reference. -/
def admittingRow (mntner : String) : RPSLDatabaseObject :=
  asSetRow "AS-M" [("mbrs-by-ref", [mntner])]

theorem isAccepted_autNumRow : IsAccepted plainEnvironment autNumRow :=
  ⟨"aut-num: AS65000\nmember-of: AS-M\nsource: TEST\n".toList, false, none, _,
    ⟨fun _ ↦ false, fun _ ↦ false, fun _ ↦ []⟩, rfl, rfl, rfl, rfl, rfl, rfl⟩

theorem isAccepted_admittingAny : IsAccepted plainEnvironment (admittingRow "ANY") :=
  ⟨"as-set: AS-M\nmbrs-by-ref: ANY\nsource: TEST\n".toList, false, none, _,
    ⟨fun _ ↦ false, fun _ ↦ false, fun _ ↦ []⟩, rfl, rfl, rfl, rfl, rfl, rfl⟩

theorem isAccepted_admittingMntner : IsAccepted plainEnvironment (admittingRow "MNT-A") :=
  ⟨"as-set: AS-M\nmbrs-by-ref: MNT-A\nsource: TEST\n".toList, false, none, _,
    ⟨fun _ ↦ false, fun _ ↦ false, fun _ ↦ []⟩, rfl, rfl, rfl, rfl, rfl, rfl⟩

/-- A database with the set and the autonomous system. -/
def setAndAutNum (mntner : String) : KeyedTable RPSLDatabaseObject.key :=
  ⟨[admittingRow mntner, autNumRow], by
    simp [RPSLDatabaseObject.key, ObjectColumns.key, admittingRow, asSetRow, autNumRow]⟩

/-- A row with the pseudo-IRR object of a ROA. -/
def roaRow : RPSLDatabaseObject :=
  { asSetRow "192.0.2.0/24AS65000/ML24" [] with
    source := "RPKI"
    objectClass := "route"
    parsedData := [("route", ["192.0.2.0/24"]), ("origin", ["AS65000"]), ("source", ["RPKI"]),
      ("rpki_max_length", ["24"])] }

theorem isPseudoIrr_roaRow : IsPseudoIrr roaRow :=
  ⟨⟨false, none, []⟩, ⟨[], [], []⟩,
    ⟨fun _ ↦ none, fun ip ↦ dottedQuad ip ++ "/24", fun _ _ ↦ false⟩,
    fun _ _ ↦ "", ⟨⟨4, 0xC0000200, 24⟩, 65000, 24, "TA"⟩, by decide +kernel⟩

/-- A database with the set, the autonomous system and the ROA. -/
def setAutNumAndRoa : KeyedTable RPSLDatabaseObject.key :=
  ⟨[admittingRow "ANY", autNumRow, roaRow], by decide⟩

/-- The set that admits all maintainers has the autonomous system as its member. -/
theorem publishesMembers_any : PublishesMembers setAutNumAndRoa.rows .asSet ↔
    HasNeededMntners setAutNumAndRoa.rows .asSet := by
  have hall {P : RPSLDatabaseObject → Prop} (hset : P (admittingRow "ANY")) (hautNum : P autNumRow)
      (hroa : P roaRow) : ∀ row ∈ setAutNumAndRoa.rows, P row := by
    simp [setAutNumAndRoa, hset, hautNum, hroa]
  exact publishesMembers_iff comma_notMem_strDottedQuad setAutNumAndRoa
    (hall (.inl isAccepted_admittingAny) (.inl isAccepted_autNumRow) (.inr isPseudoIrr_roaRow))
    (hall (by decide) (by decide) (by decide)) .asSet

/-- The update fails where the set admits one maintainer, and all objects are accepted. -/
theorem not_publishesMembers_withoutMntBy :
    (∀ row ∈ (setAndAutNum "MNT-A").rows, IsAccepted plainEnvironment row ∧
        isSourceName row.source = true) ∧
      updateSet (setAndAutNum "MNT-A").rows .asSet = .error .keyError ∧
      ¬ PublishesMembers (setAndAutNum "MNT-A").rows .asSet := by
  have hfailed : updateSet (setAndAutNum "MNT-A").rows .asSet = .error .keyError := rfl
  refine ⟨fun row hrow ↦ ?_, hfailed, ?_⟩
  · rcases List.mem_pair.mp hrow with rfl | rfl
    · exact ⟨isAccepted_admittingMntner, by decide⟩
    · exact ⟨isAccepted_autNumRow, by decide⟩
  · rintro ⟨store, hupdate, -⟩
    rw [hfailed] at hupdate
    cases hupdate

end Examples

end Irrd.Storage
