import Irrd.Base.KeyedTable
import Irrd.Base.Fallible
import Irrd.Storage.PreloadUpdater
import Mathlib.Data.List.Find

/-!
# Contents of new preload stores

What an update collects from the database: the prefixes of every origin, and the members of every
set, under keys from which source and name can be told apart.
-/

namespace Irrd.Storage

open Irrd.Base Irrd.Utils

section Dictionary

variable {A K V : Type} [DecidableEq K]

/-- A dictionary that is filled from a list with distinct keys has the value of the item under each
key. -/
theorem lookup_foldl_insert (key : A → K) (value : A → V) {items : List A}
    (hkeys : items.Pairwise (fun a b ↦ key a ≠ key b)) (dict : AList (fun _ : K ↦ V)) (k : K) :
    (items.foldl (fun d a ↦ d.insert (key a) (value a)) dict).lookup k =
      ((items.find? (fun a ↦ key a = k)).map value).or (dict.lookup k) := by
  induction items generalizing dict with
  | nil => rfl
  | cons a items ih =>
    obtain ⟨hnew, hkeys⟩ := List.pairwise_cons.mp hkeys
    rw [List.foldl_cons, ih hkeys]
    by_cases hk : key a = k
    · subst hk
      have hnone : items.find? (fun b ↦ key b = key a) = none :=
        List.find?_eq_none.mpr (fun b hb ↦ by simpa using (hnew b hb).symm)
      rw [hnone, AList.lookup_insert, List.find?_cons_of_pos (by simp)]
      rfl
    · rw [AList.lookup_insert_ne (Ne.symm hk), List.find?_cons_of_neg (by simpa using hk)]

end Dictionary

section Keys

/-- A name without the separator of keys. -/
def HasNoSeparator (source : String) : Prop := '_' ∉ source.toList

theorem toList_storeKey (source name : String) :
    (storeKey source name).toList = source.toList ++ '_' :: name.toList := by
  unfold storeKey
  rw [String.toList_append, String.toList_append, List.append_assoc]
  rfl

/-- The key of a source without the separator has only one source and name. -/
theorem splitOnce_storeKey {source : String} (hsource : HasNoSeparator source) (name : String) :
    splitOnce '_' (storeKey source name).toList = some (source.toList, name.toList) := by
  rw [toList_storeKey]
  exact splitOnce_append hsource _

theorem storeKey_inj {source source' name name' : String} (hsource : HasNoSeparator source)
    (hsource' : HasNoSeparator source') :
    storeKey source name = storeKey source' name' ↔ source = source' ∧ name = name' := by
  constructor
  · intro h
    have hsplit := splitOnce_storeKey hsource name
    rw [h, splitOnce_storeKey hsource'] at hsplit
    injection hsplit with hpair
    injection hpair with hs hn
    exact ⟨(String.toList_inj.mp hs).symm, (String.toList_inj.mp hn).symm⟩
  · rintro ⟨rfl, rfl⟩
    rfl

end Keys

/-- The set of a kind with this name in a source, where it is visible. -/
def findSet (rows : List RPSLDatabaseObject) (kind : SetObjectClass) (source rpslPk : String) :
    Option RPSLDatabaseObject :=
  (suppressedQuery rows [kind.name]).find? (fun row ↦ (row.source, row.rpslPk) = (source, rpslPk))

/-- Whether the maintainers of an object let it be a member by reference. -/
def RPSLDatabaseObject.admits (set row : RPSLDatabaseObject) : Bool :=
  "ANY" ∈ set.parsedValues "mbrs-by-ref" ∨
    ∃ mntner ∈ set.parsedValues "mbrs-by-ref", mntner ∈ row.parsedValues "mnt-by"

/-- The members of a set by some references. -/
def referringMembers (refs : List (RPSLDatabaseObject × String)) (set : RPSLDatabaseObject) :
    Finset String :=
  ((refs.filter (fun r ↦ r.1.source = set.source ∧ r.2 = set.rpslPk ∧ set.admits r.1)).flatMap
    (fun r ↦ r.1.classAttribute.toList)).toFinset

/-- The members of a set: those it lists, and the objects that name it and that it admits. -/
def membersOf (rows : List RPSLDatabaseObject) (kind : SetObjectClass) (set : RPSLDatabaseObject) :
    Finset String :=
  directMembers set ∪ referringMembers (references rows kind.memberClasses) set

section Collected

variable {rows : List RPSLDatabaseObject} {kind : SetObjectClass}

theorem foldl_addSet_fst (sets : List RPSLDatabaseObject) (store : PreloadDict)
    (refs : MbrsByRef) : (sets.foldl addSet (store, refs)).1 =
      sets.foldl (fun d row ↦ d.insert (storeKey row.source row.rpslPk) (directMembers row))
        store := by
  induction sets generalizing store refs with
  | nil => rfl
  | cons row sets ih => exact ih _ _

theorem foldl_addSet_snd (sets : List RPSLDatabaseObject) (store : PreloadDict)
    (refs : MbrsByRef) : (sets.foldl addSet (store, refs)).2 =
      (sets.filter (fun row ↦ row.parsedValues "mbrs-by-ref" ≠ [])).foldl (fun d row ↦
        d.insert (row.source, row.rpslPk) (row.parsedValues "mbrs-by-ref")) refs := by
  induction sets generalizing store refs with
  | nil => rfl
  | cons row sets ih =>
    rw [List.foldl_cons, addSet, ih]
    by_cases hrefs : row.parsedValues "mbrs-by-ref" = [] <;> simp [hrefs]

theorem mem_suppressedQuery {classes : List String} {row : RPSLDatabaseObject} :
    row ∈ suppressedQuery rows classes ↔
      row ∈ rows ∧ row.objectClass ∈ classes ∧ row.isVisible = true := by
  simp [suppressedQuery]

/-- The sets of a kind differ in source or name. -/
theorem pairwise_sets (hkeys : (rows.map RPSLDatabaseObject.key).Nodup) :
    (suppressedQuery rows [kind.name]).Pairwise (fun row row' ↦
      (row.source, row.rpslPk) ≠ (row'.source, row'.rpslPk)) := by
  have hrows : rows.Pairwise (fun row row' ↦ row.key ≠ row'.key) := List.pairwise_map.mp hkeys
  refine List.Pairwise.imp_of_mem ?_ (hrows.sublist List.filter_sublist)
  intro row row' hrow hrow' hne heq
  have hclass := (mem_suppressedQuery.mp hrow).2.1
  have hclass' := (mem_suppressedQuery.mp hrow').2.1
  rw [List.mem_singleton] at hclass hclass'
  injection heq with hsource hpk
  exact hne (by simp [RPSLDatabaseObject.key, ObjectColumns.key, hsource, hpk, hclass, hclass'])

/-- The visible sets of a kind, by source and name. -/
def setTable (hkeys : (rows.map RPSLDatabaseObject.key).Nodup) (kind : SetObjectClass) :
    KeyedTable (fun row : RPSLDatabaseObject ↦ (row.source, row.rpslPk)) :=
  ⟨suppressedQuery rows [kind.name], List.pairwise_map.mpr (pairwise_sets hkeys)⟩

theorem findSet_eq_some_iff (hkeys : (rows.map RPSLDatabaseObject.key).Nodup)
    {source rpslPk : String} {set : RPSLDatabaseObject} :
    findSet rows kind source rpslPk = some set ↔
      set ∈ suppressedQuery rows [kind.name] ∧ set.source = source ∧ set.rpslPk = rpslPk :=
  ((setTable hkeys kind).find_eq_some_iff (source, rpslPk) set).trans (by simp [setTable])

/-- The member store before references are followed. -/
theorem lookup_memberStore (hkeys : (rows.map RPSLDatabaseObject.key).Nodup)
    (hsources : ∀ row ∈ rows, HasNoSeparator row.source) {source : String}
    (hsource : HasNoSeparator source) (rpslPk : String) :
    ((suppressedQuery rows [kind.name]).foldl addSet (∅, ∅)).1.lookup (storeKey source rpslPk) =
      (findSet rows kind source rpslPk).map directMembers := by
  have hinj {row : RPSLDatabaseObject} (hrow : row ∈ suppressedQuery rows [kind.name]) :=
    hsources row (mem_suppressedQuery.mp hrow).1
  have hdistinct : (suppressedQuery rows [kind.name]).Pairwise (fun row row' ↦
      storeKey row.source row.rpslPk ≠ storeKey row'.source row'.rpslPk) := by
    refine (pairwise_sets hkeys).imp_of_mem ?_
    intro row row' hrow hrow' hne heq
    obtain ⟨hs, hp⟩ := (storeKey_inj (hinj hrow) (hinj hrow')).mp heq
    exact hne (by rw [hs, hp])
  rw [foldl_addSet_fst, lookup_foldl_insert _ _ hdistinct, AList.lookup_empty, Option.or_none]
  congr 1
  refine List.find?_congr (fun row hrow ↦ ?_)
  exact decide_eq_decide.mpr ((storeKey_inj (hinj hrow) hsource).trans Prod.mk_inj.symm)

/-- The maintainers through whom a set has members by reference. -/
theorem lookup_mbrsByRef (hkeys : (rows.map RPSLDatabaseObject.key).Nodup)
    (source rpslPk : String) :
    ((suppressedQuery rows [kind.name]).foldl addSet (∅, ∅)).2.lookup (source, rpslPk) =
      ((findSet rows kind source rpslPk).map (·.parsedValues "mbrs-by-ref")).filter (· ≠ []) := by
  have hdistinct : ((suppressedQuery rows [kind.name]).filter (fun row ↦
      row.parsedValues "mbrs-by-ref" ≠ [])).Pairwise (fun row row' ↦
        (row.source, row.rpslPk) ≠ (row'.source, row'.rpslPk)) :=
    (pairwise_sets hkeys).sublist List.filter_sublist
  rw [foldl_addSet_snd, lookup_foldl_insert _ _ hdistinct, AList.lookup_empty, Option.or_none]
  have hfilter := (setTable hkeys kind).find_filter (fun row ↦
    row.parsedValues "mbrs-by-ref" ≠ []) (source, rpslPk)
  change ((suppressedQuery rows [kind.name]).filter _).find? _ = (findSet rows kind _ _).filter _
    at hfilter
  rw [hfilter]
  cases findSet rows kind source rpslPk with
  | none => rfl
  | some set => by_cases hrefs : set.parsedValues "mbrs-by-ref" = [] <;> simp [Option.filter, hrefs]

/-- A reference for which the maintainers of the object are needed, where it has none. -/
def Refused (rows : List RPSLDatabaseObject) (kind : SetObjectClass)
    (reference : RPSLDatabaseObject × String) : Prop :=
  ∃ set, findSet rows kind reference.1.source reference.2 = some set ∧
    set.parsedValues "mbrs-by-ref" ≠ [] ∧ "ANY" ∉ set.parsedValues "mbrs-by-ref" ∧
    reference.1.parsedData.lookup "mnt-by" = none

/-- A store with the members of all sets by the references that were followed. -/
structure HoldsMembers (rows : List RPSLDatabaseObject) (kind : SetObjectClass)
    (done : List (RPSLDatabaseObject × String)) (store : PreloadDict) : Prop where
  lookup : ∀ source rpslPk, HasNoSeparator source → store.lookup (storeKey source rpslPk) =
    (findSet rows kind source rpslPk).map (fun set ↦ directMembers set ∪ referringMembers done set)
  keys : ∀ key ∈ store, ∃ set ∈ suppressedQuery rows [kind.name],
    key = storeKey set.source set.rpslPk

theorem referringMembers_append (done : List (RPSLDatabaseObject × String))
    (reference : RPSLDatabaseObject × String) (set : RPSLDatabaseObject) :
    referringMembers (done ++ [reference]) set = referringMembers done set ∪
      (if reference.1.source = set.source ∧ reference.2 = set.rpslPk ∧ set.admits reference.1 then
        reference.1.classAttribute.toList.toFinset else ∅) := by
  unfold referringMembers
  rw [List.filter_append, List.flatMap_append, List.toFinset_append]
  congr 1
  split
  · next h => simp [h]
  · next h => simp [h]

/-- A reference that adds no member. -/
theorem HoldsMembers.skip {done : List (RPSLDatabaseObject × String)} {store : PreloadDict}
    (h : HoldsMembers rows kind done store) {reference : RPSLDatabaseObject × String}
    (hnot : ∀ set, findSet rows kind reference.1.source reference.2 = some set →
      set.admits reference.1 = false) : HoldsMembers rows kind (done ++ [reference]) store := by
  refine ⟨fun source rpslPk hsource ↦ ?_, h.keys⟩
  rw [h.lookup source rpslPk hsource]
  cases hfind : findSet rows kind source rpslPk with
  | none => rfl
  | some set =>
    rw [Option.map_some, Option.map_some, referringMembers_append, if_neg, Finset.union_empty]
    rintro ⟨hs, hp, hadmits⟩
    have hset := List.find?_some hfind
    simp only [decide_eq_true_eq, Prod.mk.injEq] at hset
    rw [hnot set (by rw [hs, hp, hset.1, hset.2, hfind])] at hadmits
    cases hadmits

/-- A reference that adds a member. -/
theorem HoldsMembers.add {done : List (RPSLDatabaseObject × String)} {store : PreloadDict}
    (h : HoldsMembers rows kind done store) {reference : RPSLDatabaseObject × String}
    (hsource : HasNoSeparator reference.1.source) {set : RPSLDatabaseObject}
    (hset : findSet rows kind reference.1.source reference.2 = some set)
    (hadmits : set.admits reference.1 = true) {value : String}
    (hvalue : reference.1.classAttribute = some value) :
    ∃ store', addMember store reference.1 reference.2 = .ok store' ∧
      HoldsMembers rows kind (done ++ [reference]) store' := by
  have hfound := List.find?_some hset
  simp only [decide_eq_true_eq, Prod.mk.injEq] at hfound
  have hlookup := h.lookup _ reference.2 hsource
  rw [hset, Option.map_some] at hlookup
  refine ⟨store.add (storeKey reference.1.source reference.2) value, ?_, ?_, ?_⟩
  · simp only [addMember, hlookup, hvalue]
  · intro source rpslPk hs
    unfold PreloadDict.add
    by_cases hkey : storeKey source rpslPk = storeKey reference.1.source reference.2
    · obtain ⟨rfl, rfl⟩ := (storeKey_inj hs hsource).mp hkey
      rw [AList.lookup_insert, hset, hlookup, Option.map_some, referringMembers_append,
        if_pos ⟨hfound.1.symm, hfound.2.symm, hadmits⟩, hvalue, ← Finset.union_assoc]
      congr 1
      ext member
      simp
    · rw [AList.lookup_insert_ne hkey, h.lookup source rpslPk hs]
      cases hfind : findSet rows kind source rpslPk with
      | none => rfl
      | some set' =>
        rw [Option.map_some, Option.map_some, referringMembers_append, if_neg, Finset.union_empty]
        rintro ⟨hs', hp', -⟩
        have hset' := List.find?_some hfind
        simp only [decide_eq_true_eq, Prod.mk.injEq] at hset'
        exact hkey (by rw [hs', hp', hset'.1, hset'.2])
  · intro key hkey
    rcases (AList.mem_insert _).mp hkey with rfl | hkey
    · exact ⟨set, List.mem_of_find?_eq_some hset, by rw [hfound.1, hfound.2]⟩
    · exact h.keys key hkey

/-- Rows that have what an update reads from them. -/
structure Collectable (rows : List RPSLDatabaseObject) : Prop where
  keys : (rows.map RPSLDatabaseObject.key).Nodup
  sources : ∀ row ∈ rows, HasNoSeparator row.source
  classAttribute : ∀ row ∈ rows, ∀ kind : SetObjectClass, row.objectClass ∈ kind.memberClasses →
    row.classAttribute.isSome

theorem mem_references {classes : List String} {reference : RPSLDatabaseObject × String}
    (h : reference ∈ references rows classes) :
    reference.1 ∈ suppressedQuery rows classes ∧
      reference.2 ∈ reference.1.parsedValues "member-of" := by
  obtain ⟨row, hrow, href⟩ := List.mem_flatMap.mp h
  obtain ⟨memberOf, hmemberOf, rfl⟩ := List.mem_map.mp href
  exact ⟨List.mem_of_mem_filter hrow, hmemberOf⟩

/-- The mappings of members by reference, as the loop reads them. -/
theorem addReference_eq (hrows : Collectable rows) (store : PreloadDict)
    (reference : RPSLDatabaseObject × String) :
    addReference ((suppressedQuery rows [kind.name]).foldl addSet (∅, ∅)).2 store reference =
      match findSet rows kind reference.1.source reference.2 with
      | none => .ok store
      | some set =>
        if set.parsedValues "mbrs-by-ref" = [] then .ok store
        else if "ANY" ∈ set.parsedValues "mbrs-by-ref" then
          addMember store reference.1 reference.2
        else
          match reference.1.parsedData.lookup "mnt-by" with
          | none => .error .keyError
          | some mntBy =>
            if ∃ mntner ∈ set.parsedValues "mbrs-by-ref", mntner ∈ mntBy then
              addMember store reference.1 reference.2
            else .ok store := by
  unfold addReference
  dsimp only
  rw [lookup_mbrsByRef hrows.keys]
  cases findSet rows kind reference.1.source reference.2 with
  | none => rfl
  | some set =>
    by_cases hrefs : set.parsedValues "mbrs-by-ref" = []
    · simp [Option.filter, hrefs]
    · rw [Option.map_some, Option.filter_some_pos (by simpa using hrefs)]
      exact Eq.trans rfl (if_neg hrefs).symm

theorem addReference_of_refused (hrows : Collectable rows) {store : PreloadDict}
    {reference : RPSLDatabaseObject × String} (hrefused : Refused rows kind reference) :
    addReference ((suppressedQuery rows [kind.name]).foldl addSet (∅, ∅)).2 store reference =
      .error .keyError := by
  obtain ⟨set, hset, hrefs, hany, hmntBy⟩ := hrefused
  rw [addReference_eq hrows, hset]
  simp only [hrefs, if_false, hany, hmntBy]

/-- A reference that is not refused adds the object to the set that admits it. -/
theorem HoldsMembers.addReference (hrows : Collectable rows)
    {done : List (RPSLDatabaseObject × String)} {store : PreloadDict}
    (h : HoldsMembers rows kind done store) {reference : RPSLDatabaseObject × String}
    (href : reference ∈ references rows kind.memberClasses)
    (hrefused : ¬ Refused rows kind reference) :
    ∃ store', addReference ((suppressedQuery rows [kind.name]).foldl addSet (∅, ∅)).2 store
      reference = .ok store' ∧ HoldsMembers rows kind (done ++ [reference]) store' := by
  obtain ⟨hrow, hclass, -⟩ := mem_suppressedQuery.mp (mem_references href).1
  have hsource := hrows.sources _ hrow
  obtain ⟨value, hvalue⟩ := Option.isSome_iff_exists.mp (hrows.classAttribute _ hrow kind hclass)
  rw [addReference_eq hrows]
  cases hset : findSet rows kind reference.1.source reference.2 with
  | none => exact ⟨store, rfl, h.skip (fun set hfind ↦ by rw [hset] at hfind; cases hfind)⟩
  | some set =>
    have hskip (hnot : set.admits reference.1 = false) :
        HoldsMembers rows kind (done ++ [reference]) store :=
      h.skip (fun set' hfind ↦ by rw [hset] at hfind; cases hfind; exact hnot)
    dsimp only
    by_cases hrefs : set.parsedValues "mbrs-by-ref" = []
    · rw [if_pos hrefs]
      exact ⟨store, rfl, hskip (by simp [RPSLDatabaseObject.admits, hrefs])⟩
    rw [if_neg hrefs]
    by_cases hany : "ANY" ∈ set.parsedValues "mbrs-by-ref"
    · rw [if_pos hany]
      exact h.add hsource hset (by simp [RPSLDatabaseObject.admits, hany]) hvalue
    rw [if_neg hany]
    cases hmntBy : reference.1.parsedData.lookup "mnt-by" with
    | none => exact absurd ⟨set, hset, hrefs, hany, hmntBy⟩ hrefused
    | some mntBy =>
      have hvalues : reference.1.parsedValues "mnt-by" = mntBy := by
        simp [RPSLDatabaseObject.parsedValues, hmntBy]
      dsimp only
      split
      · next hmeets =>
        refine h.add hsource hset ?_ hvalue
        unfold RPSLDatabaseObject.admits
        rw [hvalues]
        exact decide_eq_true (.inr hmeets)
      · next hmeets =>
        refine ⟨store, rfl, hskip ?_⟩
        unfold RPSLDatabaseObject.admits
        rw [hvalues]
        exact decide_eq_false (not_or.mpr ⟨hany, hmeets⟩)

/-- The store of the sets, with the members that they list. -/
theorem holdsMembers_nil (hrows : Collectable rows) : HoldsMembers rows kind []
    ((suppressedQuery rows [kind.name]).foldl addSet (∅, ∅)).1 := by
  constructor
  · intro source rpslPk hsource
    rw [lookup_memberStore hrows.keys hrows.sources hsource]
    congr 1
    funext set
    simp [referringMembers]
  · intro key hkey
    rw [foldl_addSet_fst] at hkey
    have hkeys (sets : List RPSLDatabaseObject) (store : PreloadDict)
        (hmem : key ∈ sets.foldl (fun d row ↦
          d.insert (storeKey row.source row.rpslPk) (directMembers row)) store) :
        (∃ set ∈ sets, key = storeKey set.source set.rpslPk) ∨ key ∈ store := by
      induction sets generalizing store with
      | nil => exact .inr hmem
      | cons row sets ih =>
        rcases ih _ hmem with ⟨set, hset, heq⟩ | hmem
        · exact .inl ⟨set, List.mem_cons_of_mem row hset, heq⟩
        · rcases (AList.mem_insert _).mp hmem with heq | hmem
          · exact .inl ⟨row, List.mem_cons_self, heq⟩
          · exact .inr hmem
    exact (hkeys _ _ hkey).resolve_right (AList.notMem_empty key)

/-- An update of sets fails exactly if a reference is refused, and has the members of all sets
otherwise. -/
theorem updateSet_spec (hrows : Collectable rows) (kind : SetObjectClass) :
    ((∀ reference ∈ references rows kind.memberClasses, ¬ Refused rows kind reference) →
        ∃ store, updateSet rows kind = .ok store ∧
          HoldsMembers rows kind (references rows kind.memberClasses) store) ∧
      ((∃ reference ∈ references rows kind.memberClasses, Refused rows kind reference) →
        ∃ e, updateSet rows kind = .error e) := by
  have hstep : ∀ reference ∈ references rows kind.memberClasses, ¬ Refused rows kind reference →
      ∀ done store, HoldsMembers rows kind done store → ∃ store',
        addReference ((suppressedQuery rows [kind.name]).foldl addSet (∅, ∅)).2 store reference =
          .ok store' ∧ HoldsMembers rows kind (done ++ [reference]) store' :=
    fun _ href hrefused _ _ h ↦ h.addReference hrows href hrefused
  have hrefused : ∀ reference ∈ references rows kind.memberClasses, Refused rows kind reference →
      ∀ done store, HoldsMembers rows kind done store → ∃ e,
        addReference ((suppressedQuery rows [kind.name]).foldl addSet (∅, ∅)).2 store reference =
          .error e :=
    fun _ _ hrefused _ _ _ ↦ ⟨_, addReference_of_refused hrows hrefused⟩
  exact foldlM_spec hrefused hstep (holdsMembers_nil hrows)

end Collected

section Routes

variable {lib : PreloadLibrary} {rows : List RPSLDatabaseObject}

/-- The iteration of `_update_routes` for one row and the store of one version. -/
def addVersion (lib : PreloadLibrary) (version : Nat) (store : PreloadDict)
    (row : RPSLDatabaseObject) : PreloadDict :=
  if row.ipVersion = some version then
    store.add (storeKey row.source (routeOrigin row)) (routePrefix lib row)
  else store

theorem foldl_addRoute (routes : List RPSLDatabaseObject) (stores : PreloadDict × PreloadDict) :
    routes.foldl (addRoute lib) stores =
      (routes.foldl (addVersion lib 4) stores.1, routes.foldl (addVersion lib 6) stores.2) := by
  induction routes generalizing stores with
  | nil => rfl
  | cons row routes ih => exact ih _

/-- The prefixes of an origin in a source, among some routes. -/
def prefixesOf (lib : PreloadLibrary) (routes : List RPSLDatabaseObject) (version : Nat)
    (source origin : String) : Finset String :=
  ((routes.filter (fun row ↦ row.ipVersion = some version ∧ row.source = source ∧
    routeOrigin row = origin)).map (routePrefix lib)).toFinset

/-- A store with the prefixes of all origins, and no others. -/
structure HoldsPrefixes (lib : PreloadLibrary) (version : Nat) (routes : List RPSLDatabaseObject)
    (store : PreloadDict) : Prop where
  lookup : ∀ source origin, HasNoSeparator source →
    (store.lookup (storeKey source origin)).getD ∅ = prefixesOf lib routes version source origin
  keys : ∀ key members, store.lookup key = some members → members.Nonempty ∧
    ∃ row ∈ routes, key = storeKey row.source (routeOrigin row)

theorem prefixesOf_append (routes : List RPSLDatabaseObject) (row : RPSLDatabaseObject)
    (version : Nat) (source origin : String) :
    prefixesOf lib (routes ++ [row]) version source origin =
      prefixesOf lib routes version source origin ∪
        (if row.ipVersion = some version ∧ row.source = source ∧ routeOrigin row = origin then
          {routePrefix lib row} else ∅) := by
  unfold prefixesOf
  rw [List.filter_append, List.map_append, List.toFinset_append]
  congr 1
  split
  · next h => simp [h]
  · next h => simp [h]

theorem HoldsPrefixes.addVersion {version : Nat} {routes : List RPSLDatabaseObject}
    {store : PreloadDict} (h : HoldsPrefixes lib version routes store) {row : RPSLDatabaseObject}
    (hrow : HasNoSeparator row.source) :
    HoldsPrefixes lib version (routes ++ [row]) (addVersion lib version store row) := by
  unfold Storage.addVersion
  split
  · next hversion =>
    constructor
    · intro source origin hsource
      rw [prefixesOf_append, ← h.lookup source origin hsource]
      unfold PreloadDict.add
      by_cases hkey : storeKey source origin = storeKey row.source (routeOrigin row)
      · obtain ⟨rfl, rfl⟩ := (storeKey_inj hsource hrow).mp hkey
        rw [AList.lookup_insert, if_pos ⟨hversion, rfl, rfl⟩, Option.getD_some, Finset.union_comm]
        rfl
      · rw [AList.lookup_insert_ne hkey, if_neg, Finset.union_empty]
        rintro ⟨-, rfl, rfl⟩
        exact hkey rfl
    · intro key members hlookup
      unfold PreloadDict.add at hlookup
      by_cases hkey : key = storeKey row.source (routeOrigin row)
      · subst hkey
        rw [AList.lookup_insert] at hlookup
        cases hlookup
        exact ⟨⟨_, Finset.mem_insert_self _ _⟩, row, by simp, rfl⟩
      · rw [AList.lookup_insert_ne hkey] at hlookup
        obtain ⟨hne, row', hrow', heq⟩ := h.keys key members hlookup
        exact ⟨hne, row', List.mem_append_left _ hrow', heq⟩
  · next hversion =>
    constructor
    · intro source origin hsource
      rw [prefixesOf_append, h.lookup source origin hsource, if_neg (fun hrow ↦ hversion hrow.1),
        Finset.union_empty]
    · intro key members hlookup
      obtain ⟨hne, row', hrow', heq⟩ := h.keys key members hlookup
      exact ⟨hne, row', List.mem_append_left _ hrow', heq⟩

/-- The store of a version has the prefixes of all origins. -/
theorem holdsPrefixes_foldl {version : Nat} {done routes : List RPSLDatabaseObject}
    {store : PreloadDict} (h : HoldsPrefixes lib version done store)
    (hroutes : ∀ row ∈ routes, HasNoSeparator row.source) :
    HoldsPrefixes lib version (done ++ routes) (routes.foldl (addVersion lib version) store) := by
  induction routes generalizing done store with
  | nil => rwa [List.append_nil]
  | cons row routes ih =>
    obtain ⟨hrow, hroutes⟩ := List.forall_mem_cons.mp hroutes
    rw [List.foldl_cons, List.append_cons]
    exact ih (h.addVersion hrow) hroutes

theorem holdsPrefixes_nil (lib : PreloadLibrary) (version : Nat) :
    HoldsPrefixes lib version [] ∅ :=
  ⟨fun _ _ _ ↦ rfl, fun key members h ↦ by rw [AList.lookup_empty] at h; cases h⟩

/-- The stores of routes have the prefixes of all origins. -/
theorem updateRoutes_spec (lib : PreloadLibrary)
    (hsources : ∀ row ∈ rows, HasNoSeparator row.source) :
    HoldsPrefixes lib 4 (suppressedQuery rows routeClasses) (updateRoutes lib rows).1 ∧
      HoldsPrefixes lib 6 (suppressedQuery rows routeClasses) (updateRoutes lib rows).2 := by
  have hroutes : ∀ row ∈ suppressedQuery rows routeClasses, HasNoSeparator row.source :=
    fun row hrow ↦ hsources row (mem_suppressedQuery.mp hrow).1
  unfold updateRoutes
  rw [foldl_addRoute]
  exact ⟨holdsPrefixes_foldl (holdsPrefixes_nil lib 4) hroutes,
    holdsPrefixes_foldl (holdsPrefixes_nil lib 6) hroutes⟩

end Routes

end Irrd.Storage
