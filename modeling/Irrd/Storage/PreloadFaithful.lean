import Irrd.Storage.PreloadEncoding

/-!
# Queries of the preload store

Queries of a store that was filled from the database and loaded, compared with the objects in the
database.
-/

namespace Irrd.Storage

open Irrd.Base Irrd.Utils

/-- The first set that is found, where sets of ASes come before sets of routes. -/
def firstSet (contents : SetObjectClass → String → Option (List String)) (sources : List String)
    (objectClasses : List SetObjectClass) : Option SetMembers :=
  let find (kind : SetObjectClass) : Option SetMembers :=
    if objectClasses = [] ∨ kind ∈ objectClasses then
      (sources.findSome? (contents kind)).map (fun members ↦ ⟨members, kind⟩)
    else none
  (find .asSet).or (find .routeSet)

/-- The members of the set that a query is about. -/
def storedSet (lib : PreloadLibrary) (rows : List RPSLDatabaseObject) (setPk : String)
    (sources : List String) (objectClasses : List SetObjectClass) : Option SetMembers :=
  firstSet (fun kind source ↦ (findSet rows kind source (upper setPk)).map (fun set ↦
    lib.iterate (membersOf rows kind set))) sources objectClasses

/-- The number of a version. -/
def IPVersion.number : IPVersion → Nat
  | .ipv4 => 4
  | .ipv6 => 6

/-- A route that a query for prefixes is about. -/
def IsQueriedRoute (origins sources : List String) (ipVersion : Option IPVersion)
    (row : RPSLDatabaseObject) : Prop :=
  row.source ∈ sources ∧ routeOrigin row ∈ origins ∧
    ∃ version : IPVersion, row.ipVersion = some version.number ∧ ∀ v ∈ ipVersion, v = version

/-- A preloader that answers all queries by what the database has. -/
structure ReadsBack (lib : PreloadLibrary) (rows : List RPSLDatabaseObject) (p : Preloader) :
    Prop where
  setMembers : ∀ setPk sources objectClasses,
    p.setMembers setPk sources objectClasses = storedSet lib rows setPk sources objectClasses
  routes : ∀ origins sources ipVersion text,
    text ∈ p.routesForOrigins origins sources ipVersion ↔
      ∃ row ∈ suppressedQuery rows routeClasses, IsQueriedRoute origins sources ipVersion row ∧
        text = routePrefix lib row

/-- Storing the data and loading it back raises nothing, and all queries are answered by what was
stored. -/
def EncodesFaithfully (lib : PreloadLibrary) (rows : List RPSLDatabaseObject) : Prop :=
  ∃ p, (update lib rows >>= loadPreloadDataIntoMemory) = .ok p ∧ ReadsBack lib rows p

/-- Rows of stored objects in configured sources, by what an update relies on. -/
structure Storable (rows : List RPSLDatabaseObject) : Prop extends Collectable rows where
  ascii : ∀ row ∈ rows, isAscii row.source = true
  names : ∀ kind : SetObjectClass, ∀ set ∈ suppressedQuery rows [kind.name],
    upper set.rpslPk = set.rpslPk
  commas : ∀ kind : SetObjectClass, ∀ set ∈ suppressedQuery rows [kind.name],
    ∀ member ∈ membersOf rows kind set, ',' ∉ member.toList

/-- A set that is stored under the name of the sentinel. -/
def RPSLDatabaseObject.isSentinel (set : RPSLDatabaseObject) : Bool :=
  set.source = "SENTINEL" ∧ set.rpslPk = "HASH_CREATED"

/-- Sets that are stored so that they can be read back: all have members, names and members are in
ASCII, none has the name of the sentinel, and objects that are members by reference through their
maintainers have maintainers. -/
structure Encodable (rows : List RPSLDatabaseObject) (kind : SetObjectClass) : Prop where
  maintainers : ∀ reference ∈ references rows kind.memberClasses, ¬ Refused rows kind reference
  nonempty : ∀ set ∈ suppressedQuery rows [kind.name], (membersOf rows kind set).Nonempty
  ascii : ∀ set ∈ suppressedQuery rows [kind.name], isAscii set.rpslPk = true ∧
    ∀ member ∈ membersOf rows kind set, isAscii member = true
  sentinel : ∀ set ∈ suppressedQuery rows [kind.name], set.isSentinel = false

section Queries

variable (p : Preloader)

/-- The store for sets of a kind. -/
def Preloader.setStore : SetObjectClass → SourceStore
  | .asSet => p.asSetStore
  | .routeSet => p.routeSetStore

theorem setMembers_eq_firstSet (setPk : String) (sources : List String)
    (objectClasses : List SetObjectClass) :
    p.setMembers setPk sources objectClasses =
      firstSet (fun kind source ↦ (p.setStore kind).contents source (upper setPk)) sources
        objectClasses := by
  unfold Preloader.setMembers firstSet
  dsimp only [Preloader.setStore]
  by_cases hasSet : objectClasses = [] ∨ .asSet ∈ objectClasses <;>
    by_cases hrouteSet : objectClasses = [] ∨ .routeSet ∈ objectClasses <;>
    cases sources.findSome? (fun source ↦ p.asSetStore.contents source (upper setPk)) <;>
    simp [hasSet, hrouteSet]

theorem firstSet_singleton (contents : SetObjectClass → String → Option (List String))
    (source : String) (kind : SetObjectClass) :
    firstSet contents [source] [kind] = (contents kind source).map
      (fun members ↦ ⟨members, kind⟩) := by
  cases kind <;> cases hcontents : contents _ source <;> simp [firstSet, hcontents]

theorem contents_eq_value (store : SourceStore) (source name : String) :
    store.contents source name = (store.value source name).map (splitAt ',') := rfl

end Queries

section Sets

variable {lib : PreloadLibrary} {rows : List RPSLDatabaseObject} {kind : SetObjectClass}
  {store : PreloadDict}

theorem HoldsMembers.hasStoreKeys (hsources : ∀ row ∈ rows, HasNoSeparator row.source)
    {refs : List (RPSLDatabaseObject × String)} (h : HoldsMembers rows kind refs store) :
    HasStoreKeys store := by
  intro key hkey
  obtain ⟨set, hset, rfl⟩ := h.keys key hkey
  exact ⟨set.source, set.rpslPk, hsources set (mem_suppressedQuery.mp hset).1, rfl⟩

theorem findSet_eq_none (hsources : ∀ row ∈ rows, HasNoSeparator row.source) {source : String}
    (hsource : ¬ HasNoSeparator source) (rpslPk : String) :
    findSet rows kind source rpslPk = none := by
  refine List.find?_eq_none.mpr (fun set hset heq ↦ ?_)
  simp only [decide_eq_true_eq, Prod.mk.injEq] at heq
  exact hsource (heq.1 ▸ hsources set (mem_suppressedQuery.mp hset).1)

theorem sentinel_key {source name : String} (hsource : HasNoSeparator source) :
    storeKey source name = "SENTINEL_HASH_CREATED" ↔
      source = "SENTINEL" ∧ name = "HASH_CREATED" := by
  have hsentinel : HasNoSeparator "SENTINEL" := show '_' ∉ "SENTINEL".toList by decide
  exact (storeKey_inj hsource hsentinel :
    storeKey source name = storeKey "SENTINEL" "HASH_CREATED" ↔ _)

theorem isSentinel_iff {set : RPSLDatabaseObject} (hsource : HasNoSeparator set.source) :
    set.isSentinel = true ↔ storeKey set.source set.rpslPk = "SENTINEL_HASH_CREATED" :=
  decide_eq_true_iff.trans (sentinel_key hsource).symm

/-- The store of the sets of a kind can be loaded exactly if names and members are in ASCII. -/
theorem isLoadable_iff (hrows : Storable rows)
    (h : HoldsMembers rows kind (references rows kind.memberClasses) store) :
    IsLoadable store ↔ ∀ set ∈ suppressedQuery rows [kind.name],
      set.isSentinel = false →
        isAscii set.rpslPk = true ∧ ∀ member ∈ membersOf rows kind set, isAscii member = true := by
  have hlookup {set : RPSLDatabaseObject} (hset : set ∈ suppressedQuery rows [kind.name]) :
      store.lookup (storeKey set.source set.rpslPk) = some (membersOf rows kind set) := by
    rw [h.lookup _ _ (hrows.sources set (mem_suppressedQuery.mp hset).1),
      (findSet_eq_some_iff hrows.keys).mpr ⟨hset, rfl, rfl⟩]
    rfl
  constructor
  · intro hloadable set hset hname
    have hrow := (mem_suppressedQuery.mp hset).1
    obtain ⟨hkey, hmembers⟩ := hloadable _ _ (hlookup hset)
      (fun h ↦ Bool.eq_false_iff.mp hname ((isSentinel_iff (hrows.sources set hrow)).mpr h))
    rw [isAscii_storeKey, hrows.ascii set hrow, Bool.true_and] at hkey
    exact ⟨hkey, hmembers⟩
  · intro hsets key members hmembers hne
    obtain ⟨set, hset, rfl⟩ := h.keys key (AList.lookup_isSome.mp (by rw [hmembers]; rfl))
    have hrow := (mem_suppressedQuery.mp hset).1
    rw [hlookup hset] at hmembers
    cases hmembers
    obtain ⟨hname, hascii⟩ := hsets set hset
      (Bool.eq_false_iff.mpr (fun h ↦ hne ((isSentinel_iff (hrows.sources set hrow)).mp h)))
    rw [isAscii_storeKey, hrows.ascii set hrow, hname]
    exact ⟨rfl, hascii⟩

/-- What is read from the loaded store of the sets of a kind. -/
theorem contents_of_loaded (hrows : Storable rows)
    (h : HoldsMembers rows kind (references rows kind.memberClasses) store) {target : SourceStore}
    (htarget : loadStore (updateStore lib store) = .ok target) (source rpslPk : String) :
    target.contents source rpslPk =
      ((findSet rows kind source rpslPk).filter (fun set ↦ !set.isSentinel)).map (fun set ↦
        splitAt ',' (storeValue lib (membersOf rows kind set))) := by
  have hkeys := h.hasStoreKeys hrows.sources
  rw [contents_eq_value]
  by_cases hsource : HasNoSeparator source
  · obtain ⟨hok, herror⟩ := loadStore_updateStore lib hkeys
    have hloadable : IsLoadable store := by
      by_contra hnot
      obtain ⟨e, he⟩ := herror hnot
      rw [htarget] at he
      cases he
    obtain ⟨target', htarget', hvalue⟩ := hok hloadable
    cases htarget.symm.trans htarget'
    rw [hvalue source rpslPk hsource, h.lookup source rpslPk hsource]
    cases hset : findSet rows kind source rpslPk with
    | none => split <;> rfl
    | some set =>
      obtain ⟨-, rfl, rfl⟩ := (findSet_eq_some_iff hrows.keys).mp hset
      cases hname : set.isSentinel with
      | true =>
        rw [if_pos ((isSentinel_iff hsource).mp hname)]
        simp [Option.filter, hname]
      | false =>
        rw [if_neg (fun hkey ↦ Bool.eq_false_iff.mp hname ((isSentinel_iff hsource).mpr hkey))]
        simp [Option.filter, hname, membersOf]
  · rw [value_of_separator hkeys htarget hsource, findSet_eq_none hrows.sources hsource]
    rfl

end Sets

section Prefixes

variable {lib : PreloadLibrary} {rows : List RPSLDatabaseObject} {version : Nat}
  {store : PreloadDict}

theorem isAscii_routePrefix (row : RPSLDatabaseObject) :
    isAscii (routePrefix lib row) = true := by
  unfold routePrefix
  rw [isAscii_append, isAscii_append, Bool.and_eq_true, Bool.and_eq_true]
  have hnone : isAscii "None" = true := by decide
  refine ⟨⟨?_, by decide⟩, ?_⟩
  · cases row.ipFirst with
    | none => exact hnone
    | some ip => exact lib.inetText_ascii ip
  · cases row.prefixLength with
    | none => exact hnone
    | some length => exact isAscii_toString length

theorem isAscii_routeOrigin (row : RPSLDatabaseObject) : isAscii (routeOrigin row) = true := by
  unfold routeOrigin
  rw [isAscii_append, Bool.and_eq_true]
  refine ⟨by decide, ?_⟩
  cases row.asnFirst with
  | none => exact (by decide : isAscii "None" = true)
  | some asn => exact isAscii_toString asn

theorem comma_notMem_routePrefix (row : RPSLDatabaseObject) :
    ',' ∉ (routePrefix lib row).toList := by
  unfold routePrefix
  rw [String.toList_append, String.toList_append, List.mem_append, List.mem_append, not_or, not_or]
  have hnone : ',' ∉ "None".toList := by decide
  refine ⟨⟨?_, by decide⟩, ?_⟩
  · cases row.ipFirst with
    | none => exact hnone
    | some ip => exact lib.inetText_comma ip
  · cases row.prefixLength with
    | none => exact hnone
    | some length => exact comma_notMem_toString length

/-- No origin is the name of the sentinel. -/
theorem routeOrigin_ne (row : RPSLDatabaseObject) : routeOrigin row ≠ "HASH_CREATED" := by
  intro h
  have htext := congrArg String.toList h
  unfold routeOrigin at htext
  rw [String.toList_append] at htext
  injection htext with hfirst
  exact absurd hfirst (by decide)

theorem mem_prefixesOf {routes : List RPSLDatabaseObject} {source origin text : String} :
    text ∈ prefixesOf lib routes version source origin ↔
      ∃ row ∈ routes, row.ipVersion = some version ∧ row.source = source ∧
        routeOrigin row = origin ∧ text = routePrefix lib row := by
  simp only [prefixesOf, List.mem_toFinset, List.mem_map, List.mem_filter, decide_eq_true_eq,
    and_assoc, eq_comm (a := text)]

/-- The store of routes of one version can always be loaded. -/
theorem HoldsPrefixes.isLoadable (hrows : Storable rows)
    (h : HoldsPrefixes lib version (suppressedQuery rows routeClasses) store) :
    HasStoreKeys store ∧ IsLoadable store := by
  constructor
  · intro key hkey
    obtain ⟨members, hmembers⟩ := Option.isSome_iff_exists.mp (AList.lookup_isSome.mpr hkey)
    obtain ⟨-, row, hrow, rfl⟩ := h.keys key members hmembers
    exact ⟨_, _, hrows.sources row (mem_suppressedQuery.mp hrow).1, rfl⟩
  · intro key members hmembers _
    obtain ⟨-, row, hrow, rfl⟩ := h.keys key members hmembers
    have hsource := hrows.sources row (mem_suppressedQuery.mp hrow).1
    rw [isAscii_storeKey, hrows.ascii row (mem_suppressedQuery.mp hrow).1, isAscii_routeOrigin]
    refine ⟨rfl, fun member hmember ↦ ?_⟩
    have hprefixes := h.lookup row.source (routeOrigin row) hsource
    rw [hmembers, Option.getD_some] at hprefixes
    obtain ⟨row', -, -, -, -, rfl⟩ := mem_prefixesOf.mp (hprefixes ▸ hmember)
    exact isAscii_routePrefix row'

/-- What is read from the loaded store of routes of one version. -/
theorem prefixes_of_loaded (hrows : Storable rows)
    (h : HoldsPrefixes lib version (suppressedQuery rows routeClasses) store)
    {target : SourceStore} (htarget : loadStore (updateStore lib store) = .ok target)
    (source origin : String) :
    ((target.contents source origin).getD []).toFinset =
      prefixesOf lib (suppressedQuery rows routeClasses) version source origin := by
  obtain ⟨hkeys, hloadable⟩ := h.isLoadable hrows
  have hempty (hnone : ∀ row ∈ suppressedQuery rows routeClasses,
      ¬ (row.source = source ∧ routeOrigin row = origin)) :
      prefixesOf lib (suppressedQuery rows routeClasses) version source origin = ∅ := by
    refine Finset.eq_empty_of_forall_notMem (fun text htext ↦ ?_)
    obtain ⟨row, hrow, -, hsource, horigin, -⟩ := mem_prefixesOf.mp htext
    exact hnone row hrow ⟨hsource, horigin⟩
  rw [contents_eq_value]
  by_cases hsource : HasNoSeparator source
  · obtain ⟨target', htarget', hvalue⟩ := (loadStore_updateStore lib hkeys).1 hloadable
    cases htarget.symm.trans htarget'
    rw [hvalue source origin hsource]
    split
    · next hname =>
      obtain ⟨-, rfl⟩ := (sentinel_key hsource).mp hname
      rw [hempty (fun row _ h ↦ routeOrigin_ne row h.2)]
      rfl
    · rw [← h.lookup source origin hsource]
      cases hmembers : store.lookup (storeKey source origin) with
      | none => rfl
      | some members =>
        have hprefixes := h.lookup source origin hsource
        rw [hmembers, Option.getD_some] at hprefixes
        obtain ⟨member, hmember⟩ := (h.keys _ _ hmembers).1
        have hcommas : ∀ text ∈ lib.iterate members, ',' ∉ text.toList := by
          intro text htext
          obtain ⟨row, -, -, -, -, rfl⟩ := mem_prefixesOf.mp (hprefixes ▸ mem_iterate.mp htext)
          exact comma_notMem_routePrefix row
        rw [Option.map_some, Option.map_some, Option.getD_some, Option.getD_some, storeValue,
          splitAt_intercalate hcommas (List.ne_nil_of_mem (mem_iterate.mpr hmember)),
          lib.toFinset_iterate]
  · rw [value_of_separator hkeys htarget hsource, hempty]
    · rfl
    · rintro row hrow ⟨rfl, -⟩
      exact hsource (hrows.sources row (mem_suppressedQuery.mp hrow).1)

end Prefixes

section Faithful

variable {lib : PreloadLibrary} {rows : List RPSLDatabaseObject}

/-- The preloader of a loaded update, and the stores that it was loaded from. -/
theorem loadedUpdate_iff (hrows : Storable rows) {p : Preloader} :
    (update lib rows >>= loadPreloadDataIntoMemory) = .ok p ↔
      loadStore (updateStore lib (updateRoutes lib rows).1) = .ok p.originRoute4Store ∧
      loadStore (updateStore lib (updateRoutes lib rows).2) = .ok p.originRoute6Store ∧
      ∀ kind, ∃ store, updateSet rows kind = .ok store ∧
        HoldsMembers rows kind (references rows kind.memberClasses) store ∧
        loadStore (updateStore lib store) = .ok (p.setStore kind) := by
  have hholds {kind : SetObjectClass} {store : PreloadDict}
      (hstore : updateSet rows kind = .ok store) :
      HoldsMembers rows kind (references rows kind.memberClasses) store := by
    obtain ⟨hok, herror⟩ := updateSet_spec hrows.toCollectable kind
    by_cases hrefused : ∃ reference ∈ references rows kind.memberClasses,
      Refused rows kind reference
    · obtain ⟨e, he⟩ := herror hrefused
      rw [hstore] at he
      cases he
    · obtain ⟨store', hstore', h⟩ := hok (fun r hr hr' ↦ hrefused ⟨r, hr, hr'⟩)
      cases hstore.symm.trans hstore'
      exact h
  unfold update loadPreloadDataIntoMemory
  simp only [bind_eq_ok_iff, pure_eq_ok_iff]
  constructor
  · rintro ⟨-, ⟨asSets, hasSets, routeSets, hrouteSets, rfl⟩, route4, hroute4, route6, hroute6,
      asSetStore, hasSetStore, routeSetStore, hrouteSetStore, rfl⟩
    refine ⟨hroute4, hroute6, fun kind ↦ ?_⟩
    cases kind with
    | asSet => exact ⟨asSets, hasSets, hholds hasSets, hasSetStore⟩
    | routeSet => exact ⟨routeSets, hrouteSets, hholds hrouteSets, hrouteSetStore⟩
  · rintro ⟨hroute4, hroute6, hsets⟩
    obtain ⟨asSets, hasSets, -, hasSetStore⟩ := hsets .asSet
    obtain ⟨routeSets, hrouteSets, -, hrouteSetStore⟩ := hsets .routeSet
    exact ⟨_, ⟨asSets, hasSets, routeSets, hrouteSets, rfl⟩, _, hroute4, _, hroute6, _, hasSetStore,
      _, hrouteSetStore, rfl⟩

/-- Routes are always read back. -/
theorem routes_of_loaded (hrows : Storable rows) {p : Preloader}
    (hroute4 : loadStore (updateStore lib (updateRoutes lib rows).1) = .ok p.originRoute4Store)
    (hroute6 : loadStore (updateStore lib (updateRoutes lib rows).2) = .ok p.originRoute6Store)
    (origins sources : List String) (ipVersion : Option IPVersion) (text : String) :
    text ∈ p.routesForOrigins origins sources ipVersion ↔
      ∃ row ∈ suppressedQuery rows routeClasses, IsQueriedRoute origins sources ipVersion row ∧
        text = routePrefix lib row := by
  obtain ⟨h4, h6⟩ := updateRoutes_spec lib hrows.sources
  have hprefixes (source origin : String) : p.originPrefixes source origin ipVersion =
      (if ipVersion = none ∨ ipVersion = some .ipv4 then
        prefixesOf lib (suppressedQuery rows routeClasses) 4 source origin else ∅) ∪
      (if ipVersion = none ∨ ipVersion = some .ipv6 then
        prefixesOf lib (suppressedQuery rows routeClasses) 6 source origin else ∅) := by
    unfold Preloader.originPrefixes
    rw [prefixes_of_loaded hrows h4 hroute4, prefixes_of_loaded hrows h6 hroute6]
  rw [p.mem_routesForOrigins]
  constructor
  · rintro ⟨source, hsource, origin, horigin, htext⟩
    rw [hprefixes, Finset.mem_union] at htext
    rcases htext with htext | htext
    · split at htext
      · next hversion =>
        obtain ⟨row, hrow, hrowVersion, rfl, rfl, rfl⟩ := mem_prefixesOf.mp htext
        exact ⟨row, hrow, ⟨hsource, horigin, .ipv4, hrowVersion, fun v hv ↦ by
          rcases hversion with h | h <;> simp_all⟩, rfl⟩
      · cases htext
    · split at htext
      · next hversion =>
        obtain ⟨row, hrow, hrowVersion, rfl, rfl, rfl⟩ := mem_prefixesOf.mp htext
        exact ⟨row, hrow, ⟨hsource, horigin, .ipv6, hrowVersion, fun v hv ↦ by
          rcases hversion with h | h <;> simp_all⟩, rfl⟩
      · cases htext
  · rintro ⟨row, hrow, ⟨hsource, horigin, version, hrowVersion, hversion⟩, rfl⟩
    have hqueried : ipVersion = none ∨ ipVersion = some version := by
      cases ipVersion with
      | none => exact .inl rfl
      | some v => exact .inr (congrArg some (hversion v rfl))
    refine ⟨row.source, hsource, routeOrigin row, horigin, ?_⟩
    rw [hprefixes, Finset.mem_union]
    cases version with
    | ipv4 =>
      rw [if_pos hqueried]
      exact .inl (mem_prefixesOf.mpr ⟨row, hrow, hrowVersion, rfl, rfl, rfl⟩)
    | ipv6 =>
      refine .inr ?_
      rw [if_pos hqueried]
      exact mem_prefixesOf.mpr ⟨row, hrow, hrowVersion, rfl, rfl, rfl⟩

/-- The store of a kind is loaded and read back if the sets of this kind can be encoded. -/
theorem contents_of_encodable (lib : PreloadLibrary) (hrows : Storable rows) {kind : SetObjectClass}
    (hencodable : Encodable rows kind) : ∃ store target, updateSet rows kind = .ok store ∧
      HoldsMembers rows kind (references rows kind.memberClasses) store ∧
      loadStore (updateStore lib store) = .ok target ∧ ∀ source rpslPk,
        target.contents source rpslPk = (findSet rows kind source rpslPk).map (fun set ↦
          lib.iterate (membersOf rows kind set)) := by
  obtain ⟨store, hstore, hholds⟩ :=
    (updateSet_spec hrows.toCollectable kind).1 hencodable.maintainers
  have hloadable : IsLoadable store :=
    (isLoadable_iff hrows hholds).mpr (fun set hset _ ↦ hencodable.ascii set hset)
  obtain ⟨target, htarget, -⟩ :=
    (loadStore_updateStore lib (hholds.hasStoreKeys hrows.sources)).1 hloadable
  refine ⟨store, target, hstore, hholds, htarget, fun source rpslPk ↦ ?_⟩
  rw [contents_of_loaded hrows hholds htarget]
  cases hset : findSet rows kind source rpslPk with
  | none => rfl
  | some set =>
    have hmem := (findSet_eq_some_iff hrows.keys).mp hset |>.1
    obtain ⟨member, hmember⟩ := hencodable.nonempty set hmem
    have hcommas : ∀ text ∈ lib.iterate (membersOf rows kind set), ',' ∉ text.toList :=
      fun text htext ↦ hrows.commas kind set hmem text (mem_iterate.mp htext)
    have hkept : (some set).filter (fun set ↦ !set.isSentinel) = some set := by
      simp [Option.filter, hencodable.sentinel set hmem]
    rw [hkept, Option.map_some, Option.map_some, storeValue,
      splitAt_intercalate hcommas (List.ne_nil_of_mem (mem_iterate.mpr hmember))]

/-- The sets of a kind can be encoded if the store of this kind is loaded and read back. -/
theorem encodable_of_readsBack (hrows : Storable rows) {p : Preloader}
    (hread : ReadsBack lib rows p) {kind : SetObjectClass} {store : PreloadDict}
    (hstore : updateSet rows kind = .ok store)
    (hholds : HoldsMembers rows kind (references rows kind.memberClasses) store)
    (htarget : loadStore (updateStore lib store) = .ok (p.setStore kind)) :
    Encodable rows kind := by
  have hcontents {set : RPSLDatabaseObject} (hset : set ∈ suppressedQuery rows [kind.name]) :
      (p.setStore kind).contents set.source set.rpslPk =
        some (lib.iterate (membersOf rows kind set)) := by
    have hquery := hread.setMembers set.rpslPk [set.source] [kind]
    unfold storedSet at hquery
    rw [setMembers_eq_firstSet, firstSet_singleton, firstSet_singleton,
      hrows.names kind set hset,
      (findSet_eq_some_iff hrows.keys).mpr ⟨hset, rfl, rfl⟩, Option.map_some, Option.map_some]
      at hquery
    obtain ⟨members, hmembers, heq⟩ := Option.map_eq_some_iff.mp hquery
    injection heq with heq
    rw [hmembers, heq]
  have hloaded {set : RPSLDatabaseObject} (hset : set ∈ suppressedQuery rows [kind.name]) :
      set.isSentinel = false ∧
        splitAt ',' (storeValue lib (membersOf rows kind set)) =
          lib.iterate (membersOf rows kind set) := by
    have hfound := (hcontents hset).symm.trans (contents_of_loaded hrows hholds htarget _ _)
    rw [(findSet_eq_some_iff hrows.keys).mpr ⟨hset, rfl, rfl⟩] at hfound
    obtain ⟨set', hset', heq⟩ := Option.map_eq_some_iff.mp hfound.symm
    obtain ⟨hsame, hname⟩ := Option.filter_eq_some_iff.mp hset'
    cases hsame
    exact ⟨by simpa using hname, heq⟩
  have hloadable : IsLoadable store := by
    by_contra hnot
    obtain ⟨e, he⟩ := (loadStore_updateStore lib (hholds.hasStoreKeys hrows.sources)).2 hnot
    rw [htarget] at he
    cases he
  refine ⟨fun reference href hrefused ↦ ?_, fun set hset ↦ ?_, fun set hset ↦
    (isLoadable_iff hrows hholds).mp hloadable set hset (hloaded hset).1,
    fun set hset ↦ (hloaded hset).1⟩
  · obtain ⟨e, he⟩ := (updateSet_spec hrows.toCollectable kind).2 ⟨reference, href, hrefused⟩
    rw [hstore] at he
    cases he
  · rw [Finset.nonempty_iff_ne_empty]
    intro hempty
    have hsplit := (hloaded hset).2
    rw [hempty, storeValue, iterate_empty] at hsplit
    exact absurd hsplit (by rw [String.intercalate_nil, splitAt_empty]; simp)

theorem encodable_of_encodesFaithfully (hrows : Storable rows) (h : EncodesFaithfully lib rows)
    (kind : SetObjectClass) : Encodable rows kind := by
  obtain ⟨p, hp, hread⟩ := h
  obtain ⟨store, hstore, hholds, htarget⟩ := ((loadedUpdate_iff hrows).mp hp).2.2 kind
  exact encodable_of_readsBack hrows hread hstore hholds htarget

/-- The database is stored and read back faithfully exactly if all its sets can be encoded. -/
theorem encodesFaithfully_iff (lib : PreloadLibrary) (hrows : Storable rows) :
    EncodesFaithfully lib rows ↔ ∀ kind, Encodable rows kind := by
  constructor
  · exact encodable_of_encodesFaithfully hrows
  · intro hencodable
    obtain ⟨h4, h6⟩ := updateRoutes_spec lib hrows.sources
    obtain ⟨hkeys4, hloadable4⟩ := h4.isLoadable hrows
    obtain ⟨hkeys6, hloadable6⟩ := h6.isLoadable hrows
    obtain ⟨route4, hroute4, -⟩ := (loadStore_updateStore lib hkeys4).1 hloadable4
    obtain ⟨route6, hroute6, -⟩ := (loadStore_updateStore lib hkeys6).1 hloadable6
    obtain ⟨asSets, asSetStore, hasSets, hasSetHolds, hasSetStore, hasSetContents⟩ :=
      contents_of_encodable lib hrows (hencodable .asSet)
    obtain ⟨routeSets, routeSetStore, hrouteSets, hrouteSetHolds, hrouteSetStore,
      hrouteSetContents⟩ := contents_of_encodable lib hrows (hencodable .routeSet)
    refine ⟨⟨route4, route6, asSetStore, routeSetStore⟩, (loadedUpdate_iff hrows).mpr
      ⟨hroute4, hroute6, fun kind ↦ ?_⟩, ⟨fun setPk sources objectClasses ↦ ?_, ?_⟩⟩
    · cases kind with
      | asSet => exact ⟨asSets, hasSets, hasSetHolds, hasSetStore⟩
      | routeSet => exact ⟨routeSets, hrouteSets, hrouteSetHolds, hrouteSetStore⟩
    · rw [setMembers_eq_firstSet]
      unfold storedSet
      congr 1
      funext kind source
      cases kind with
      | asSet => exact hasSetContents source _
      | routeSet => exact hrouteSetContents source _
    · exact routes_of_loaded hrows hroute4 hroute6

end Faithful

end Irrd.Storage
