import Mathlib.Data.Finset.Basic
import Mathlib.Data.Finset.Union
import Mathlib.Data.String.Basic
import Irrd.Utils.Validators

/-!
# Preloaded store

Members of sets and prefixes of origins, as they are kept in memory for queries. Source:
`irrd/storage/preload.py`. Python sets are finite sets.
-/

namespace Irrd.Storage

open Irrd.Utils

/-- Texts are in the order of their characters. -/
instance isTrans_text : IsTrans String (· ≤ ·) := instIsTransLe

instance antisymm_text : @Std.Antisymm String (· ≤ ·) := instAntisymmLe

/-- Classes of sets that are resolved. -/
inductive SetObjectClass
  | asSet
  | routeSet
  deriving DecidableEq

/-- Contents of a store by source, then by primary key or origin. -/
abbrev SourceStore := List (String × List (String × String))

/-- The contents of an entry, split at `REDIS_CONTENTS_LIST_SEPARATOR`. -/
def SourceStore.contents (store : SourceStore) (source key : String) : Option (List String) :=
  ((store.lookup source).bind (fun entries ↦ entries.lookup key)).map (splitAt ',')

/-- `SetMembers`. -/
structure SetMembers where
  members : List String
  objectClass : SetObjectClass

/-- Restrictions of a query for prefixes to one version. -/
inductive IPVersion
  | ipv4
  | ipv6
  deriving DecidableEq

/-- `Preloader`, once its store is loaded. -/
structure Preloader where
  originRoute4Store : SourceStore
  originRoute6Store : SourceStore
  asSetStore : SourceStore
  routeSetStore : SourceStore

namespace Preloader

variable (p : Preloader)

/-- `set_members`, `irrd/storage/preload.py:125–149`. -/
def setMembers (setPk : String) (sources : List String) (objectClasses : List SetObjectClass) :
    Option SetMembers :=
  let setPk := upper setPk
  let asSet :=
    if objectClasses = [] ∨ .asSet ∈ objectClasses then
      sources.findSome? (fun source ↦ p.asSetStore.contents source setPk)
    else none
  let routeSet :=
    if objectClasses = [] ∨ .routeSet ∈ objectClasses then
      sources.findSome? (fun source ↦ p.routeSetStore.contents source setPk)
    else none
  match asSet with
  | some members => some ⟨members, .asSet⟩
  | none => routeSet.map (fun members ↦ ⟨members, .routeSet⟩)

/-- Prefixes of an origin in a source. -/
def originPrefixes (source origin : String) (ipVersion : Option IPVersion) : Finset String :=
  (if ipVersion = none ∨ ipVersion = some .ipv4 then
      ((p.originRoute4Store.contents source origin).getD []).toFinset
    else ∅) ∪
  (if ipVersion = none ∨ ipVersion = some .ipv6 then
      ((p.originRoute6Store.contents source origin).getD []).toFinset
    else ∅)

/-- `routes_for_origins`, `irrd/storage/preload.py:151–192`. -/
def routesForOrigins (origins sources : List String) (ipVersion : Option IPVersion) :
    Finset String :=
  if origins = [] ∨ sources = [] then ∅
  else
    sources.foldl (fun prefixes source ↦
      origins.foldl (fun prefixes origin ↦ prefixes ∪ p.originPrefixes source origin ipVersion)
        prefixes) ∅

theorem mem_foldl_union {A : Type} (f : A → Finset String) (items : List A) (init : Finset String)
    (x : String) : x ∈ items.foldl (fun acc item ↦ acc ∪ f item) init ↔
      x ∈ init ∨ ∃ item ∈ items, x ∈ f item := by
  induction items generalizing init with
  | nil => simp
  | cons item items ih =>
    rw [List.foldl_cons, ih]
    simp [or_assoc]

/-- A prefix of any of the origins in any of the sources. -/
theorem mem_routesForOrigins (origins sources : List String) (ipVersion : Option IPVersion)
    (x : String) : x ∈ p.routesForOrigins origins sources ipVersion ↔
      ∃ source ∈ sources, ∃ origin ∈ origins, x ∈ p.originPrefixes source origin ipVersion := by
  have hfold (sources : List String) (init : Finset String) :
      x ∈ sources.foldl (fun prefixes source ↦ origins.foldl (fun prefixes origin ↦
        prefixes ∪ p.originPrefixes source origin ipVersion) prefixes) init ↔ x ∈ init ∨
          ∃ source ∈ sources, ∃ origin ∈ origins, x ∈ p.originPrefixes source origin ipVersion := by
    induction sources generalizing init with
    | nil => simp
    | cons source sources ih =>
      rw [List.foldl_cons, ih, mem_foldl_union]
      simp [or_assoc]
  unfold routesForOrigins
  split
  · next hempty => rcases hempty with rfl | rfl <;> simp
  · rw [hfold]
    simp

/-- All members of sets. -/
def memberNames : Finset String :=
  ((p.asSetStore ++ p.routeSetStore).flatMap (fun entries ↦ entries.2.flatMap (fun entry ↦
    splitAt ',' entry.2))).toFinset

theorem contents_subset {store : SourceStore} {source key : String} {members : List String}
    (hcontents : store.contents source key = some members) {x : String} (hx : x ∈ members) :
    x ∈ store.flatMap (fun entries ↦ entries.2.flatMap (fun entry ↦ splitAt ',' entry.2)) := by
  obtain ⟨value, hvalue, rfl⟩ := Option.map_eq_some_iff.mp hcontents
  obtain ⟨entries, hentries, hvalue⟩ := Option.bind_eq_some_iff.mp hvalue
  obtain ⟨before, after, hstore, -⟩ := List.lookup_eq_some_iff.mp hentries
  obtain ⟨before', after', hkeys, -⟩ := List.lookup_eq_some_iff.mp hvalue
  refine List.mem_flatMap.mpr ⟨(source, entries), by simp [hstore], ?_⟩
  exact List.mem_flatMap.mpr ⟨(key, value), by simp [hkeys], hx⟩

/-- Every member that is found is in the store. -/
theorem setMembers_subset {setPk : String} {sources : List String}
    {objectClasses : List SetObjectClass} {found : SetMembers}
    (hfound : p.setMembers setPk sources objectClasses = some found) {x : String}
    (hx : x ∈ found.members) : x ∈ p.memberNames := by
  unfold memberNames
  rw [List.mem_toFinset, List.flatMap_append, List.mem_append]
  simp only [setMembers] at hfound
  split at hfound
  · next members hmembers =>
    cases hfound
    split at hmembers
    · obtain ⟨source, -, hcontents⟩ := List.exists_of_findSome?_eq_some hmembers
      exact Or.inl (contents_subset hcontents hx)
    · cases hmembers
  · obtain ⟨members, hmembers, rfl⟩ := Option.map_eq_some_iff.mp hfound
    split at hmembers
    · obtain ⟨source, -, hcontents⟩ := List.exists_of_findSome?_eq_some hmembers
      exact Or.inr (contents_subset hcontents hx)
    · cases hmembers

end Preloader

end Irrd.Storage
