import Mathlib.Data.Finset.Sort
import Mathlib.Data.String.Basic
import Irrd.Conf.Settings
import Irrd.Storage.Preload

/-!
# Query resolver

Members of sets, resolved recursively over the preloaded store. Source:
`irrd/server/query_resolver.py`. Sets are iterated in any order, and IPy is a parameter.
-/

namespace Irrd.Server

open Irrd.Conf Irrd.Storage Irrd.Utils

/-- What `IP(..)` accepts: a prefix or address, and an IPv4 one. -/
structure IPParser where
  valid : String → Bool
  validIPv4 : String → Bool

/-- The orders in which sets are iterated, for each loop of a run. -/
structure IterationOrder where
  order : Nat → Finset String → List String
  mem_order : ∀ loop names name, name ∈ order loop names ↔ name ∈ names

/-- `QuerySourceManager`, `irrd/server/query_resolver.py:40–82`. -/
structure QuerySourceManager where
  allValidRealSources : List String
  sourceAliases : List (String × List String)
  sources : List String

/-- `OrderedSet.add`. -/
def addOrdered (names : List String) (name : String) : List String :=
  if name ∈ names then names else names ++ [name]

/-- `sources_resolved`, `irrd/server/query_resolver.py:68–82`. -/
def QuerySourceManager.sourcesResolved (m : QuerySourceManager) : List String :=
  m.sources.foldl (fun resolved source ↦
    let resolved :=
      if source ∈ m.allValidRealSources then addOrdered resolved source else resolved
    match m.sourceAliases.lookup source with
    | some aliased => aliased.foldl addOrdered resolved
    | none => resolved) []

/-- `QueryResolver`: the state that resolving a set uses. -/
structure QueryResolver where
  preloader : Preloader
  sourceManager : QuerySourceManager
  currentSetRootObjectClass : Option SetObjectClass
  currentExcludedSets : Finset String
  currentSetMaximumDepth : Int

/-- The text before a range operator. -/
def rangeBase (member : String) : String := (splitAt '^' member).headD ""

namespace QueryResolver

section SetMembers

variable (order : IterationOrder) (ip : IPParser)

/-- The classes of sets that members are looked up in, `irrd/server/query_resolver.py:339–344`. -/
def setClasses (rootObjectClass : Option SetObjectClass) : List SetObjectClass :=
  if rootObjectClass = some .asSet then [.asSet] else [.routeSet, .asSet]

/-- The sources that sets are looked up in. -/
def lookupSources (q : QueryResolver) (limitSource : Option String) : List String :=
  if isSet limitSource then limitSource.toList else q.sourceManager.sourcesResolved

/-- The members and leaf members after one more name, with the root object class if it was not
known. -/
def findMembers (sources : List String) (objectClasses : List SetObjectClass)
    (acc : Finset String × Finset String × QueryResolver) (setName : String) :
    Finset String × Finset String × QueryResolver :=
  let (members, leafMembers, q) := acc
  match q.preloader.setMembers setName sources objectClasses with
  | none => (members, insert setName leafMembers, q)
  | some found =>
    (members ∪ found.members.toFinset, leafMembers,
      if q.currentSetRootObjectClass = none then
        { q with currentSetRootObjectClass := some found.objectClass }
      else q)

/-- `_find_set_members`, `irrd/server/query_resolver.py:319–355`. -/
def findSetMembers (q : QueryResolver) (loop : Nat) (setNames : Finset String)
    (limitSource : Option String) : Finset String × Finset String × QueryResolver :=
  (order.order loop setNames).foldl
    (findMembers (q.lookupSources limitSource) (setClasses q.currentSetRootObjectClass)) (∅, ∅, q)

/-- One member in `_recursive_set_resolve`, `irrd/server/query_resolver.py:278–304`: the leaves
so far, and the members resolved to prefixes. -/
def resolveMember (q : QueryResolver) (acc : Finset String × Finset String) (subMember : String) :
    Finset String × Finset String :=
  let (setMembers, resolvedAsMembers) := acc
  if (q.currentSetRootObjectClass = none ∨ q.currentSetRootObjectClass = some .routeSet) ∧
      ip.valid (rangeBase subMember) then
    (insert subMember setMembers, resolvedAsMembers)
  else
    match parseAsNumber subMember with
    | some (asNumberFormatted, _) =>
      if q.currentSetRootObjectClass = some .routeSet then
        (setMembers ∪ q.preloader.routesForOrigins [asNumberFormatted]
          q.sourceManager.sourcesResolved none, insert subMember resolvedAsMembers)
      else (insert subMember setMembers, resolvedAsMembers)
    | none => (setMembers, resolvedAsMembers)

/-- `_recursive_set_resolve`, `irrd/server/query_resolver.py:254–317`, up to a depth of calls. -/
def recursiveSetResolve : Nat → QueryResolver → Finset String → Finset String → Option String →
    Option (Finset String × QueryResolver)
  | 0, _, _, _, _ => none
  | n + 1, q, members, setsSeen, rootSource =>
    if members ⊆ setsSeen then some (∅, q)
    else
      let setsSeen := setsSeen ∪ members
      let (subMembers, leafMembers, q) := q.findSetMembers order (2 * n) members rootSource
      let (setMembers, resolvedAsMembers) :=
        (order.order (2 * n + 1) subMembers).foldl (q.resolveMember ip) (∅, ∅)
      let q := { q with currentSetMaximumDepth := q.currentSetMaximumDepth - 1 }
      if q.currentSetMaximumDepth = 0 then some (setMembers ∪ subMembers ∪ leafMembers, q)
      else
        let furtherResolvingRequired :=
          (((subMembers \ setMembers) \ setsSeen) \ resolvedAsMembers) \ q.currentExcludedSets
        (recursiveSetResolve n q furtherResolvingRequired setsSeen none).map (fun (newMembers, q) ↦
          (setMembers ∪ newMembers, q))

/-- `routes_for_as_set`, `irrd/server/query_resolver.py:173–186`. -/
def routesForAsSet (n : Nat) (q : QueryResolver) (setName : String)
    (ipVersion : Option IPVersion) (excludeSets : Finset String) : Option (Finset String) :=
  let q := { q with
    currentSetRootObjectClass := some .asSet
    currentExcludedSets := excludeSets
    currentSetMaximumDepth := 0 }
  (recursiveSetResolve order ip n q {setName} ∅ none).map (fun (members, q) ↦
    q.preloader.routesForOrigins (order.order (2 * n) members) q.sourceManager.sourcesResolved
      ipVersion)

/-- Whether `compatibility.ipv4_only_route_set_members` drops a member,
`irrd/server/query_resolver.py:238–250`. -/
def droppedByCompatibility (ipv4Only : Bool) (member : String) : Bool :=
  ipv4Only && ip.valid member && !ip.validIPv4 member

/-- `members_for_set`, `irrd/server/query_resolver.py:213–252`. -/
def membersForSet (ipv4Only : Bool) (n : Nat) (q : QueryResolver) (parameter : String)
    (excludeSets : Finset String) (depth : Int) (recursive : Bool) (rootSource : Option String) :
    Option (List String) :=
  let q := { q with
    currentSetRootObjectClass := none
    currentExcludedSets := excludeSets
    currentSetMaximumDepth := depth }
  let members :=
    if recursive then (recursiveSetResolve order ip n q {parameter} ∅ rootSource).map Prod.fst
    else
      let (members, leafMembers, _) := q.findSetMembers order (2 * n) {parameter} rootSource
      some (members ∪ leafMembers)
  members.map (fun members ↦
    ((members.erase parameter).filter (fun member ↦
      droppedByCompatibility ip ipv4Only member = false)).sort (· ≤ ·))

end SetMembers

end QueryResolver

end Irrd.Server
