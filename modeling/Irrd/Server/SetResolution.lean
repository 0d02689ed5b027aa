import Irrd.Server.SetLookups

/-!
# Recursive set resolution

Resolving a set without a limit of the depth ends, and returns the leaves that can be reached by
following sets, in whichever order sets are iterated.
-/

namespace Irrd.Server

open Irrd.Base Irrd.Conf Irrd.Storage Irrd.Utils Relation

namespace SetQuery

section Leaves

variable (t : SetQuery)

/-- A member that is not taken for the name of a set: an AS number or, for a route-set, a
prefix. -/
def TakenAsLeaf (ip : IPParser) (member : String) : Prop :=
  (parseAsNumber member).isSome ∨
    t.found.objectClass = .routeSet ∧ ip.valid (rangeBase member) = true

/-- A member that is the name of a set and not excluded. -/
def FollowedSet (ip : IPParser) (name member : String) : Prop :=
  member ∈ t.membersOf name ∧ ¬ t.TakenAsLeaf ip member ∧
    member ∉ t.resolver.currentExcludedSets ∧ t.setMembers member ≠ none

/-- A member of a set that is reached. -/
def Met (ip : IPParser) (member : String) : Prop :=
  ∃ name, ReflTransGen (t.FollowedSet ip) t.setName name ∧ member ∈ t.membersOf name

/-- A leaf: for an as-set, an AS number that is met; for a route-set, a prefix that is met or
originates from an AS number that is met. -/
def Leaf (ip : IPParser) (x : String) : Prop :=
  match t.found.objectClass with
  | .asSet => t.Met ip x ∧ (parseAsNumber x).isSome
  | .routeSet => t.Met ip x ∧ ip.valid (rangeBase x) = true ∨
      ∃ member asNumberFormatted n, t.Met ip member ∧ ip.valid (rangeBase member) = false ∧
        parseAsNumber member = some (asNumberFormatted, n) ∧
          x ∈ t.resolver.preloader.routesForOrigins [asNumberFormatted]
            t.resolver.sourceManager.sourcesResolved none

end Leaves

variable {order : IterationOrder} {ip : IPParser} {t : SetQuery}

/-- A member stands for leaves unless it is taken for the name of a set. -/
theorem leaves_eq_none_iff (member : String) :
    t.leaves ip member = none ↔ ¬ t.TakenAsLeaf ip member := by
  have hroot : (t.resolving 0).currentSetRootObjectClass = some t.found.objectClass := rfl
  unfold TakenAsLeaf leaves QueryResolver.leaves
  rw [hroot]
  cases t.found.objectClass with
  | asSet => simp
  | routeSet =>
    cases ip.valid (rangeBase member) <;> simp

/-- Names of sets are resolved further, and names that lead nowhere have no members. -/
theorem reached_iff (member : String) :
    (∃ name, ReflTransGen (t.Further ip) t.setName name ∧ member ∈ t.membersOf name) ↔
      t.Met ip member := by
  constructor
  · rintro ⟨name, hreach, hmember⟩
    refine ⟨name, ?_, hmember⟩
    induction hreach generalizing member with
    | refl => exact ReflTransGen.refl
    | tail _ hedge ih =>
      rename_i name next _
      obtain ⟨hnext, hnone, hexcluded⟩ := hedge
      by_cases hroot : next = t.setName
      · rw [hroot]
      · refine (ih next hnext).tail ⟨hnext, (leaves_eq_none_iff next).mp hnone, hexcluded, ?_⟩
        intro hunfound
        rw [membersOf, if_neg hroot, hunfound] at hmember
        simp at hmember
  · rintro ⟨name, hreach, hmember⟩
    refine ⟨name, ReflTransGen.mono (fun name' next hedge ↦ ?_) _ _ hreach, hmember⟩
    obtain ⟨hnext, hname, hexcluded, -⟩ := hedge
    exact ⟨hnext, (leaves_eq_none_iff next).mpr hname, hexcluded⟩

/-- The leaves are those that members stand for. -/
theorem leaf_iff (x : String) : t.Leaf ip x ↔
    ∃ member, t.Met ip member ∧ ∃ own, t.leaves ip member = some own ∧ x ∈ own := by
  have hroot : (t.resolving 0).currentSetRootObjectClass = some t.found.objectClass := rfl
  unfold Leaf leaves QueryResolver.leaves
  rw [hroot]
  cases t.found.objectClass with
  | asSet =>
    simp only [Option.some.injEq, reduceCtorEq, false_and, if_false, Option.map_eq_some_iff]
    constructor
    · rintro ⟨hmet, hparsed⟩
      obtain ⟨n, hn⟩ := Option.isSome_iff_exists.mp hparsed
      exact ⟨x, hmet, {x}, ⟨n, hn, rfl⟩, Finset.mem_singleton_self x⟩
    · rintro ⟨member, hmet, own, ⟨n, hn, rfl⟩, hx⟩
      rw [Finset.mem_singleton.mp hx]
      exact ⟨hmet, by simp [hn]⟩
  | routeSet =>
    simp only [true_and, if_true]
    constructor
    · rintro (⟨hmet, hvalid⟩ | ⟨member, asNumberFormatted, n, hmet, hvalid, hparsed, hx⟩)
      · exact ⟨x, hmet, {x}, if_pos hvalid, Finset.mem_singleton_self x⟩
      · refine ⟨member, hmet, _, ?_, hx⟩
        rw [hvalid, hparsed]
        rfl
    · rintro ⟨member, hmet, own, hown, hx⟩
      split at hown
      · next hvalid =>
        cases hown
        rw [Finset.mem_singleton.mp hx]
        exact Or.inl ⟨hmet, hvalid⟩
      · next hvalid =>
        obtain ⟨⟨asNumberFormatted, n⟩, hparsed, rfl⟩ := Option.map_eq_some_iff.mp hown
        exact Or.inr ⟨member, asNumberFormatted, n, hmet, by simpa using hvalid, hparsed, hx⟩

/-- With enough calls, resolving the name of the query returns its leaves. -/
theorem resolve_leaves (order : IterationOrder)
    (hroutes : ReadsRoutePrefixes ip t.resolver.preloader)
    {n : Nat} {rootSource : Option String} (hdepth : t.resolver.currentSetMaximumDepth ≤ 0)
    (hfound : t.resolver.preloader.setMembers t.setName (t.resolver.lookupSources rootSource)
      (QueryResolver.setClasses t.resolver.currentSetRootObjectClass) = some t.found)
    (hclass : t.resolver.currentSetRootObjectClass.or (some t.found.objectClass) =
      some t.found.objectClass)
    (hn : t.nodes.card < n) :
    ∃ result depth, t.resolver.recursiveSetResolve order ip n {t.setName} ∅ rootSource =
      some (result, t.resolving depth) ∧ ∀ x, x ∈ result ↔ t.Leaf ip x := by
  obtain ⟨result, depth, hresolved⟩ :=
    exists_resolvedTo_root order hroutes hfound hclass hn
  refine ⟨result, depth, hresolved.resolve, fun x ↦ ?_⟩
  have hwithin (name : String) : t.Within ip t.resolver.currentSetMaximumDepth name ↔
      ReflTransGen (t.Further ip) t.setName name := by
    rw [reflTransGen_iff_stepsIn]
    constructor
    · rintro ⟨k, -, hsteps⟩
      exact ⟨k, hsteps⟩
    · rintro ⟨k, hsteps⟩
      exact ⟨k, by omega, hsteps⟩
  rw [hresolved.mem_result hn, leaf_iff]
  constructor
  · rintro (⟨name, hname, member, hmember, hown⟩ | ⟨hpos, -⟩)
    · exact ⟨member, (reached_iff member).mp ⟨name, (hwithin name).mp hname, hmember⟩, hown⟩
    · omega
  · rintro ⟨member, hmet, hown⟩
    obtain ⟨name, hreach, hmember⟩ := (reached_iff member).mpr hmet
    exact .inl ⟨name, (hwithin name).mpr hreach, member, hmember, hown⟩

end SetQuery

section Queries

variable {ip : IPParser} {q : QueryResolver}

/-- Resolving a name without a limit returns the leaves of what is found under it, with enough
calls, in every order. -/
theorem mem_recursiveSetResolve (hroutes : ReadsRoutePrefixes ip q.preloader)
    (hdepth : q.currentSetMaximumDepth ≤ 0) (setName : String) (rootSource : Option String)
    (hclass : ∀ found, q.preloader.setMembers setName (q.lookupSources rootSource)
      (QueryResolver.setClasses q.currentSetRootObjectClass) = some found →
        q.currentSetRootObjectClass.or (some found.objectClass) = some found.objectClass) :
    ∃ bound, ∀ order n, bound ≤ n → ∃ result q',
      q.recursiveSetResolve order ip n {setName} ∅ rootSource = some (result, q') ∧
        q'.preloader = q.preloader ∧ q'.sourceManager = q.sourceManager ∧
        ∀ x, x ∈ result ↔ ∃ found, q.preloader.setMembers setName (q.lookupSources rootSource)
            (QueryResolver.setClasses q.currentSetRootObjectClass) = some found ∧
          (⟨q, setName, found⟩ : SetQuery).Leaf ip x := by
  cases hfound : q.preloader.setMembers setName (q.lookupSources rootSource)
      (QueryResolver.setClasses q.currentSetRootObjectClass) with
  | none =>
    refine ⟨2, fun order n hn ↦ ?_⟩
    obtain ⟨n, rfl⟩ : ∃ m, n = m + 2 := ⟨n - 2, by omega⟩
    obtain ⟨depth, hresolve, -⟩ := resolve_notFound ip order (n := n) hfound
    rw [if_neg (by omega)] at hresolve
    exact ⟨∅, _, hresolve, rfl, rfl, fun x ↦ by simp⟩
  | some found =>
    refine ⟨(⟨q, setName, found⟩ : SetQuery).nodes.card + 1, fun order n hn ↦ ?_⟩
    obtain ⟨result, depth, hresolve, hleaves⟩ := SetQuery.resolve_leaves order
      (t := ⟨q, setName, found⟩) hroutes hdepth hfound (hclass found hfound) hn
    refine ⟨result, _, hresolve, rfl, rfl, fun x ↦ ?_⟩
    rw [hleaves]
    simp

/-- The resolver with these excluded sets. -/
def QueryResolver.excluding (q : QueryResolver) (excludeSets : Finset String) : QueryResolver :=
  { q with currentExcludedSets := excludeSets }

/-- Resolving a set returns its leaves, without the name of the set itself and without members
that compatibility drops. -/
theorem mem_membersForSet (hroutes : ReadsRoutePrefixes ip q.preloader) (setName : String)
    (excludeSets : Finset String) (ipv4Only : Bool) (rootSource : Option String) :
    ∃ bound, ∀ order n, bound ≤ n → ∃ result,
      q.membersForSet order ip ipv4Only n setName excludeSets 0 true rootSource = some result ∧
        ∀ x, x ∈ result ↔ (∃ found, q.preloader.setMembers setName (q.lookupSources rootSource)
            [.routeSet, .asSet] = some found ∧
          (⟨q.excluding excludeSets, setName, found⟩ : SetQuery).Leaf ip x) ∧ x ≠ setName ∧
            QueryResolver.droppedByCompatibility ip ipv4Only x = false := by
  obtain ⟨bound, hresolve⟩ := mem_recursiveSetResolve (q := { q with
    currentSetRootObjectClass := none
    currentExcludedSets := excludeSets
    currentSetMaximumDepth := 0 }) hroutes (Int.le_refl 0) setName rootSource (fun _ _ ↦ rfl)
  refine ⟨bound, fun order n hn ↦ ?_⟩
  obtain ⟨members, q', hresolved, -, -, hmembers⟩ := hresolve order n hn
  unfold QueryResolver.membersForSet
  simp only [if_true, hresolved, Option.map_some]
  refine ⟨_, rfl, fun x ↦ ?_⟩
  rw [Finset.mem_sort, Finset.mem_filter, Finset.mem_erase, hmembers, and_comm (a := x ≠ setName),
    and_assoc]
  rfl

/-- For every store, excluded sets and selection of sources: resolving a set without a limit ends,
in every order of iteration, and returns its leaves other than its own name; and the routes of an
as-set are those of the AS numbers among its leaves. -/
theorem mem_resolved_iff_leaf (hroutes : ReadsRoutePrefixes ip q.preloader) (setName : String)
    (excludeSets : Finset String) :
    (∀ ipv4Only rootSource, ∃ bound, ∀ order n, bound ≤ n → ∃ result,
      q.membersForSet order ip ipv4Only n setName excludeSets 0 true rootSource = some result ∧
        ∀ x, x ∈ result ↔ (∃ found, q.preloader.setMembers setName (q.lookupSources rootSource)
            [.routeSet, .asSet] = some found ∧
          (⟨q.excluding excludeSets, setName, found⟩ : SetQuery).Leaf ip x) ∧ x ≠ setName ∧
            QueryResolver.droppedByCompatibility ip ipv4Only x = false) ∧
      ∀ ipVersion, ∃ bound, ∀ order n, bound ≤ n → ∃ result,
        q.routesForAsSet order ip n setName ipVersion excludeSets = some result ∧
          ∀ x, x ∈ result ↔ ∃ found, q.preloader.setMembers setName
              q.sourceManager.sourcesResolved [.asSet] = some found ∧
            ∃ asNumber, (⟨q.excluding excludeSets, setName, found⟩ : SetQuery).Leaf ip asNumber ∧
              x ∈ q.preloader.routesForOrigins [asNumber] q.sourceManager.sourcesResolved
                ipVersion := by
  refine ⟨mem_membersForSet hroutes setName excludeSets, fun ipVersion ↦ ?_⟩
  obtain ⟨bound, hresolve⟩ := mem_recursiveSetResolve (q := { q with
    currentSetRootObjectClass := some .asSet
    currentExcludedSets := excludeSets
    currentSetMaximumDepth := 0 }) hroutes (Int.le_refl 0) setName none
    (fun found hfound ↦ by rw [setMembers_asSet hfound, Option.some_or])
  refine ⟨bound, fun order n hn ↦ ?_⟩
  obtain ⟨members, q', hresolved, hpreloader, hsources, hmembers⟩ := hresolve order n hn
  unfold QueryResolver.routesForAsSet
  simp only [hresolved, Option.map_some, hpreloader, hsources]
  refine ⟨_, rfl, fun x ↦ ?_⟩
  rw [Preloader.mem_routesForOrigins]
  simp only [Preloader.mem_routesForOrigins, order.mem_order, hmembers, List.mem_singleton]
  constructor
  · rintro ⟨source, hsource, asNumber, ⟨found, hfound, hleaf⟩, hx⟩
    exact ⟨found, hfound, asNumber, hleaf, source, hsource, asNumber, rfl, hx⟩
  · rintro ⟨found, hfound, asNumber, hleaf, source, hsource, origin, rfl, hx⟩
    exact ⟨source, hsource, origin, ⟨found, hfound, hleaf⟩, hx⟩

end Queries

section Examples

/-- Two as-sets that are members of each other. -/
def cyclicStore : Preloader :=
  ⟨[], [], [("TEST", [("AS-A", "AS1,AS-B"), ("AS-B", "AS2,AS-A")])], []⟩

/-- A resolver for these sets. -/
def cyclicResolver : QueryResolver := ⟨cyclicStore, ⟨["TEST"], [], ["TEST"]⟩, none, ∅, 0⟩

/-- IPy, for texts that are neither prefixes nor addresses. -/
def noPrefixParser : IPParser := ⟨fun _ ↦ false, fun _ ↦ false⟩

theorem readsRoutePrefixes_cyclicStore : ReadsRoutePrefixes noPrefixParser cyclicStore := by
  intro origins sources ipVersion x hx
  rw [Preloader.mem_routesForOrigins] at hx
  obtain ⟨source, -, origin, -, hx⟩ := hx
  simp [Preloader.originPrefixes, cyclicStore, SourceStore.contents] at hx

/-- The sets that are members of each other are resolved. -/
theorem mem_resolved_cyclicResolver :
    (∀ ipv4Only rootSource, ∃ bound, ∀ order n, bound ≤ n → ∃ result,
      cyclicResolver.membersForSet order noPrefixParser ipv4Only n "AS-A" ∅ 0 true rootSource =
          some result ∧
        ∀ x, x ∈ result ↔ (∃ found, cyclicStore.setMembers "AS-A"
            (cyclicResolver.lookupSources rootSource) [.routeSet, .asSet] = some found ∧
          (⟨cyclicResolver.excluding ∅, "AS-A", found⟩ : SetQuery).Leaf noPrefixParser x) ∧
            x ≠ "AS-A" ∧ QueryResolver.droppedByCompatibility noPrefixParser ipv4Only x = false) ∧
      ∀ ipVersion, ∃ bound, ∀ order n, bound ≤ n → ∃ result,
        cyclicResolver.routesForAsSet order noPrefixParser n "AS-A" ipVersion ∅ = some result ∧
          ∀ x, x ∈ result ↔ ∃ found, cyclicStore.setMembers "AS-A"
              cyclicResolver.sourceManager.sourcesResolved [.asSet] = some found ∧
            ∃ asNumber, (⟨cyclicResolver.excluding ∅, "AS-A", found⟩ : SetQuery).Leaf
                noPrefixParser asNumber ∧
              x ∈ cyclicStore.routesForOrigins [asNumber]
                cyclicResolver.sourceManager.sourcesResolved ipVersion :=
  mem_resolved_iff_leaf (q := cyclicResolver) readsRoutePrefixes_cyclicStore "AS-A" ∅

/-- A set with a member that is both an AS number and the name of a set. -/
def asNumberNameStore : Preloader :=
  ⟨[], [], [("TEST", [("AS-A", "AS123"), ("AS123", "AS5")])], []⟩

/-- A resolver for these sets. -/
def asNumberNameResolver : QueryResolver :=
  ⟨asNumberNameStore, ⟨["TEST"], [], ["TEST"]⟩, none, ∅, 0⟩

/-- A member that is an AS number is not followed, also where it names a known set. -/
theorem not_followed_asNumberName :
    asNumberNameStore.setMembers "AS-A" ["TEST"] [.routeSet, .asSet] =
        some ⟨["AS123"], .asSet⟩ ∧
      asNumberNameStore.setMembers "AS123" ["TEST"] [.asSet] = some ⟨["AS5"], .asSet⟩ ∧
      ∃ bound, ∀ order n, bound ≤ n → ∃ result,
        asNumberNameResolver.membersForSet order noPrefixParser false n "AS-A" ∅ 0 true none =
            some result ∧ "AS123" ∈ result ∧ "AS5" ∉ result := by
  have hroutes : ReadsRoutePrefixes noPrefixParser asNumberNameStore := by
    intro origins sources ipVersion x hx
    rw [Preloader.mem_routesForOrigins] at hx
    obtain ⟨source, -, origin, -, hx⟩ := hx
    simp [Preloader.originPrefixes, asNumberNameStore, SourceStore.contents] at hx
  have hfound : asNumberNameStore.setMembers "AS-A" ["TEST"] [.routeSet, .asSet] =
      some ⟨["AS123"], .asSet⟩ := rfl
  refine ⟨hfound, rfl, ?_⟩
  obtain ⟨bound, hresolve⟩ :=
    mem_membersForSet (q := asNumberNameResolver) hroutes "AS-A" ∅ false none
  refine ⟨bound, fun order n hn ↦ ?_⟩
  obtain ⟨result, hresult, hmembers⟩ := hresolve order n hn
  refine ⟨result, hresult, (hmembers _).mpr ⟨⟨_, hfound, ?_⟩, by decide, rfl⟩, fun hmem ↦ ?_⟩
  · exact ⟨⟨"AS-A", .refl, by decide⟩, by decide⟩
  · obtain ⟨⟨found, hfound', hleaf⟩, -⟩ := (hmembers _).mp hmem
    cases hfound.symm.trans hfound'
    obtain ⟨⟨name, hreach, hmember⟩, -⟩ := hleaf
    -- The only member of the set is an AS number, so no other set is reached.
    have hlisted : (⟨asNumberNameResolver.excluding ∅, "AS-A", ⟨["AS123"], .asSet⟩⟩ :
        SetQuery).membersOf "AS-A" = {"AS123"} := by decide
    rcases ReflTransGen.cases_head hreach with rfl | ⟨next, ⟨hnext, hname, -⟩, -⟩
    · rw [hlisted] at hmember
      exact absurd hmember (by decide)
    · rw [hlisted, Finset.mem_singleton] at hnext
      subst hnext
      exact hname (.inl (by decide))

end Examples

end Irrd.Server
