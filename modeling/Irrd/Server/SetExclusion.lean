import Irrd.Server.SetResolution

/-!
# Excluded sets

Excluded names are upper case, and are taken from the members as they are spelled, while sets are
looked up in upper case. Members of route-sets keep their case, so a set is expanded in spite of its
exclusion where a member is spelled otherwise. Source: `irrd/server/query_resolver.py:312–317`.
-/

namespace Irrd.Server

open Irrd.Base Irrd.Conf Irrd.Storage Irrd.Utils

namespace SetQuery

section Definitions

variable (t : SetQuery)

/-- A name that equals an excluded name up to case. -/
def ExcludedName (name : String) : Prop :=
  ∃ excludedName ∈ t.resolver.currentExcludedSets, upper excludedName = upper name

/-- The query without excluded sets. -/
def withoutExclusions : SetQuery :=
  { t with resolver := { t.resolver with currentExcludedSets := ∅ } }

/-- A set that is reached within a depth, following the members that are sets. -/
def ReachedSet (ip : IPParser) (depth : Int) (name : String) : Prop :=
  ∃ k : Nat, (0 < depth → (k : Int) < depth) ∧ StepsIn (t.FollowedSet ip) t.setName k name

/-- A member that is taken for the name of a set, and a set has that name. -/
def ListedSet (ip : IPParser) (name member : String) : Prop :=
  member ∈ t.membersOf name ∧ ¬ t.TakenAsLeaf ip member ∧ t.setMembers member ≠ none

/-- A set that is reached within a depth along sets that are not excluded. -/
def ReachedAvoiding (ip : IPParser) (depth : Int) (name : String) : Prop :=
  ∃ k : Nat, (0 < depth → (k : Int) < depth) ∧
    StepsIn (fun name member ↦ t.ListedSet ip name member ∧ ¬ t.ExcludedName member) t.setName k
      name

/-- A set that is expanded: its name is among those that are looked up, and it is found. -/
def Expanded (lookups : List (Finset String)) (name : String) : Prop :=
  (∃ batch ∈ lookups, name ∈ batch) ∧ (name = t.setName ∨ t.setMembers name ≠ none)

/-- What exclusions are for, from the names that are looked up with and without them, and the
result: no excluded set is expanded but the target of the query, and the other sets are. -/
structure ExclusionHolds (ip : IPParser) (withExclusions without : List (Finset String))
    (result : Finset String) : Prop where
  excluded : ∀ name, t.Expanded withExclusions name → name ≠ t.setName → ¬ t.ExcludedName name
  fewer : ∀ name, t.Expanded withExclusions name → t.Expanded without name
  others : ∀ name, t.ReachedAvoiding ip t.resolver.currentSetMaximumDepth name →
    t.Expanded withExclusions name
  leaves : ∀ name, t.Expanded withExclusions name → ∀ x, t.LeafOf ip name x → x ∈ result

/-- The members that are excluded sets are spelled as in the exclusions, in every set that is
reached before the depth. -/
def SpelledAsExcluded (ip : IPParser) : Prop :=
  ∀ (k : Nat) name, (0 < t.resolver.currentSetMaximumDepth →
      (k : Int) + 1 < t.resolver.currentSetMaximumDepth) →
    StepsIn (t.FollowedSet ip) t.setName k name → ∀ member, t.ListedSet ip name member →
      member ≠ t.setName → t.ExcludedName member → member ∈ t.resolver.currentExcludedSets

end Definitions

variable {order : IterationOrder} {ip : IPParser} {t : SetQuery} {depth : Int} {name : String}

/-- A set that has members is the target or is found. -/
theorem found_of_mem_membersOf {member : String} (hmember : member ∈ t.membersOf name) :
    name = t.setName ∨ t.setMembers name ≠ none := by
  by_cases hroot : name = t.setName
  · exact .inl hroot
  · right
    intro hnone
    rw [membersOf, if_neg hroot, hnone] at hmember
    simp at hmember

/-- Names that are resolved further and found are sets that are followed. -/
theorem exists_followedSet {k : Nat} (hsteps : StepsIn (t.Further ip) t.setName k name)
    (hfound : name = t.setName ∨ t.setMembers name ≠ none) :
    ∃ j ≤ k, StepsIn (t.FollowedSet ip) t.setName j name := by
  induction hsteps with
  | zero => exact ⟨0, Nat.le_refl 0, .zero⟩
  | @succ k x y hsteps hedge ih =>
    obtain ⟨hlisted, hnone, hexcluded⟩ := hedge
    rcases hfound with rfl | hfound
    · exact ⟨0, Nat.zero_le _, .zero⟩
    · obtain ⟨j, hj, hreached⟩ := ih (found_of_mem_membersOf hlisted)
      exact ⟨j + 1, by omega,
        hreached.succ ⟨hlisted, (leaves_eq_none_iff y).mp hnone, hexcluded, hfound⟩⟩

theorem further_of_followedSet {k : Nat}
    (hsteps : StepsIn (t.FollowedSet ip) t.setName k name) :
    StepsIn (t.Further ip) t.setName k name := by
  refine hsteps.mono (fun x y hedge ↦ ?_)
  obtain ⟨hlisted, hname, hexcluded, -⟩ := hedge
  exact ⟨hlisted, (leaves_eq_none_iff y).mpr hname, hexcluded⟩

theorem found_of_followedSet {k : Nat} (hsteps : StepsIn (t.FollowedSet ip) t.setName k name) :
    name = t.setName ∨ t.setMembers name ≠ none := by
  cases hsteps with
  | zero => exact .inl rfl
  | succ _ hedge => exact .inr hedge.2.2.2

/-- The names within a depth that are found are the sets that are reached. -/
theorem within_iff_reachedSet :
    (t.Within ip depth name ∧ (name = t.setName ∨ t.setMembers name ≠ none)) ↔
      t.ReachedSet ip depth name := by
  constructor
  · rintro ⟨⟨k, hk, hsteps⟩, hfound⟩
    obtain ⟨j, hj, hreached⟩ := exists_followedSet hsteps hfound
    refine ⟨j, fun hpos ↦ ?_, hreached⟩
    have hless := hk hpos
    omega
  · rintro ⟨k, hk, hsteps⟩
    exact ⟨⟨k, hk, further_of_followedSet hsteps⟩, found_of_followedSet hsteps⟩

/-- The sets that are expanded are those that are reached. -/
theorem ResolvedTo.expanded_iff {q : QueryResolver} {n : Nat} {depth' : Int}
    {rootSource : Option String}
    {result : Finset String} (hn : t.nodes.card < n)
    (h : ResolvedTo order ip t q n depth {t.setName} ∅ rootSource result depth') (name : String) :
    t.Expanded (q.setLookups order ip n {t.setName} ∅ rootSource) name ↔
      t.ReachedSet ip depth name := by
  rw [← within_iff_reachedSet]
  unfold Expanded
  rw [h.mem_lookups hn]

theorem reachedSet_withoutExclusions (h : t.ReachedSet ip depth name) :
    t.withoutExclusions.ReachedSet ip depth name := by
  obtain ⟨k, hk, hsteps⟩ := h
  refine ⟨k, hk, hsteps.mono (fun x y hedge ↦ ?_)⟩
  exact ⟨hedge.1, hedge.2.1, Finset.notMem_empty y, hedge.2.2.2⟩

theorem reachedSet_of_avoiding (h : t.ReachedAvoiding ip depth name) :
    t.ReachedSet ip depth name := by
  obtain ⟨k, hk, hsteps⟩ := h
  refine ⟨k, hk, hsteps.mono (fun x y hedge ↦ ?_)⟩
  obtain ⟨⟨hlisted, hname, hfound⟩, hnot⟩ := hedge
  exact ⟨hlisted, hname, fun hmem ↦ hnot ⟨y, hmem, rfl⟩, hfound⟩

/-- Excluded sets are not reached if and only if they are spelled as in the exclusions. -/
theorem not_excluded_iff : (∀ name, t.ReachedSet ip t.resolver.currentSetMaximumDepth name →
    name ≠ t.setName → ¬ t.ExcludedName name) ↔ t.SpelledAsExcluded ip := by
  constructor
  · rintro hnever k name hless hsteps member ⟨hlisted, hname, hfound⟩ hne hexcluded
    by_contra hnot
    refine hnever member ⟨k + 1, ?_, hsteps.succ ⟨hlisted, hname, hnot, hfound⟩⟩ hne hexcluded
    intro hpos
    have hbound := hless hpos
    omega
  · rintro hspelled name ⟨k, hk, hsteps⟩ hne hexcluded
    cases hsteps with
    | zero => exact hne rfl
    | succ hsteps hedge =>
      obtain ⟨hlisted, hname, hnot, hfound⟩ := hedge
      refine hnot (hspelled _ _ ?_ hsteps _ ⟨hlisted, hname, hfound⟩ hne hexcluded)
      intro hpos
      have hbound := hk hpos
      omega

/-- What the exclusions do, from what is looked up with and without them. -/
theorem exclusionHolds_iff_spelled {q q' : QueryResolver} {n : Nat} {with' without' : Int}
    {rootSource : Option String}
    {result result' : Finset String} (hn : t.nodes.card < n)
    (h : ResolvedTo order ip t q n t.resolver.currentSetMaximumDepth {t.setName} ∅ rootSource
      result with')
    (hwithout : ResolvedTo order ip t.withoutExclusions q' n t.resolver.currentSetMaximumDepth
      {t.setName} ∅ rootSource result' without') :
    t.ExclusionHolds ip (q.setLookups order ip n {t.setName} ∅ rootSource)
        (q'.setLookups order ip n {t.setName} ∅ rootSource) result ↔ t.SpelledAsExcluded ip := by
  have hexpanded := h.expanded_iff hn
  rw [← not_excluded_iff]
  constructor
  · intro hholds name hreached
    exact hholds.excluded name ((hexpanded name).mpr hreached)
  · intro hnever
    constructor
    · intro name hname
      exact hnever name ((hexpanded name).mp hname)
    · intro name hname
      have hreached := reachedSet_withoutExclusions ((hexpanded name).mp hname)
      have hexpanded' := hwithout.expanded_iff (t := t.withoutExclusions) hn name
      exact hexpanded'.mpr hreached
    · intro name hname
      exact (hexpanded name).mpr (reachedSet_of_avoiding hname)
    · intro name hname x hleaf
      have hwithin := (h.mem_lookups hn name).mp hname.1
      exact (h.mem_result hn x).mpr (.inl ⟨name, hwithin, hleaf⟩)

end SetQuery

section Queries

variable {ip : IPParser} {q : QueryResolver}

/-- For every store, exclusions, depth and selection of sources, where a set is resolved for its
members or, as an as-set, for its routes: no excluded set is expanded but the target of the query
and the other sets are expanded as without exclusions, if and only if the members that are excluded
sets are spelled as in the exclusions. Nothing is expanded for a name that is not found. -/
theorem exclusionHolds_iff (hroutes : ReadsRoutePrefixes ip q.preloader)
    (rootObjectClass : Option SetObjectClass) (hclass : rootObjectClass ≠ some .routeSet)
    (setName : String) (excludeSets : Finset String) (depth : Int) (rootSource : Option String) :
    (∀ found, q.preloader.setMembers setName (q.lookupSources rootSource)
        (QueryResolver.setClasses rootObjectClass) = some found →
      ∃ bound, ∀ order n, bound ≤ n → ∃ result q',
        (q.startSet rootObjectClass excludeSets depth).recursiveSetResolve order ip n {setName} ∅
            rootSource = some (result, q') ∧
          ((q.setQuery rootObjectClass setName excludeSets depth found).ExclusionHolds ip
              ((q.startSet rootObjectClass excludeSets depth).setLookups order ip n {setName} ∅
                rootSource)
              ((q.startSet rootObjectClass ∅ depth).setLookups order ip n {setName} ∅ rootSource)
              result ↔
            (q.setQuery rootObjectClass setName excludeSets depth found).SpelledAsExcluded ip)) ∧
      (q.preloader.setMembers setName (q.lookupSources rootSource)
          (QueryResolver.setClasses rootObjectClass) = none →
        ∀ order n, (q.startSet rootObjectClass excludeSets depth).setLookups order ip (n + 2)
          {setName} ∅ rootSource = [{setName}]) := by
  constructor
  · intro found hfound
    have hroot : rootObjectClass.or (some found.objectClass) = some found.objectClass := by
      cases rootObjectClass with
      | none => rfl
      | some objectClass =>
        cases objectClass with
        | asSet => rw [setMembers_asSet hfound, Option.some_or]
        | routeSet => exact absurd rfl hclass
    refine ⟨(q.setQuery rootObjectClass setName excludeSets depth found).nodes.card + 1,
      fun order n hn ↦ ?_⟩
    obtain ⟨result, depth', hresolved⟩ := SetQuery.exists_resolvedTo_root order
      (t := q.setQuery rootObjectClass setName excludeSets depth found) hroutes
      hfound hroot hn
    obtain ⟨result', without', hwithout⟩ := SetQuery.exists_resolvedTo_root order
      (t := q.setQuery rootObjectClass setName ∅ depth found) hroutes hfound hroot hn
    refine ⟨result, _, hresolved.resolve, ?_⟩
    exact SetQuery.exclusionHolds_iff_spelled hn hresolved hwithout
  · intro hnone order n
    obtain ⟨depth', -, hlookups⟩ := resolve_notFound ip order (n := n)
      (q := q.startSet rootObjectClass excludeSets depth) hnone
    exact hlookups

end Queries

section Examples

/-- A route-set with this member, and a route-set with an AS number. -/
def nestedStore (member : String) : Preloader :=
  ⟨[], [], [], [("TEST", [("RS-A", member), ("RS-B", "AS65000")])]⟩

/-- A resolver for these sets. -/
def nestedResolver (member : String) : QueryResolver :=
  ⟨nestedStore member, ⟨["TEST"], [], ["TEST"]⟩, none, ∅, 0⟩

theorem readsRoutePrefixes_nestedStore (member : String) :
    ReadsRoutePrefixes noPrefixParser (nestedStore member) := by
  intro origins sources ipVersion x hx
  rw [Preloader.mem_routesForOrigins] at hx
  obtain ⟨source, -, origin, -, hx⟩ := hx
  simp [Preloader.originPrefixes, nestedStore, SourceStore.contents] at hx

/-- An excluded set that is spelled in upper case. -/
theorem exclusionHolds_upperCase :
    (∀ found, (nestedStore "RS-B").setMembers "RS-A" ["TEST"] [.routeSet, .asSet] = some found →
      ∃ bound, ∀ order n, bound ≤ n → ∃ result q',
        ((nestedResolver "RS-B").startSet none {"RS-B"} 0).recursiveSetResolve order noPrefixParser
            n {"RS-A"} ∅ none = some (result, q') ∧
          (((nestedResolver "RS-B").setQuery none "RS-A" {"RS-B"} 0 found).ExclusionHolds
              noPrefixParser
              (((nestedResolver "RS-B").startSet none {"RS-B"} 0).setLookups order noPrefixParser n
                {"RS-A"} ∅ none)
              (((nestedResolver "RS-B").startSet none ∅ 0).setLookups order noPrefixParser n
                {"RS-A"} ∅ none) result ↔
            ((nestedResolver "RS-B").setQuery none "RS-A" {"RS-B"} 0 found).SpelledAsExcluded
              noPrefixParser)) ∧
      ((nestedStore "RS-B").setMembers "RS-A" ["TEST"] [.routeSet, .asSet] = none →
        ∀ order n, ((nestedResolver "RS-B").startSet none {"RS-B"} 0).setLookups order
          noPrefixParser (n + 2) {"RS-A"} ∅ none = [{"RS-A"}]) :=
  exclusionHolds_iff (q := nestedResolver "RS-B") (readsRoutePrefixes_nestedStore "RS-B") none
    (by decide) "RS-A" {"RS-B"} 0 none

/-- The query for the first set that excludes the other one. -/
def nestedQuery (member : String) : SetQuery :=
  (nestedResolver member).setQuery none "RS-A" {"RS-B"} 0 ⟨[member], .routeSet⟩

/-- An excluded set that is spelled in lower case is expanded. -/
theorem not_exclusionHolds_lowerCase :
    (nestedStore "rs-b").setMembers "RS-A" ["TEST"] [.routeSet, .asSet] =
        some (nestedQuery "rs-b").found ∧
      ∃ bound, ∀ order n, bound ≤ n → ∃ result q',
        (nestedQuery "rs-b").resolver.recursiveSetResolve order noPrefixParser n {"RS-A"} ∅ none =
            some (result, q') ∧
          (nestedQuery "rs-b").Expanded ((nestedQuery "rs-b").resolver.setLookups order
            noPrefixParser n {"RS-A"} ∅ none) "rs-b" ∧
          ∀ without, ¬ (nestedQuery "rs-b").ExclusionHolds noPrefixParser
            ((nestedQuery "rs-b").resolver.setLookups order noPrefixParser n {"RS-A"} ∅ none)
            without result := by
  refine ⟨rfl, (nestedQuery "rs-b").nodes.card + 1, fun order n hn ↦ ?_⟩
  obtain ⟨result, depth', hresolved⟩ := @SetQuery.exists_resolvedTo_root noPrefixParser
    (nestedQuery "rs-b") order (readsRoutePrefixes_nestedStore "rs-b") n none rfl rfl hn
  have hreached : (nestedQuery "rs-b").ReachedSet noPrefixParser 0 "rs-b" := by
    refine ⟨1, fun hpos ↦ absurd hpos (Int.lt_irrefl 0), .succ .zero ⟨by decide, ?_, by decide, ?_⟩⟩
    · rintro (hparsed | ⟨-, hvalid⟩)
      · exact absurd hparsed (by decide)
      · cases hvalid
    · decide
  have hexpanded := (hresolved.expanded_iff hn "rs-b").mpr hreached
  refine ⟨result, _, hresolved.resolve, hexpanded, fun without hholds ↦ ?_⟩
  exact hholds.excluded "rs-b" hexpanded (by decide) ⟨"RS-B", by decide, by decide⟩

end Examples

end Irrd.Server
