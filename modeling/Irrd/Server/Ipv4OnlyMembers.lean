import Irrd.Server.SetLookups

/-!
# IPv4-only members

The members of a set where `compatibility.ipv4_only_route_set_members` is enabled. A range operator
is not removed before IPy reads the member, so an IPv6 prefix that has one is returned. Source:
`irrd/server/query_resolver.py:238–250`.
-/

namespace Irrd.Server

open Irrd.Base Irrd.Conf Irrd.Storage Irrd.Utils

section Texts

variable {ip : IPParser} {x : String}

/-- An IPv6 prefix, with or without a range operator. -/
def IsIPv6Prefix (ip : IPParser) (member : String) : Prop :=
  ip.valid (rangeBase member) = true ∧ ip.validIPv4 (rangeBase member) = false

theorem rangeBase_of_notMem (hx : '^' ∉ x.toList) : rangeBase x = x := by
  unfold rangeBase splitAt
  rw [List.splitOn_eq_singleton hx]
  simp

/-- The routes in a store are prefixes: texts that IPy reads. -/
def StoresPrefixes (ip : IPParser) (p : Preloader) : Prop :=
  ∀ origins sources ipVersion, ∀ x ∈ p.routesForOrigins origins sources ipVersion,
    ip.valid x = true

theorem StoresPrefixes.reads {p : Preloader} (h : StoresPrefixes ip p)
    (hip : ∀ text, ip.valid text = true → '^' ∉ text.toList) : ReadsRoutePrefixes ip p := by
  intro origins sources ipVersion x hx
  have hvalid := h origins sources ipVersion x hx
  rwa [rangeBase_of_notMem (hip x hvalid)]

/-- The members that are dropped are the IPv6 prefixes without a range operator. -/
theorem droppedByCompatibility_iff (hip : ∀ text, ip.valid text = true → '^' ∉ text.toList) :
    QueryResolver.droppedByCompatibility ip true x = true ↔ IsIPv6Prefix ip x ∧ '^' ∉ x.toList := by
  unfold QueryResolver.droppedByCompatibility IsIPv6Prefix
  rw [Bool.true_and, Bool.and_eq_true, Bool.not_eq_true']
  constructor
  · rintro ⟨hvalid, hipv4⟩
    have hplain := hip x hvalid
    rw [rangeBase_of_notMem hplain]
    exact ⟨⟨hvalid, hipv4⟩, hplain⟩
  · rintro ⟨hscreened, hplain⟩
    rwa [rangeBase_of_notMem hplain] at hscreened

end Texts

namespace SetQuery

variable {order : IterationOrder} {ip : IPParser} {t : SetQuery}

/-- A member that a query returns as a set lists it. A route-set is resolved to the members of all
sets within the depth, and an as-set to the AS numbers in them. -/
def ReturnsListed (ip : IPParser) (t : SetQuery) (recursive : Bool) (x : String) : Prop :=
  match recursive, t.found.objectClass with
  | false, _ => x ∈ t.found.members
  | true, .routeSet =>
    ∃ name, t.Within ip t.resolver.currentSetMaximumDepth name ∧ x ∈ t.membersOf name
  | true, .asSet =>
    (∃ name, t.Within ip t.resolver.currentSetMaximumDepth name ∧ x ∈ t.membersOf name ∧
      (parseAsNumber x).isSome) ∨
    (0 < t.resolver.currentSetMaximumDepth ∧ ∃ name,
      AtDistance (t.Further ip) t.setName (t.resolver.currentSetMaximumDepth.toNat - 1) name ∧
        (x ∈ t.membersOf name ∨ (x = name ∧ t.Unfound name)))

/-- A name other than that of the query is listed by a name within the depth. -/
theorem exists_within_listed {depth : Int} {k : Nat} {name : String}
    (hless : (k : Int) < depth) (hname : AtDistance (t.Further ip) t.setName k name)
    (hne : name ≠ t.setName) : ∃ other, t.Within ip depth other ∧ name ∈ t.membersOf other := by
  cases k with
  | zero =>
    cases hname.1
    exact absurd rfl hne
  | succ k =>
    obtain ⟨other, hother, hlisted, -, -⟩ := hname.exists_previous
    exact ⟨other, ⟨k, fun _ ↦ by omega, hother.1⟩, hlisted⟩

/-- The IPv6 prefixes with a range operator that resolving a set returns are members as sets list
them. -/
theorem ResolvedTo.mem_range {n : Nat} {depth' : Int} {rootSource : Option String}
    {result : Finset String} (hip : ∀ text, ip.valid text = true → '^' ∉ text.toList)
    (hroutes : StoresPrefixes ip t.resolver.preloader)
    (hn : t.nodes.card < n)
    (h : ResolvedTo order ip t t.resolver n t.resolver.currentSetMaximumDepth {t.setName} ∅
      rootSource result depth')
    {x : String} (hscreened : IsIPv6Prefix ip x) (hrange : '^' ∈ x.toList) :
    x ∈ result ↔ t.ReturnsListed ip true x := by
  have hroot : (t.resolving 0).currentSetRootObjectClass = some t.found.objectClass := rfl
  rw [h.mem_result hn]
  unfold ReturnsListed LeafOf SetQuery.leaves QueryResolver.leaves
  rw [hroot]
  cases t.found.objectClass with
  | asSet =>
    apply or_congr_left
    simp only [Option.some.injEq, reduceCtorEq, false_and, if_false, Option.map_eq_some_iff]
    constructor
    · rintro ⟨name, hname, member, hlisted, own, ⟨n, hparsed, rfl⟩, hx⟩
      rw [Finset.mem_singleton.mp hx]
      exact ⟨name, hname, hlisted, by simp [hparsed]⟩
    · rintro ⟨name, hname, hlisted, hparsed⟩
      obtain ⟨n, hn⟩ := Option.isSome_iff_exists.mp hparsed
      exact ⟨name, hname, x, hlisted, {x}, ⟨n, hn, rfl⟩, Finset.mem_singleton_self x⟩
  | routeSet =>
    simp only [true_and, if_true]
    constructor
    · rintro (⟨name, hname, member, hlisted, own, hown, hx⟩ | ⟨hpos, name, hname, hx⟩)
      · split at hown
        · cases hown
          rw [Finset.mem_singleton.mp hx]
          exact ⟨name, hname, hlisted⟩
        · -- The prefixes of an AS number have no range operator.
          obtain ⟨asNumber, -, rfl⟩ := Option.map_eq_some_iff.mp hown
          exact absurd hrange (hip x (hroutes _ _ _ x hx))
      · rcases hx with hx | ⟨rfl, hne, -⟩
        · exact ⟨name, ⟨_, fun _ ↦ by omega, hname.1⟩, hx⟩
        · exact exists_within_listed (by omega) hname hne
    · rintro ⟨name, hname, hlisted⟩
      exact .inl ⟨name, hname, x, hlisted, {x}, if_pos hscreened.1, Finset.mem_singleton_self x⟩

end SetQuery

section Queries

variable {ip : IPParser} {q : QueryResolver}

/-- What the setting is for: no IPv6 prefix is returned, and every other member still is. -/
def OnlyIPv6Removed (ip : IPParser) (without withSetting : List String) : Prop :=
  (∀ x ∈ withSetting, ¬ IsIPv6Prefix ip x) ∧
    ∀ x ∈ without, ¬ IsIPv6Prefix ip x → x ∈ withSetting

/-- The members before the setting is applied. -/
def QueryResolver.allMembers (order : IterationOrder) (ip : IPParser) (n : Nat) (q : QueryResolver)
    (parameter : String) (excludeSets : Finset String) (depth : Int) (recursive : Bool)
    (rootSource : Option String) : Option (Finset String) :=
  if recursive then
    ((q.startSet none excludeSets depth).recursiveSetResolve order ip n {parameter} ∅
      rootSource).map Prod.fst
  else
    let (members, leafMembers, _) :=
      (q.startSet none excludeSets depth).findSetMembers order (2 * n) {parameter} rootSource
    some (members ∪ leafMembers)

theorem membersForSet_eq (order : IterationOrder) (ipv4Only : Bool) (n : Nat) (q : QueryResolver)
    (parameter : String) (excludeSets : Finset String) (depth : Int) (recursive : Bool)
    (rootSource : Option String) :
    q.membersForSet order ip ipv4Only n parameter excludeSets depth recursive rootSource =
      (q.allMembers order ip n parameter excludeSets depth recursive rootSource).map (fun members ↦
        ((members.erase parameter).filter (fun member ↦
          QueryResolver.droppedByCompatibility ip ipv4Only member = false)).sort (· ≤ ·)) := rfl

/-- The IPv6 prefixes with a range operator among the members, for every set and depth. -/
theorem exists_allMembers (hip : ∀ text, ip.valid text = true → '^' ∉ text.toList)
    (hroutes : StoresPrefixes ip q.preloader)
    (parameter : String) (excludeSets : Finset String) (depth : Int) (recursive : Bool)
    (rootSource : Option String) :
    ∃ bound, ∀ order n, bound ≤ n → ∃ members,
      q.allMembers order ip n parameter excludeSets depth recursive rootSource = some members ∧
        ∀ x, IsIPv6Prefix ip x → '^' ∈ x.toList → x ≠ parameter →
          (x ∈ members ↔ ∃ found, q.preloader.setMembers parameter (q.lookupSources rootSource)
              [.routeSet, .asSet] = some found ∧
            (q.setQuery none parameter excludeSets depth found).ReturnsListed ip recursive x) := by
  cases recursive with
  | false =>
    refine ⟨0, fun order n _ ↦ ⟨_, rfl, fun x _ _ hne ↦ ?_⟩⟩
    have hmembers := (QueryResolver.findSetMembers_spec order
      (q.startSet none excludeSets depth) (2 * n) {parameter} rootSource).1 x
    have hleaves := QueryResolver.mem_leafMembers order (q.startSet none excludeSets depth) (2 * n)
      {parameter} rootSource x
    rw [Finset.mem_union]
    simp only [Finset.mem_singleton, exists_eq_left] at hmembers hleaves
    constructor
    · rintro (hx | hx)
      · exact hmembers.mp hx
      · exact absurd (hleaves.mp hx).1 hne
    · rintro ⟨found, hfound, hx⟩
      exact .inl (hmembers.mpr ⟨found, hfound, hx⟩)
  | true =>
    cases hfound : q.preloader.setMembers parameter (q.lookupSources rootSource)
        [.routeSet, .asSet] with
    | none =>
      refine ⟨2, fun order n hn ↦ ?_⟩
      obtain ⟨n, rfl⟩ : ∃ m, n = m + 2 := ⟨n - 2, by omega⟩
      obtain ⟨depth', hresolve, -⟩ := resolve_notFound ip order (n := n)
        (q := q.startSet none excludeSets depth) hfound
      refine ⟨_, congrArg (Option.map Prod.fst) hresolve, fun x _ _ hne ↦ ?_⟩
      dsimp only
      split <;> simp [hne]
    | some found =>
      refine ⟨(q.setQuery none parameter excludeSets depth found).nodes.card + 1,
        fun order n hn ↦ ?_⟩
      obtain ⟨result, depth', hresolved⟩ := SetQuery.exists_resolvedTo_root order
        (t := q.setQuery none parameter excludeSets depth found) (hroutes.reads hip) hfound rfl hn
      have hresolve := congrArg (Option.map Prod.fst) hresolved.resolve
      refine ⟨result, hresolve, fun x hscreened hrange _ ↦ ?_⟩
      have hpreloader : (q.setQuery none parameter excludeSets depth found).resolver.preloader =
          q.preloader := rfl
      have hmem := hresolved.mem_range hip (hpreloader ▸ hroutes) hn hscreened hrange
      constructor
      · intro hx
        exact ⟨found, rfl, hmem.mp hx⟩
      · rintro ⟨other, heq, hx⟩
        cases heq
        exact hmem.mpr hx

/-- The IPv6 prefixes that are returned with the setting are those with a range operator. -/
theorem exists_membersForSet (hip : ∀ text, ip.valid text = true → '^' ∉ text.toList)
    (hroutes : StoresPrefixes ip q.preloader) (parameter : String) (excludeSets : Finset String)
    (depth : Int) (recursive : Bool) (rootSource : Option String) :
    ∃ bound, ∀ order n, bound ≤ n → ∃ without withSetting,
      q.membersForSet order ip false n parameter excludeSets depth recursive rootSource =
          some without ∧
        q.membersForSet order ip true n parameter excludeSets depth recursive rootSource =
          some withSetting ∧
        (∀ x ∈ without, ¬ IsIPv6Prefix ip x → x ∈ withSetting) ∧
        ∀ x, IsIPv6Prefix ip x → (x ∈ withSetting ↔ '^' ∈ x.toList ∧ x ≠ parameter ∧
          ∃ found, q.preloader.setMembers parameter (q.lookupSources rootSource)
              [.routeSet, .asSet] = some found ∧
            (q.setQuery none parameter excludeSets depth found).ReturnsListed ip recursive x) := by
  obtain ⟨bound, hall⟩ := exists_allMembers hip hroutes parameter excludeSets depth recursive
    rootSource
  refine ⟨bound, fun order n hn ↦ ?_⟩
  obtain ⟨members, hmembers, hlisted⟩ := hall order n hn
  have hkept (x : String) : QueryResolver.droppedByCompatibility ip true x = false ↔
      (IsIPv6Prefix ip x → '^' ∈ x.toList) := by
    rw [← Bool.not_eq_true, droppedByCompatibility_iff hip, not_and_not_right]
  rw [membersForSet_eq, membersForSet_eq, hmembers]
  refine ⟨_, _, rfl, rfl, ?_, ?_⟩
  · intro x hx hother
    simp only [Finset.mem_sort, Finset.mem_filter, hkept] at hx ⊢
    exact ⟨hx.1, fun hscreened ↦ absurd hscreened hother⟩
  · intro x hscreened
    simp only [Finset.mem_sort, Finset.mem_filter, Finset.mem_erase, hkept]
    constructor
    · rintro ⟨⟨hne, hmem⟩, hrange⟩
      exact ⟨hrange hscreened, hne, (hlisted x hscreened (hrange hscreened) hne).mp hmem⟩
    · rintro ⟨hrange, hne, hfound⟩
      exact ⟨⟨hne, (hlisted x hscreened hrange hne).mpr hfound⟩, fun _ ↦ hrange⟩

/-- For every store, set and depth: with the setting, no IPv6 prefix is returned and every other
member still is, if and only if no IPv6 prefix with a range operator is returned as a set lists
it. -/
theorem onlyIPv6Removed_iff (hip : ∀ text, ip.valid text = true → '^' ∉ text.toList)
    (hroutes : StoresPrefixes ip q.preloader) (parameter : String) (excludeSets : Finset String)
    (depth : Int) (recursive : Bool) (rootSource : Option String) :
    ∃ bound, ∀ order n, bound ≤ n → ∃ without withSetting,
      q.membersForSet order ip false n parameter excludeSets depth recursive rootSource =
          some without ∧
        q.membersForSet order ip true n parameter excludeSets depth recursive rootSource =
          some withSetting ∧
        (OnlyIPv6Removed ip without withSetting ↔
          ∀ found, q.preloader.setMembers parameter (q.lookupSources rootSource)
              [.routeSet, .asSet] = some found →
            ∀ x, (q.setQuery none parameter excludeSets depth found).ReturnsListed ip recursive x →
              x ≠ parameter → IsIPv6Prefix ip x → '^' ∉ x.toList) := by
  obtain ⟨bound, hall⟩ := exists_membersForSet hip hroutes parameter excludeSets depth recursive
    rootSource
  refine ⟨bound, fun order n hn ↦ ?_⟩
  obtain ⟨without, withSetting, hwithout, hwith, hothers, hranges⟩ := hall order n hn
  refine ⟨without, withSetting, hwithout, hwith, ?_⟩
  constructor
  · rintro ⟨hnone, -⟩ found hfound x hx hne hscreened hrange
    exact hnone x ((hranges x hscreened).mpr ⟨hrange, hne, found, hfound, hx⟩) hscreened
  · intro hplain
    refine ⟨fun x hx hscreened ↦ ?_, hothers⟩
    obtain ⟨hrange, hne, found, hfound, hlisted⟩ := (hranges x hscreened).mp hx
    exact hplain found hfound x hlisted hne hscreened hrange

end Queries

section Examples

/-- A route-set with an IPv4 prefix, and with an IPv6 prefix that has this operator. -/
def rangeStore (operator : String) : Preloader :=
  ⟨[], [], [], [("TEST", [("RS-EXAMPLE", "192.0.2.0/24,2001:db8::/32" ++ operator)])]⟩

/-- A resolver for this set. -/
def rangeResolver (operator : String) : QueryResolver :=
  ⟨rangeStore operator, ⟨["TEST"], [], ["TEST"]⟩, none, ∅, 0⟩

/-- IPy, for two prefixes. -/
def twoPrefixParser : IPParser where
  valid text := text = "192.0.2.0/24" ∨ text = "2001:db8::/32"
  validIPv4 text := text = "192.0.2.0/24"

theorem notMem_of_valid_twoPrefixParser (text : String)
    (hvalid : twoPrefixParser.valid text = true) : '^' ∉ text.toList := by
  rcases of_decide_eq_true hvalid with rfl | rfl <;> decide

theorem storesPrefixes_withoutRoutes (asSets routeSets : SourceStore) :
    StoresPrefixes twoPrefixParser ⟨[], [], asSets, routeSets⟩ := by
  intro origins sources ipVersion x hx
  rw [Preloader.mem_routesForOrigins] at hx
  obtain ⟨source, -, origin, -, hx⟩ := hx
  simp [Preloader.originPrefixes, SourceStore.contents] at hx

theorem setMembers_rangeStore (operator : String) :
    (rangeStore operator).setMembers "RS-EXAMPLE" ["TEST"] [.routeSet, .asSet] =
      some ⟨splitAt ',' ("192.0.2.0/24,2001:db8::/32" ++ operator), .routeSet⟩ := rfl

/-- A resolver for two route-sets that are members of each other. -/
def mutualResolver : QueryResolver :=
  ⟨⟨[], [], [], [("TEST", [("RS-OUTER", "192.0.2.0/24,RS-INNER"),
    ("RS-INNER", "2001:db8::/32,RS-OUTER")])]⟩, ⟨["TEST"], [], ["TEST"]⟩, none, ∅, 0⟩

theorem notMem_of_memberNames_mutualResolver :
    ∀ x ∈ mutualResolver.preloader.memberNames, '^' ∉ x.toList := by
  decide +kernel

/-- Without range operators, only the IPv6 prefix of the inner set is left out with the setting. -/
theorem onlyIPv6Removed_mutualResolver :
    ∃ bound, ∀ order n, bound ≤ n → ∃ without withSetting,
      mutualResolver.membersForSet order twoPrefixParser false n "RS-OUTER" ∅ 0 true none =
          some without ∧
        mutualResolver.membersForSet order twoPrefixParser true n "RS-OUTER" ∅ 0 true none =
          some withSetting ∧
        OnlyIPv6Removed twoPrefixParser without withSetting := by
  obtain ⟨bound, hall⟩ := onlyIPv6Removed_iff (q := mutualResolver)
    notMem_of_valid_twoPrefixParser (storesPrefixes_withoutRoutes _ _) "RS-OUTER" ∅ 0 true none
  refine ⟨bound, fun order n hn ↦ ?_⟩
  obtain ⟨without, withSetting, hwithout, hwith, hremoved⟩ := hall order n hn
  refine ⟨without, withSetting, hwithout, hwith, hremoved.mpr (fun found hfound x hx _ _ ↦ ?_)⟩
  apply notMem_of_memberNames_mutualResolver
  have hlisted := fun {y} hy ↦ Preloader.setMembers_subset _ hfound (x := y) hy
  cases hfound
  obtain ⟨name, -, hx⟩ := hx
  unfold SetQuery.membersOf at hx
  split at hx
  · exact hlisted (List.mem_toFinset.mp hx)
  · rw [List.mem_toFinset] at hx
    cases hset : (mutualResolver.setQuery none "RS-OUTER" ∅ 0 ⟨_, .routeSet⟩).setMembers name with
    | none =>
      rw [hset] at hx
      cases hx
    | some set =>
      rw [hset] at hx
      exact Preloader.setMembers_subset _ hset hx

/-- The IPv6 prefix with a range operator is returned with the setting. -/
theorem not_onlyIPv6Removed_range : ∃ bound, ∀ recursive order n, bound ≤ n →
    ∃ without withSetting,
      (rangeResolver "^+").membersForSet order twoPrefixParser false n "RS-EXAMPLE" ∅ 0 recursive
          none = some without ∧
        (rangeResolver "^+").membersForSet order twoPrefixParser true n "RS-EXAMPLE" ∅ 0 recursive
          none = some withSetting ∧
        "2001:db8::/32^+" ∈ withSetting ∧
        ¬ OnlyIPv6Removed twoPrefixParser without withSetting := by
  have hquery (recursive : Bool) := exists_membersForSet (q := rangeResolver "^+")
    notMem_of_valid_twoPrefixParser (storesPrefixes_withoutRoutes _ _) "RS-EXAMPLE" ∅ 0 recursive
      none
  choose bound hall using hquery
  refine ⟨max (bound false) (bound true), fun recursive order n hn ↦ ?_⟩
  have hbound : bound recursive ≤ n := by cases recursive <;> omega
  obtain ⟨without, withSetting, hwithout, hwith, -, hranges⟩ := hall recursive order n hbound
  have hscreened : IsIPv6Prefix twoPrefixParser "2001:db8::/32^+" := ⟨rfl, rfl⟩
  have hmem : "2001:db8::/32^+" ∈ withSetting := by
    refine (hranges _ hscreened).mpr ⟨by decide, by decide, _, setMembers_rangeStore "^+", ?_⟩
    cases recursive with
    | false =>
      show "2001:db8::/32^+" ∈ splitAt ',' "192.0.2.0/24,2001:db8::/32^+"
      decide
    | true => exact ⟨"RS-EXAMPLE", ⟨0, fun hpos ↦ hpos, .zero⟩, by decide⟩
  exact ⟨without, withSetting, hwithout, hwith, hmem, fun hremoved ↦ hremoved.1 _ hmem hscreened⟩

end Examples

end Irrd.Server
