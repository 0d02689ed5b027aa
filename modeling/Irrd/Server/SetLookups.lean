import Irrd.Base.ExplorationRounds
import Irrd.Server.QueryResolver

/-!
# Set lookups

Resolving a set to a depth, or without a limit, looks up the names that are reached within the
depth, in whichever order sets are iterated, and returns their leaves. At the depth it also returns
everything that the last names list. Source: `irrd/server/query_resolver.py`.
-/

namespace Irrd.Server

open Irrd.Base Irrd.Conf Irrd.Storage Irrd.Utils Relation

namespace QueryResolver

section Loops

variable {order : IterationOrder} {ip : IPParser} {q : QueryResolver}

/-- The resolver that knows the root object class. -/
def withRoot (q : QueryResolver) (found : Option SetMembers) : QueryResolver :=
  { q with currentSetRootObjectClass :=
      q.currentSetRootObjectClass.or (found.map SetMembers.objectClass) }

theorem withRoot_of_isSome (hroot : q.currentSetRootObjectClass ≠ none)
    (found : Option SetMembers) : q.withRoot found = q := by
  obtain ⟨c, hc⟩ := Option.ne_none_iff_exists'.mp hroot
  unfold withRoot
  rw [hc, Option.some_or, ← hc]

/-- The loop over names collects members, and the class of the first set found. -/
theorem foldl_findMembers (sources : List String) (classes : List SetObjectClass)
    (names : List String) (members leafMembers : Finset String) (q : QueryResolver) :
    (∀ x, x ∈ (names.foldl (findMembers sources classes) (members, leafMembers, q)).1 ↔
        x ∈ members ∨ ∃ name ∈ names, ∃ found,
          q.preloader.setMembers name sources classes = some found ∧ x ∈ found.members) ∧
      (names.foldl (findMembers sources classes) (members, leafMembers, q)).2.2 =
        q.withRoot (names.findSome? (fun name ↦ q.preloader.setMembers name sources classes)) := by
  induction names generalizing members leafMembers q with
  | nil =>
    refine ⟨fun x ↦ by simp, ?_⟩
    simp [withRoot]
  | cons name names ih =>
    rw [List.foldl_cons, List.findSome?_cons]
    cases hfound : q.preloader.setMembers name sources classes with
    | none =>
      have hstep : findMembers sources classes (members, leafMembers, q) name =
          (members, insert name leafMembers, q) := by simp [findMembers, hfound]
      rw [hstep]
      obtain ⟨hmembers, hroot⟩ := ih members (insert name leafMembers) q
      refine ⟨fun x ↦ ?_, hroot⟩
      rw [hmembers]
      simp [hfound]
    | some found =>
      have hstep : findMembers sources classes (members, leafMembers, q) name =
          (members ∪ found.members.toFinset, leafMembers, q.withRoot (some found)) := by
        cases hclass : q.currentSetRootObjectClass <;>
          simp [findMembers, hfound, withRoot, hclass]
        rw [← hclass]
      rw [hstep]
      obtain ⟨hmembers, hroot⟩ := ih (members ∪ found.members.toFinset) leafMembers
        (q.withRoot (some found))
      refine ⟨fun x ↦ ?_, ?_⟩
      · rw [hmembers]
        have hpreloader : (q.withRoot (some found)).preloader = q.preloader := rfl
        simp [hpreloader, hfound, or_assoc]
      · rw [hroot]
        cases hclass : q.currentSetRootObjectClass <;> simp [withRoot, hclass]

theorem findSetMembers_spec (order : IterationOrder) (q : QueryResolver) (loop : Nat)
    (setNames : Finset String) (limitSource : Option String) :
    (∀ x, x ∈ (q.findSetMembers order loop setNames limitSource).1 ↔ ∃ name ∈ setNames, ∃ found,
        q.preloader.setMembers name (q.lookupSources limitSource)
          (setClasses q.currentSetRootObjectClass) = some found ∧ x ∈ found.members) ∧
      (q.currentSetRootObjectClass ≠ none →
        (q.findSetMembers order loop setNames limitSource).2.2 = q) ∧
      ∀ name, setNames = {name} → (q.findSetMembers order loop setNames limitSource).2.2 =
        q.withRoot (q.preloader.setMembers name (q.lookupSources limitSource)
          (setClasses q.currentSetRootObjectClass)) := by
  obtain ⟨hmembers, hroot⟩ := foldl_findMembers (q.lookupSources limitSource)
    (setClasses q.currentSetRootObjectClass) (order.order loop setNames) ∅ ∅ q
  refine ⟨fun x ↦ ?_, fun hknown ↦ ?_, ?_⟩
  · have hx := hmembers x
    simp only [Finset.notMem_empty, false_or, order.mem_order] at hx
    exact hx
  · exact hroot.trans (withRoot_of_isSome hknown _)
  · rintro name rfl
    refine hroot.trans (congrArg q.withRoot ?_)
    have hroutes (other : String) : other ∈ order.order loop {name} ↔ other = name := by
      rw [order.mem_order, Finset.mem_singleton]
    revert hroutes
    generalize order.order loop {name} = names
    intro hroutes
    cases hfound : q.preloader.setMembers name (q.lookupSources limitSource)
        (setClasses q.currentSetRootObjectClass) with
    | none =>
      refine List.findSome?_eq_none_iff.mpr (fun other hother ↦ ?_)
      rw [(hroutes other).mp hother, hfound]
    | some found =>
      cases names with
      | nil => exact absurd ((hroutes name).mpr rfl) List.not_mem_nil
      | cons first names =>
        rw [List.findSome?_cons, (hroutes first).mp List.mem_cons_self, hfound]

/-- The leaves that a member stands for, or nothing if it may be the name of a set. -/
def leaves (ip : IPParser) (q : QueryResolver) (member : String) : Option (Finset String) :=
  if q.currentSetRootObjectClass = some .routeSet ∧ ip.valid (rangeBase member) then some {member}
  else
    (parseAsNumber member).map (fun (asNumberFormatted, _) ↦
      if q.currentSetRootObjectClass = some .routeSet then
        q.preloader.routesForOrigins [asNumberFormatted] q.sourceManager.sourcesResolved none
      else {member})

/-- Whether a member is resolved to the prefixes of an AS number. -/
def ResolvedAsMember (ip : IPParser) (q : QueryResolver) (member : String) : Prop :=
  q.currentSetRootObjectClass = some .routeSet ∧ ip.valid (rangeBase member) = false ∧
    (parseAsNumber member).isSome

instance (member : String) : Decidable (q.ResolvedAsMember ip member) :=
  inferInstanceAs (Decidable (_ ∧ _ ∧ _))

theorem resolveMember_eq (hroot : q.currentSetRootObjectClass ≠ none)
    (setMembers resolved : Finset String) (member : String) :
    q.resolveMember ip (setMembers, resolved) member =
      (setMembers ∪ (q.leaves ip member).getD ∅,
        if q.ResolvedAsMember ip member then insert member resolved else resolved) := by
  obtain ⟨c, hc⟩ := Option.ne_none_iff_exists'.mp hroot
  unfold resolveMember leaves ResolvedAsMember
  have hvalid := Bool.eq_false_or_eq_true (ip.valid (rangeBase member))
  have hunion : setMembers ∪ {member} = insert member setMembers := by
    rw [Finset.union_comm, Finset.insert_eq]
  obtain hparsed | ⟨n, hparsed⟩ := (parseAsNumber member).eq_none_or_eq_some <;>
    rcases hvalid with hvalid | hvalid <;> cases c <;>
      simp [hc, hparsed, hvalid, hunion]

/-- The loop over members collects their leaves. -/
theorem foldl_resolveMember (ip : IPParser) (hroot : q.currentSetRootObjectClass ≠ none)
    (members : List String)
    (setMembers resolved : Finset String) :
    (∀ x, x ∈ (members.foldl (q.resolveMember ip) (setMembers, resolved)).1 ↔ x ∈ setMembers ∨
        ∃ member ∈ members, ∃ own, q.leaves ip member = some own ∧ x ∈ own) ∧
      ∀ x, x ∈ (members.foldl (q.resolveMember ip) (setMembers, resolved)).2 ↔
        x ∈ resolved ∨ x ∈ members ∧ q.ResolvedAsMember ip x := by
  induction members generalizing setMembers resolved with
  | nil => simp
  | cons member members ih =>
    rw [List.foldl_cons, resolveMember_eq hroot]
    obtain ⟨hmembers, hresolved⟩ := ih (setMembers ∪ (q.leaves ip member).getD ∅)
      (if q.ResolvedAsMember ip member then insert member resolved else resolved)
    refine ⟨fun x ↦ ?_, fun x ↦ ?_⟩
    · rw [hmembers]
      cases hleaves : q.leaves ip member <;> simp [hleaves, or_assoc]
    · rw [hresolved]
      by_cases hmember : q.ResolvedAsMember ip member
      · simp only [hmember, if_true, Finset.mem_insert, List.mem_cons]
        constructor
        · rintro ((rfl | hx) | ⟨hx, hown⟩)
          · exact Or.inr ⟨Or.inl rfl, hmember⟩
          · exact Or.inl hx
          · exact Or.inr ⟨Or.inr hx, hown⟩
        · rintro (hx | ⟨rfl | hx, hown⟩)
          · exact Or.inl (Or.inr hx)
          · exact Or.inl (Or.inl rfl)
          · exact Or.inr ⟨hx, hown⟩
      · simp only [hmember, if_false, List.mem_cons]
        refine or_congr_right ⟨fun ⟨hx, hown⟩ ↦ ⟨Or.inr hx, hown⟩, ?_⟩
        rintro ⟨rfl | hx, hown⟩
        · exact absurd hown hmember
        · exact ⟨hx, hown⟩

end Loops

/-- The names of each call of `_find_set_members` in `_recursive_set_resolve`. -/
def setLookups (order : IterationOrder) (ip : IPParser) :
    Nat → QueryResolver → Finset String → Finset String → Option String → List (Finset String)
  | 0, _, _, _, _ => []
  | n + 1, q, members, setsSeen, rootSource =>
    if members ⊆ setsSeen then []
    else
      let setsSeen := setsSeen ∪ members
      let (subMembers, _, q) := q.findSetMembers order (2 * n) members rootSource
      let (setMembers, resolvedAsMembers) :=
        (order.order (2 * n + 1) subMembers).foldl (q.resolveMember ip) (∅, ∅)
      let q := { q with currentSetMaximumDepth := q.currentSetMaximumDepth - 1 }
      if q.currentSetMaximumDepth = 0 then [members]
      else
        let furtherResolvingRequired :=
          (((subMembers \ setMembers) \ setsSeen) \ resolvedAsMembers) \ q.currentExcludedSets
        members :: setLookups order ip n q furtherResolvingRequired setsSeen none

/-- The names that nothing is found for are leaf members. -/
theorem mem_leafMembers_foldl (sources : List String) (classes : List SetObjectClass)
    (names : List String) (members leafMembers : Finset String) (q : QueryResolver) (x : String) :
    x ∈ (names.foldl (findMembers sources classes) (members, leafMembers, q)).2.1 ↔
      x ∈ leafMembers ∨ x ∈ names ∧ q.preloader.setMembers x sources classes = none := by
  induction names generalizing members leafMembers q with
  | nil => simp
  | cons name names ih =>
    rw [List.foldl_cons]
    cases hfound : q.preloader.setMembers name sources classes with
    | none =>
      have hstep : findMembers sources classes (members, leafMembers, q) name =
          (members, insert name leafMembers, q) := by simp [findMembers, hfound]
      rw [hstep, ih, Finset.mem_insert, List.mem_cons]
      constructor
      · rintro ((rfl | hx) | ⟨hx, hnone⟩)
        · exact .inr ⟨.inl rfl, hfound⟩
        · exact .inl hx
        · exact .inr ⟨.inr hx, hnone⟩
      · rintro (hx | ⟨rfl | hx, hnone⟩)
        · exact .inl (.inr hx)
        · exact .inl (.inl rfl)
        · exact .inr ⟨hx, hnone⟩
    | some found =>
      have hstep : findMembers sources classes (members, leafMembers, q) name =
          (members ∪ found.members.toFinset, leafMembers, q.withRoot (some found)) := by
        cases hclass : q.currentSetRootObjectClass <;>
          simp [findMembers, hfound, withRoot, hclass]
        rw [← hclass]
      have hpreloader : (q.withRoot (some found)).preloader = q.preloader := rfl
      rw [hstep, ih, hpreloader, List.mem_cons]
      apply or_congr_right
      constructor
      · rintro ⟨hx, hnone⟩
        exact ⟨.inr hx, hnone⟩
      · rintro ⟨rfl | hx, hnone⟩
        · rw [hfound] at hnone
          cases hnone
        · exact ⟨hx, hnone⟩

theorem mem_leafMembers (order : IterationOrder) (q : QueryResolver) (loop : Nat)
    (setNames : Finset String) (limitSource : Option String) (x : String) :
    x ∈ (q.findSetMembers order loop setNames limitSource).2.1 ↔ x ∈ setNames ∧
      q.preloader.setMembers x (q.lookupSources limitSource)
        (setClasses q.currentSetRootObjectClass) = none := by
  unfold findSetMembers
  rw [mem_leafMembers_foldl, order.mem_order]
  simp

end QueryResolver

/-- The prefixes of routes in a store are texts that IPy reads. -/
def ReadsRoutePrefixes (ip : IPParser) (p : Preloader) : Prop :=
  ∀ origins sources ipVersion, ∀ x ∈ p.routesForOrigins origins sources ipVersion,
    ip.valid (rangeBase x) = true

/-- A query for a set: the resolver, the name and what is found under it. -/
structure SetQuery where
  resolver : QueryResolver
  setName : String
  found : SetMembers

namespace SetQuery

variable (t : SetQuery)

/-- What is found under the name of another set. -/
def setMembers (name : String) : Option SetMembers :=
  t.resolver.preloader.setMembers name t.resolver.sourceManager.sourcesResolved
    (QueryResolver.setClasses (some t.found.objectClass))

/-- The members of a set, by its name. -/
def membersOf (name : String) : Finset String :=
  if name = t.setName then t.found.members.toFinset
  else (((t.setMembers name).map SetMembers.members).getD []).toFinset

end SetQuery

namespace QueryResolver

section Levels

variable {order : IterationOrder} {ip : IPParser} {q : QueryResolver}

theorem mem_or_resolvedAsMember {member : String} {own : Finset String}
    (hleaves : q.leaves ip member = some own) : member ∈ own ∨ q.ResolvedAsMember ip member := by
  unfold leaves at hleaves
  split at hleaves
  · cases hleaves
    exact Or.inl (Finset.mem_singleton_self _)
  · next hnot =>
    obtain ⟨⟨asNumberFormatted, n⟩, hparsed, hown⟩ := Option.map_eq_some_iff.mp hleaves
    dsimp only at hown
    split at hown
    · next hroute =>
      refine Or.inr ⟨hroute, ?_, by simp [hparsed]⟩
      simpa [hroute] using hnot
    · rw [← hown]
      exact Or.inl (Finset.mem_singleton_self _)

/-- The leaves of members are not names of sets. -/
theorem leaves_ne_none (hroutes : ReadsRoutePrefixes ip q.preloader) {member x : String}
    {own : Finset String} (hleaves : q.leaves ip member = some own) (hx : x ∈ own) :
    q.leaves ip x ≠ none := by
  unfold leaves at hleaves
  split at hleaves
  · next hprefix =>
    cases hleaves
    rw [Finset.mem_singleton.mp hx, leaves, if_pos hprefix]
    exact Option.some_ne_none _
  · next hnot =>
    obtain ⟨⟨asNumberFormatted, n⟩, hparsed, hown⟩ := Option.map_eq_some_iff.mp hleaves
    dsimp only at hown
    split at hown
    · next hroute =>
      rw [← hown] at hx
      rw [leaves, if_pos ⟨hroute, hroutes _ _ _ x hx⟩]
      exact Option.some_ne_none _
    · rw [← hown] at hx
      rw [Finset.mem_singleton.mp hx, leaves, if_neg hnot, hparsed]
      exact Option.some_ne_none _

/-- What is resolved further. -/
theorem mem_furtherResolvingRequired (order : IterationOrder)
    (hroutes : ReadsRoutePrefixes ip q.preloader)
    (hroot : q.currentSetRootObjectClass ≠ none) (loop : Nat) (subMembers setsSeen : Finset String)
    (x : String) :
    x ∈ (((subMembers \ ((order.order loop subMembers).foldl (q.resolveMember ip) (∅, ∅)).1) \
        setsSeen) \ ((order.order loop subMembers).foldl (q.resolveMember ip) (∅, ∅)).2) \
          q.currentExcludedSets ↔
      (x ∈ subMembers ∧ q.leaves ip x = none ∧ x ∉ q.currentExcludedSets) ∧ x ∉ setsSeen := by
  obtain ⟨hmembers, hresolved⟩ := foldl_resolveMember ip hroot
    (order.order loop subMembers) ∅ ∅
  simp only [Finset.mem_sdiff, hmembers, hresolved, order.mem_order, Finset.notMem_empty, false_or]
  constructor
  · rintro ⟨⟨⟨⟨hx, hnot⟩, hseen⟩, hunresolved⟩, hexcluded⟩
    refine ⟨⟨hx, ?_, hexcluded⟩, hseen⟩
    by_contra hsome
    obtain ⟨own, hown⟩ := Option.ne_none_iff_exists'.mp hsome
    rcases mem_or_resolvedAsMember hown with hmem | hmember
    · exact hnot ⟨x, hx, own, hown, hmem⟩
    · exact hunresolved ⟨hx, hmember⟩
  · rintro ⟨⟨hx, hnone, hexcluded⟩, hseen⟩
    refine ⟨⟨⟨⟨hx, ?_⟩, hseen⟩, ?_⟩, hexcluded⟩
    · rintro ⟨member, -, own, hown, hmem⟩
      exact leaves_ne_none hroutes hown hmem hnone
    · rintro ⟨-, hroute, hvalid, hparsed⟩
      obtain ⟨n, hn⟩ := Option.isSome_iff_exists.mp hparsed
      simp [leaves, hroute, hvalid, hn] at hnone

end Levels

end QueryResolver

namespace SetQuery

variable {order : IterationOrder} {ip : IPParser} {t : SetQuery}

/-- The resolver once the set is found, at a depth. -/
def resolving (t : SetQuery) (depth : Int) : QueryResolver :=
  { t.resolver with
    currentSetRootObjectClass := some t.found.objectClass
    currentSetMaximumDepth := depth }

/-- The leaves that a member of the set stands for. -/
def leaves (ip : IPParser) (t : SetQuery) (member : String) : Option (Finset String) :=
  (t.resolving 0).leaves ip member

/-- A member that is resolved further. -/
def Further (ip : IPParser) (t : SetQuery) (name member : String) : Prop :=
  member ∈ t.membersOf name ∧ t.leaves ip member = none ∧ member ∉ t.resolver.currentExcludedSets

instance (name member : String) : Decidable (t.Further ip name member) :=
  inferInstanceAs (Decidable (_ ∧ _ ∧ _))

/-- The members of a batch that are resolved further. -/
def nextBatch (ip : IPParser) (t : SetQuery) (batch : Finset String) : Finset String :=
  (batch.biUnion t.membersOf).filter (fun member ↦
    t.leaves ip member = none ∧ member ∉ t.resolver.currentExcludedSets)

theorem follows_nextBatch : Follows (t.nextBatch ip) (t.Further ip) := by
  intro batch y
  simp only [nextBatch, Finset.mem_filter, Finset.mem_biUnion, Further]
  constructor
  · rintro ⟨⟨x, hx, hy⟩, hnone, hexcluded⟩
    exact ⟨x, hx, hy, hnone, hexcluded⟩
  · rintro ⟨x, hx, hy, hnone, hexcluded⟩
    exact ⟨⟨x, hx, hy⟩, hnone, hexcluded⟩

/-- A leaf of one of the members of a set. -/
def LeafOf (ip : IPParser) (t : SetQuery) (name x : String) : Prop :=
  ∃ member ∈ t.membersOf name, ∃ own, t.leaves ip member = some own ∧ x ∈ own

/-- What is found for a batch of other names. -/
theorem mem_findSetMembers (order : IterationOrder) (loop : Nat) {batch : Finset String}
    (depth : Int)
    (hbatch : t.setName ∉ batch) (x : String) :
    x ∈ ((t.resolving depth).findSetMembers order loop batch none).1 ↔
      ∃ name ∈ batch, x ∈ t.membersOf name := by
  rw [(QueryResolver.findSetMembers_spec order _ loop batch none).1]
  refine exists_congr (fun name ↦ and_congr_right (fun hname ↦ ?_))
  have hne : name ≠ t.setName := fun he ↦ hbatch (he ▸ hname)
  unfold membersOf
  rw [if_neg hne, List.mem_toFinset]
  have hlookup : (t.resolving depth).preloader.setMembers name
      ((t.resolving depth).lookupSources none)
      (QueryResolver.setClasses (t.resolving depth).currentSetRootObjectClass) =
        t.setMembers name := rfl
  rw [hlookup]
  cases t.setMembers name <;> simp

/-- The nodes of an exploration. -/
def nodes (t : SetQuery) : Finset String :=
  insert t.setName (t.resolver.preloader.memberNames ∪ t.found.members.toFinset)

theorem nextBatch_subset (batch : Finset String) : t.nextBatch ip batch ⊆ t.nodes := by
  intro member hmember
  obtain ⟨name, -, hmember⟩ := Finset.mem_biUnion.mp (Finset.mem_filter.mp hmember).1
  refine Finset.mem_insert_of_mem (Finset.mem_union.mpr ?_)
  unfold membersOf at hmember
  split at hmember
  · exact Or.inr hmember
  · rw [List.mem_toFinset] at hmember
    cases hfound : t.setMembers name with
    | none => simp [hfound] at hmember
    | some found =>
      rw [hfound] at hmember
      exact Or.inl (t.resolver.preloader.setMembers_subset hfound hmember)

/-- A name other than that of the query under which no set is found. -/
def Unfound (t : SetQuery) (name : String) : Prop := name ≠ t.setName ∧ t.setMembers name = none

/-- What a batch adds where the depth is reached: everything that its sets list, and its names
that are not found. -/
def InLast (t : SetQuery) (batch : Finset String) (x : String) : Prop :=
  (∃ name ∈ batch, x ∈ t.membersOf name) ∨ (x ∈ batch ∧ t.Unfound x)

/-- The number of rounds that a depth and a number of calls permit. -/
def rounds (depth : Int) (n : Nat) : Nat := if 0 < depth then min n depth.toNat else n

theorem rounds_succ {depth : Int} (hlast : depth - 1 ≠ 0) (n : Nat) :
    rounds depth (n + 1) = rounds (depth - 1) n + 1 := by
  unfold rounds
  split <;> split <;> omega

/-- What resolving a batch to a depth looks up and returns. -/
structure ResolvedTo (order : IterationOrder) (ip : IPParser) (t : SetQuery) (q : QueryResolver)
    (n : Nat) (depth : Int) (batch seen : Finset String) (rootSource : Option String)
    (result : Finset String) (depth' : Int) : Prop where
  resolve : q.recursiveSetResolve order ip n batch seen rootSource =
    some (result, t.resolving depth')
  lookups : q.setLookups order ip n batch seen rootSource =
    exploreBatches (t.nextBatch ip) (rounds depth n) seen batch
  members : ∀ x, x ∈ result ↔
    (∃ b ∈ exploreBatches (t.nextBatch ip) (rounds depth n) seen batch,
      ∃ name ∈ b, t.LeafOf ip name x) ∨
    (0 < depth ∧ ∃ b,
      (exploreBatches (t.nextBatch ip) (rounds depth n) seen batch)[depth.toNat - 1]? = some b ∧
        t.InLast b x)

/-- A batch that has been seen is not looked up. -/
theorem resolvedTo_of_subset {n : Nat} {depth : Int} {batch seen : Finset String}
    (hsub : batch ⊆ seen) :
    ResolvedTo order ip t (t.resolving depth) (n + 1) depth batch seen none ∅ depth := by
  have hnone (m : Nat) : exploreBatches (t.nextBatch ip) m seen batch = [] := by
    cases m with
    | zero => rfl
    | succ m => exact if_pos hsub
  refine ⟨?_, ?_, ?_⟩
  · unfold QueryResolver.recursiveSetResolve
    rw [if_pos hsub]
  · unfold QueryResolver.setLookups
    rw [if_pos hsub, hnone]
  · intro x
    rw [hnone]
    simp

/-- One level: a batch, and what resolving the next one looks up and returns. -/
theorem ResolvedTo.level (hroutes : ReadsRoutePrefixes ip t.resolver.preloader) {q : QueryResolver}
    {n : Nat} {depth : Int} {seen batch : Finset String} {rootSource : Option String}
    (hsub : ¬ batch ⊆ seen)
    (hq : (q.findSetMembers order (2 * n) batch rootSource).2.2 = t.resolving depth)
    (hmembers : ∀ x, x ∈ (q.findSetMembers order (2 * n) batch rootSource).1 ↔
      ∃ name ∈ batch, x ∈ t.membersOf name)
    (hleafMembers : ∀ x, x ∈ (q.findSetMembers order (2 * n) batch rootSource).2.1 ↔
      x ∈ batch ∧ t.Unfound x)
    (hnext : depth - 1 ≠ 0 → ∃ result depth', ResolvedTo order ip t (t.resolving (depth - 1)) n
      (depth - 1) (t.nextBatch ip batch \ (seen ∪ batch)) (seen ∪ batch) none result depth') :
    ∃ result depth', ResolvedTo order ip t q (n + 1) depth batch seen rootSource result depth' := by
  obtain ⟨subMembers, leafMembers, q', hfind⟩ : ∃ subMembers leafMembers q',
      q.findSetMembers order (2 * n) batch rootSource = (subMembers, leafMembers, q') :=
    ⟨_, _, _, rfl⟩
  rw [hfind] at hmembers hq hleafMembers
  simp only at hmembers hq hleafMembers
  subst hq
  obtain ⟨setMembers, resolved, hfold⟩ : ∃ setMembers resolved,
      (order.order (2 * n + 1) subMembers).foldl ((t.resolving depth).resolveMember ip) (∅, ∅) =
        (setMembers, resolved) := ⟨_, _, rfl⟩
  have hfurther := QueryResolver.mem_furtherResolvingRequired order (q := t.resolving depth) hroutes
    (Option.some_ne_none _) (2 * n + 1) subMembers (seen ∪ batch)
  have hleaves := (QueryResolver.foldl_resolveMember (q := t.resolving depth) ip
    (Option.some_ne_none _) (order.order (2 * n + 1) subMembers) ∅ ∅).1
  rw [hfold] at hfurther hleaves
  simp only [Finset.notMem_empty, false_or, order.mem_order] at hleaves
  have hown (x : String) : x ∈ setMembers ↔ ∃ name ∈ batch, t.LeafOf ip name x := by
    rw [hleaves]
    constructor
    · rintro ⟨member, hmember, hown⟩
      obtain ⟨name, hname, hlisted⟩ := (hmembers member).mp hmember
      exact ⟨name, hname, member, hlisted, hown⟩
    · rintro ⟨name, hname, member, hlisted, hown⟩
      exact ⟨member, (hmembers member).mpr ⟨name, hname, hlisted⟩, hown⟩
  have hbatch : (((subMembers \ setMembers) \ (seen ∪ batch)) \ resolved) \
      t.resolver.currentExcludedSets = t.nextBatch ip batch \ (seen ∪ batch) := by
    ext x
    refine (hfurther x).trans ?_
    rw [Finset.mem_sdiff, follows_nextBatch, hmembers]
    apply and_congr_left
    intro _
    constructor
    · rintro ⟨⟨name, hname, hx⟩, hrest⟩
      exact ⟨name, hname, hx, hrest⟩
    · rintro ⟨name, hname, hx, hrest⟩
      exact ⟨⟨name, hname, hx⟩, hrest⟩
  by_cases hlast : depth - 1 = 0
  · obtain rfl : depth = 1 := by omega
    have hbatches : exploreBatches (t.nextBatch ip) (rounds 1 (n + 1)) seen batch = [batch] := by
      have hone : rounds 1 (n + 1) = 1 := by simp [rounds]
      rw [hone, exploreBatches, if_neg hsub]
      rfl
    refine ⟨setMembers ∪ subMembers ∪ leafMembers, 0, ?_, ?_, ?_⟩
    · unfold QueryResolver.recursiveSetResolve
      rw [if_neg hsub]
      simp only [hfind, hfold]
      exact if_pos rfl
    · unfold QueryResolver.setLookups
      rw [if_neg hsub, hbatches]
      simp only [hfind, hfold]
      exact if_pos rfl
    · intro x
      rw [hbatches, Finset.mem_union, Finset.mem_union, hown, hmembers, hleafMembers]
      simp [InLast, or_assoc]
  · obtain ⟨newMembers, depth', hresolve, hlookups, hnewMembers⟩ := hnext hlast
    have hbatches : exploreBatches (t.nextBatch ip) (rounds depth (n + 1)) seen batch =
        batch :: exploreBatches (t.nextBatch ip) (rounds (depth - 1) n) (seen ∪ batch)
          (t.nextBatch ip batch \ (seen ∪ batch)) := by
      rw [rounds_succ hlast, exploreBatches, if_neg hsub]
    refine ⟨setMembers ∪ newMembers, depth', ?_, ?_, ?_⟩
    · unfold QueryResolver.recursiveSetResolve
      rw [if_neg hsub]
      simp only [hfind, hfold]
      refine (if_neg hlast).trans ?_
      refine (congrArg (Option.map _) ((congrArg (fun further ↦
        (t.resolving (depth - 1)).recursiveSetResolve order ip n further (seen ∪ batch) none)
          hbatch).trans hresolve)).trans rfl
    · unfold QueryResolver.setLookups
      rw [if_neg hsub, hbatches]
      simp only [hfind, hfold]
      refine (if_neg hlast).trans ?_
      exact congrArg (batch :: ·) ((congrArg (fun further ↦
        (t.resolving (depth - 1)).setLookups order ip n further (seen ∪ batch) none)
          hbatch).trans hlookups)
    · intro x
      rw [Finset.mem_union, hown, hnewMembers, hbatches, List.exists_mem_cons_iff, or_assoc]
      apply or_congr_right
      apply or_congr_right
      have hindex : 0 < depth → depth.toNat - 1 = (depth - 1).toNat - 1 + 1 := by omega
      constructor
      · rintro ⟨hpos, b, hb, hx⟩
        refine ⟨by omega, b, ?_, hx⟩
        rw [hindex (by omega), List.getElem?_cons_succ]
        exact hb
      · rintro ⟨hpos, b, hb, hx⟩
        refine ⟨by omega, b, ?_, hx⟩
        rw [hindex hpos, List.getElem?_cons_succ] at hb
        exact hb

/-- Resolving other names to a depth. -/
theorem exists_resolvedTo (order : IterationOrder)
    (hroutes : ReadsRoutePrefixes ip t.resolver.preloader) {n : Nat}
    {depth : Int} {seen batch : Finset String} (hseen : t.setName ∈ seen)
    (hnew : Disjoint batch seen) (hbatch : batch ⊆ t.nodes) (hn : (t.nodes \ seen).card < n) :
    ∃ result depth',
      ResolvedTo order ip t (t.resolving depth) n depth batch seen none result depth' := by
  induction n generalizing depth seen batch with
  | zero => omega
  | succ n ih =>
    by_cases hsub : batch ⊆ seen
    · exact ⟨∅, depth, resolvedTo_of_subset hsub⟩
    · have hnotBatch : t.setName ∉ batch := fun hmem ↦ Finset.disjoint_left.mp hnew hmem hseen
      apply ResolvedTo.level hroutes hsub
      · exact (QueryResolver.findSetMembers_spec order (t.resolving depth) (2 * n) batch
          none).2.1 (Option.some_ne_none _)
      · exact mem_findSetMembers order (2 * n) depth hnotBatch
      · intro x
        rw [QueryResolver.mem_leafMembers]
        apply and_congr_right
        intro hx
        have hne : x ≠ t.setName := fun heq ↦ hnotBatch (heq ▸ hx)
        exact ⟨fun hnone ↦ ⟨hne, hnone⟩, fun hunfound ↦ hunfound.2⟩
      · intro _
        apply ih (Finset.mem_union_left _ hseen) Finset.sdiff_disjoint
        · exact Finset.sdiff_subset.trans (nextBatch_subset batch)
        · obtain ⟨x, hx, hnot⟩ := Finset.not_subset.mp hsub
          have hless : t.nodes \ (seen ∪ batch) ⊂ t.nodes \ seen := by
            refine Finset.ssubset_iff_subset_ne.mpr ⟨?_, fun hsame ↦ ?_⟩
            · exact Finset.sdiff_subset_sdiff (Finset.Subset.refl _) Finset.subset_union_left
            · have hmem : x ∈ t.nodes \ seen := Finset.mem_sdiff.mpr ⟨hbatch hx, hnot⟩
              rw [← hsame] at hmem
              exact (Finset.mem_sdiff.mp hmem).2 (Finset.mem_union_right _ hx)
          have hcard := Finset.card_lt_card hless
          omega

/-- A name that is reached within a depth; there is no limit if the depth is not positive. -/
def Within (ip : IPParser) (t : SetQuery) (depth : Int) (name : String) : Prop :=
  ∃ k : Nat, (0 < depth → (k : Int) < depth) ∧ StepsIn (t.Further ip) t.setName k name

/-- Resolving the name of a query looks up the names within its depth, and returns their leaves,
and everything that the last names list. -/
theorem exists_resolvedTo_root (order : IterationOrder)
    (hroutes : ReadsRoutePrefixes ip t.resolver.preloader) {n : Nat} {rootSource : Option String}
    (hfound : t.resolver.preloader.setMembers t.setName (t.resolver.lookupSources rootSource)
      (QueryResolver.setClasses t.resolver.currentSetRootObjectClass) = some t.found)
    (hclass : t.resolver.currentSetRootObjectClass.or (some t.found.objectClass) =
      some t.found.objectClass)
    (hn : t.nodes.card < n) :
    ∃ result depth', ResolvedTo order ip t t.resolver n t.resolver.currentSetMaximumDepth
      {t.setName} ∅ rootSource result depth' := by
  obtain ⟨n, rfl⟩ : ∃ m, n = m + 1 := ⟨n - 1, by omega⟩
  have hsub : ¬ {t.setName} ⊆ (∅ : Finset String) := by simp
  obtain ⟨hmembers, -, hroot⟩ := QueryResolver.findSetMembers_spec order t.resolver (2 * n)
    {t.setName} rootSource
  have hnode : t.setName ∈ t.nodes := Finset.mem_insert_self _ _
  apply ResolvedTo.level hroutes hsub
  · rw [hroot t.setName rfl, hfound, QueryResolver.withRoot, Option.map_some, hclass]
    rfl
  · intro x
    rw [hmembers]
    simp [membersOf, hfound]
  · intro x
    rw [QueryResolver.mem_leafMembers, Finset.mem_singleton]
    constructor
    · rintro ⟨rfl, hnone⟩
      rw [hfound] at hnone
      cases hnone
    · rintro ⟨rfl, hunfound⟩
      exact absurd rfl hunfound.1
  · intro _
    apply exists_resolvedTo order hroutes _ Finset.sdiff_disjoint
    · exact Finset.sdiff_subset.trans (nextBatch_subset _)
    · have hless : t.nodes \ (∅ ∪ {t.setName}) ⊂ t.nodes := by
        rw [Finset.empty_union]
        exact Finset.sdiff_ssubset (Finset.singleton_subset_iff.mpr hnode)
          (Finset.singleton_nonempty _)
      have hcard := Finset.card_lt_card hless
      omega
    · exact Finset.mem_union_right _ (Finset.mem_singleton_self _)

variable {q : QueryResolver} {n : Nat} {depth depth' : Int} {rootSource : Option String}
  {result : Finset String}

/-- The names that are looked up are those within the depth. -/
theorem ResolvedTo.mem_lookups (hn : t.nodes.card < n)
    (h : ResolvedTo order ip t q n depth {t.setName} ∅ rootSource result depth')
    (name : String) :
    (∃ b ∈ q.setLookups order ip n {t.setName} ∅ rootSource, name ∈ b) ↔
      t.Within ip depth name := by
  rw [h.lookups, mem_exploreBatches_iff follows_nextBatch]
  unfold Within rounds
  constructor
  · rintro ⟨k, hk, hsteps⟩
    refine ⟨k, fun hpos ↦ ?_, hsteps⟩
    rw [if_pos hpos] at hk
    omega
  · rintro ⟨k, hk, hsteps⟩
    obtain ⟨i, hi, hnearest⟩ := exists_atDistance hsteps
    obtain ⟨j, hj, hfew⟩ := exists_stepsIn_lt follows_nextBatch nextBatch_subset
      (Finset.mem_insert_self _ _) hn hsteps
    have hij : i ≤ j := by
      by_contra hless
      exact hnearest.2 j (by omega) hfew
    refine ⟨i, ?_, hnearest.1⟩
    split
    · next hpos =>
      have hless := hk hpos
      omega
    · omega

/-- What is returned: the leaves within the depth, and everything at it. -/
theorem ResolvedTo.mem_result (hn : t.nodes.card < n)
    (h : ResolvedTo order ip t q n depth {t.setName} ∅ rootSource result depth') (x : String) :
    x ∈ result ↔ (∃ name, t.Within ip depth name ∧ t.LeafOf ip name x) ∨
      (0 < depth ∧ ∃ name, AtDistance (t.Further ip) t.setName (depth.toNat - 1) name ∧
        (x ∈ t.membersOf name ∨ (x = name ∧ t.Unfound name))) := by
  have hlookups := h.mem_lookups hn
  rw [h.lookups] at hlookups
  rw [h.members]
  apply or_congr
  · constructor
    · rintro ⟨b, hb, name, hname, hleaf⟩
      exact ⟨name, (hlookups name).mp ⟨b, hb, hname⟩, hleaf⟩
    · rintro ⟨name, hname, hleaf⟩
      obtain ⟨b, hb, hmem⟩ := (hlookups name).mpr hname
      exact ⟨b, hb, name, hmem, hleaf⟩
  · apply and_congr_right
    intro hpos
    have hfollows : Follows (t.nextBatch ip) (t.Further ip) := follows_nextBatch
    have hget (name : String) := mem_getElem?_exploreBatches (n := rounds depth n) (x := name)
      hfollows (isRound_zero (t.Further ip) t.setName) (depth.toNat - 1)
    simp only [Nat.zero_add] at hget
    -- The number of calls does not end the run before the depth does.
    have hless (name : String)
        (hname : AtDistance (t.Further ip) t.setName (depth.toNat - 1) name) :
        depth.toNat - 1 < rounds depth n := by
      obtain ⟨j, hj, hfew⟩ := exists_stepsIn_lt follows_nextBatch nextBatch_subset
        (Finset.mem_insert_self _ _) hn hname.1
      have hij : depth.toNat - 1 ≤ j := by
        by_contra hlt
        exact hname.2 j (by omega) hfew
      unfold rounds
      rw [if_pos hpos]
      omega
    constructor
    · rintro ⟨b, hb, ⟨name, hname, hx⟩ | ⟨hx, hunfound⟩⟩
      · exact ⟨name, ((hget name).mp ⟨b, hb, hname⟩).2, .inl hx⟩
      · exact ⟨x, ((hget x).mp ⟨b, hb, hx⟩).2, .inr ⟨rfl, hunfound⟩⟩
    · rintro ⟨name, hname, hx⟩
      obtain ⟨b, hb, hmem⟩ := (hget name).mpr ⟨hless name hname, hname⟩
      refine ⟨b, hb, ?_⟩
      rcases hx with hx | ⟨rfl, hunfound⟩
      · exact .inl ⟨name, hmem, hx⟩
      · exact .inr ⟨hmem, hunfound⟩

end SetQuery

/-- What is found in as-sets only is an as-set. -/
theorem setMembers_asSet {p : Preloader} {setName : String} {sources : List String}
    {found : SetMembers} (hfound : p.setMembers setName sources [.asSet] = some found) :
    found.objectClass = .asSet := by
  simp only [Preloader.setMembers] at hfound
  split at hfound
  · cases hfound
    rfl
  · simp at hfound

/-- The resolver at the start of resolving a set: `members_for_set` does not know the root object
class, and `routes_for_as_set` resolves as-sets without a limit. -/
def QueryResolver.startSet (q : QueryResolver) (rootObjectClass : Option SetObjectClass)
    (excludeSets : Finset String) (depth : Int) : QueryResolver :=
  { q with
    currentSetRootObjectClass := rootObjectClass
    currentExcludedSets := excludeSets
    currentSetMaximumDepth := depth }

/-- The query for a name from this start, and what is found. -/
def QueryResolver.setQuery (q : QueryResolver) (rootObjectClass : Option SetObjectClass)
    (setName : String) (excludeSets : Finset String) (depth : Int) (found : SetMembers) :
      SetQuery :=
  ⟨q.startSet rootObjectClass excludeSets depth, setName, found⟩

section NotFound

variable {q : QueryResolver}

/-- Resolving a name that is not found returns the name where the depth is reached, and else
nothing. -/
theorem resolve_notFound (ip : IPParser) (order : IterationOrder) {n : Nat} {setName : String}
    {rootSource : Option String}
    (hnone : q.preloader.setMembers setName (q.lookupSources rootSource)
      (QueryResolver.setClasses q.currentSetRootObjectClass) = none) :
    ∃ depth, q.recursiveSetResolve order ip (n + 2) {setName} ∅ rootSource =
        some (if q.currentSetMaximumDepth = 1 then {setName} else ∅,
          { q with currentSetMaximumDepth := depth }) ∧
      q.setLookups order ip (n + 2) {setName} ∅ rootSource = [{setName}] := by
  obtain ⟨subMembers, leafMembers, q', hfind⟩ : ∃ subMembers leafMembers q',
      q.findSetMembers order (2 * (n + 1)) {setName} rootSource = (subMembers, leafMembers, q') :=
    ⟨_, _, _, rfl⟩
  obtain ⟨hmembers, -, hroot⟩ := QueryResolver.findSetMembers_spec order q (2 * (n + 1)) {setName}
    rootSource
  have hleafMembers := QueryResolver.mem_leafMembers order q (2 * (n + 1)) {setName} rootSource
  have hq := hroot setName rfl
  rw [hfind] at hmembers hleafMembers hq
  rw [hnone] at hq
  have hsame : q' = q := by
    refine hq.trans ?_
    unfold QueryResolver.withRoot
    rw [Option.map_none, Option.or_none]
  have hsub : subMembers = ∅ := by
    apply Finset.eq_empty_of_forall_notMem
    intro x hx
    obtain ⟨name, hname, found, hfound, -⟩ := (hmembers x).mp hx
    rw [Finset.mem_singleton.mp hname, hnone] at hfound
    cases hfound
  have hleaf : leafMembers = {setName} := by
    ext x
    refine (hleafMembers x).trans ?_
    rw [Finset.mem_singleton]
    apply and_iff_left_of_imp
    rintro rfl
    exact hnone
  have hloop : order.order (2 * (n + 1) + 1) ∅ = [] := by
    apply List.eq_nil_iff_forall_not_mem.mpr
    intro x hx
    exact Finset.notMem_empty x ((order.mem_order ..).mp hx)
  refine ⟨q.currentSetMaximumDepth - 1, ?_, ?_⟩
  · unfold QueryResolver.recursiveSetResolve
    rw [if_neg (by simp)]
    simp only [hfind, hsub, hleaf, hsame, hloop, List.foldl_nil]
    by_cases hlast : q.currentSetMaximumDepth - 1 = 0
    · have hone : q.currentSetMaximumDepth = 1 := by omega
      refine (if_pos hlast).trans ?_
      simp [hone]
    · have hother : ¬ q.currentSetMaximumDepth = 1 := by omega
      refine (if_neg hlast).trans ?_
      simp [QueryResolver.recursiveSetResolve, hother]
  · unfold QueryResolver.setLookups
    rw [if_neg (by simp)]
    simp only [hfind, hsub, hsame, hloop, List.foldl_nil]
    by_cases hlast : q.currentSetMaximumDepth - 1 = 0
    · exact if_pos hlast
    · refine (if_neg hlast).trans ?_
      simp [QueryResolver.setLookups]

end NotFound

end Irrd.Server
