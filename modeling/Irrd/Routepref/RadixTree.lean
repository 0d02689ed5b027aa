import Irrd.Routepref.Evaluation

/-!
# The tree of route objects

The validator of route preferences with its radix tree, where the route objects of one prefix share
a node, and what it finds: exactly the route objects that do not have the status they should have.
Source: `irrd/routepref/routepref.py`. The searches of the tree are those of the package `radix`.
-/

namespace Irrd.Routepref

open Irrd.Base Irrd.Conf Irrd.Storage Irrd.Utils

/-- The columns of a route object that the validator reads. -/
structure RouteObject where
  ipPrefix : IP
  source : String
  pk : Nat
  routePreferenceStatus : RoutePreferenceStatus
  deriving DecidableEq

/-- What a node keeps of a route object. -/
structure NodeEntry where
  pk : Nat
  preference : Nat
  status : RoutePreferenceStatus
  deriving DecidableEq

/-- A node, whose data is a dict over pks. -/
structure RadixNode where
  ipPrefix : IP
  data : KeyedTable NodeEntry.pk

/-- A tree has one node for a prefix. -/
abbrev RadixTree := KeyedTable RadixNode.ipPrefix

/-- `search_covered` and `search_covering`: the nodes of a tree inside a prefix and around it. -/
structure RadixSearch where
  searchCovered : RadixTree → IP → List RadixNode
  searchCovering : RadixTree → IP → List RadixNode
  mem_searchCovered : ∀ tree p node,
    node ∈ searchCovered tree p ↔ node ∈ tree.rows ∧ p.contains node.ipPrefix = true
  mem_searchCovering : ∀ tree p node,
    node ∈ searchCovering tree p ↔ node ∈ tree.rows ∧ node.ipPrefix.contains p = true

/-- The nodes one after the other. -/
def RadixSearch.scan : RadixSearch where
  searchCovered tree p := tree.rows.filter (fun node ↦ p.contains node.ipPrefix)
  searchCovering tree p := tree.rows.filter (fun node ↦ node.ipPrefix.contains p)
  mem_searchCovered _ _ _ := List.mem_filter
  mem_searchCovering _ _ _ := List.mem_filter

/-- Set the entry for a pk. -/
def RadixNode.set (node : RadixNode) (entry : NodeEntry) : RadixNode :=
  { node with data := node.data.upsert entry (fun _ ↦ entry) (fun _ h ↦ h.symm) }

@[simp] theorem RadixNode.ipPrefix_set (node : RadixNode) (entry : NodeEntry) :
    (node.set entry).ipPrefix = node.ipPrefix := rfl

theorem RadixNode.find_set (node : RadixNode) (entry : NodeEntry) (pk : Nat) :
    (node.set entry).data.find pk = if entry.pk = pk then some entry else node.data.find pk := by
  unfold RadixNode.set
  rw [KeyedTable.find_upsert]
  cases node.data.find pk <;> rfl

/-- Add the node of a prefix, unless it is there, and set an entry in it,
`irrd/routepref/routepref.py:58–61`. -/
def RadixTree.addEntry (tree : RadixTree) (ipPrefix : IP) (entry : NodeEntry) : RadixTree :=
  tree.upsert (RadixNode.set ⟨ipPrefix, .empty⟩ entry) (fun node ↦ node.set entry)
    (fun node _ ↦ node.ipPrefix_set entry)

/-- `RoutePreferenceValidator`. -/
structure RadixValidator where
  sourcePreferences : List (String × Nat)
  maxPreference : Option Nat
  rtree : RadixTree
  excludedCurrentlySuppressed : List Nat

namespace RadixValidator

/-- One route object of `_build_tree`, `irrd/routepref/routepref.py:50–61`. -/
def addRoute (v : RadixValidator) (routeObject : RouteObject) : RadixValidator :=
  match v.sourcePreferences.lookup routeObject.source with
  | none =>
    if routeObject.routePreferenceStatus ≠ .visible then
      { v with excludedCurrentlySuppressed := v.excludedCurrentlySuppressed ++ [routeObject.pk] }
    else v
  | some preference =>
    let entry := ⟨routeObject.pk, preference, routeObject.routePreferenceStatus⟩
    { v with rtree := v.rtree.addEntry routeObject.ipPrefix entry }

/-- `__init__`, `irrd/routepref/routepref.py:29–43`. -/
def new (s : Settings) (routeObjects : List RouteObject) : RadixValidator :=
  routeObjects.foldl addRoute
    { sourcePreferences := preferencesOfSources s
      maxPreference := ((preferencesOfSources s).map Prod.snd).max?
      rtree := .empty
      excludedCurrentlySuppressed := [] }

variable (radix : RadixSearch) (v : RadixValidator)

/-- `_evaluate_route`, `irrd/routepref/routepref.py:90–105`. -/
def evaluateRoute (routePreference : Nat) (overlappingNodes : List RadixNode) :
    RoutePreferenceStatus :=
  if some routePreference = v.maxPreference then .visible
  else if overlappingNodes.any (fun node ↦
      node.data.rows.any (fun entry ↦ routePreference < entry.preference)) then .suppressed
  else .visible

/-- The nodes that overlap with a node, `irrd/routepref/routepref.py:77–80`. -/
def overlappingNodes (node : RadixNode) : List RadixNode :=
  radix.searchCovered v.rtree node.ipPrefix ++ radix.searchCovering v.rtree node.ipPrefix

/-- One entry of a node, `irrd/routepref/routepref.py:82–88`: the pks to be visible and those to
be suppressed. -/
def evaluateEntry (overlapping : List RadixNode) (found : List Nat × List Nat)
    (entry : NodeEntry) : List Nat × List Nat :=
  let newStatus := v.evaluateRoute entry.preference overlapping
  if newStatus ≠ entry.status then
    match newStatus with
    | .suppressed => (found.1, found.2 ++ [entry.pk])
    | .visible => (found.1 ++ [entry.pk], found.2)
  else found

/-- `validate_known_routes`, `irrd/routepref/routepref.py:63–88`. -/
def validateKnownRoutes : List Nat × List Nat :=
  if v.sourcePreferences = [] then ([], [])
  else v.rtree.rows.foldl (fun found node ↦
    node.data.rows.foldl (v.evaluateEntry (v.overlappingNodes radix node)) found) ([], [])

end RadixValidator

section Entries

variable {tree : RadixTree} {s : Settings} {routeObjects : List RouteObject}

/-- The entry for a pk in the node of a prefix. -/
def RadixTree.entry (tree : RadixTree) (ipPrefix : IP) (pk : Nat) : Option NodeEntry :=
  (tree.find ipPrefix).bind (fun node ↦ node.data.find pk)

/-- The entries are those that are met when all nodes are visited. -/
theorem entry_eq_some_iff {ipPrefix : IP} {pk : Nat} {entry : NodeEntry} :
    tree.entry ipPrefix pk = some entry ↔
      ∃ node ∈ tree.rows, entry ∈ node.data.rows ∧ node.ipPrefix = ipPrefix ∧ entry.pk = pk := by
  unfold RadixTree.entry
  simp only [Option.bind_eq_some_iff, KeyedTable.find_eq_some_iff]
  refine exists_congr (fun node ↦ ?_)
  tauto

theorem entry_addEntry (ipPrefix p : IP) (entry : NodeEntry) (pk : Nat) :
    (tree.addEntry ipPrefix entry).entry p pk =
      if ipPrefix = p ∧ entry.pk = pk then some entry else tree.entry p pk := by
  unfold RadixTree.entry RadixTree.addEntry
  rw [KeyedTable.find_upsert]
  by_cases hp : ipPrefix = p
  · subst hp
    cases tree.find ipPrefix <;> simp [RadixNode.find_set]
  · rw [RadixNode.ipPrefix_set, if_neg hp, if_neg (fun h ↦ hp h.1)]

/-- The preference of the source of a route object. -/
def RouteObject.preference (s : Settings) (r : RouteObject) : Option Nat :=
  (preferencesOfSources s).lookup r.source

/-- What the validator has after some route objects. Equal pks stand for the same row. -/
structure Holds (s : Settings) (routeObjects : List RouteObject) (v : RadixValidator) : Prop where
  sourcePreferences : v.sourcePreferences = preferencesOfSources s
  maxPreference : v.maxPreference = ((preferencesOfSources s).map Prod.snd).max?
  entries : ∀ ipPrefix pk entry, v.rtree.entry ipPrefix pk = some entry ↔
    ∃ r ∈ routeObjects, r.ipPrefix = ipPrefix ∧ r.pk = pk ∧ ∃ n ∈ r.preference s,
      entry = ⟨pk, n, r.routePreferenceStatus⟩
  excluded : ∀ pk, pk ∈ v.excludedCurrentlySuppressed ↔
    ∃ r ∈ routeObjects, r.pk = pk ∧ r.preference s = none ∧ r.routePreferenceStatus = .suppressed

theorem Holds.addRoute {v : RadixValidator} (hv : Holds s routeObjects v) {r : RouteObject}
    (hunique : ∀ r' ∈ routeObjects, r'.pk = r.pk → r' = r) :
    Holds s (routeObjects ++ [r]) (v.addRoute r) := by
  have hlookup : v.sourcePreferences.lookup r.source = r.preference s := by
    rw [hv.sourcePreferences]
    rfl
  unfold RadixValidator.addRoute
  rw [hlookup]
  cases hpreference : r.preference s with
  | none =>
    have hentries (ipPrefix : IP) (pk : Nat) (entry : NodeEntry) :
        v.rtree.entry ipPrefix pk = some entry ↔
          ∃ r' ∈ routeObjects ++ [r], r'.ipPrefix = ipPrefix ∧ r'.pk = pk ∧
            ∃ n ∈ r'.preference s, entry = ⟨pk, n, r'.routePreferenceStatus⟩ := by
      rw [hv.entries]
      simp [or_and_right, exists_or, hpreference]
    dsimp only
    split
    · next hstatus =>
      have hsuppressed : r.routePreferenceStatus = .suppressed := by
        cases h : r.routePreferenceStatus with
        | visible => exact absurd h hstatus
        | suppressed => rfl
      refine ⟨hv.sourcePreferences, hv.maxPreference, hentries, fun pk ↦ ?_⟩
      rw [List.mem_append, hv.excluded]
      simp [or_and_right, exists_or, hpreference, hsuppressed, eq_comm]
    · next hstatus =>
      refine ⟨hv.sourcePreferences, hv.maxPreference, hentries, fun pk ↦ ?_⟩
      rw [hv.excluded]
      simp [or_and_right, exists_or, not_not.mp hstatus]
  | some n =>
    refine ⟨hv.sourcePreferences, hv.maxPreference, fun ipPrefix pk entry ↦ ?_, fun pk ↦ ?_⟩
    · rw [entry_addEntry]
      constructor
      · intro hentry
        split at hentry
        · next hsame =>
          obtain rfl := Option.some_inj.mp hentry
          exact ⟨r, by simp, hsame.1, hsame.2, n, hpreference, by rw [← hsame.2]⟩
        · obtain ⟨r', hr', hrest⟩ := (hv.entries ipPrefix pk entry).mp hentry
          exact ⟨r', List.mem_append_left _ hr', hrest⟩
      · rintro ⟨r', hr', hp, hpk, m, hm, rfl⟩
        split
        · next hsame =>
          have heq : r' = r := by
            rcases List.mem_append.mp hr' with hr' | hr'
            · exact hunique r' hr' (hpk.trans hsame.2.symm)
            · exact List.mem_singleton.mp hr'
          rw [heq, Option.mem_def, hpreference, Option.some_inj] at hm
          rw [heq, ← hm, ← hsame.2]
        · next hother =>
          rcases List.mem_append.mp hr' with hr' | hr'
          · exact (hv.entries ipPrefix pk _).mpr ⟨r', hr', hp, hpk, m, hm, rfl⟩
          · obtain rfl := List.mem_singleton.mp hr'
            exact absurd ⟨hp, hpk⟩ hother
    · rw [hv.excluded]
      simp [or_and_right, exists_or, hpreference]

/-- The tree has an entry for each route object of a source with a preference. -/
theorem holds_new (s : Settings) {routeObjects : List RouteObject}
    (hunique : ∀ r ∈ routeObjects, ∀ r' ∈ routeObjects, r.pk = r'.pk → r = r') :
    Holds s routeObjects (RadixValidator.new s routeObjects) := by
  -- The induction is on the route objects that are added, after others.
  have hfold : ∀ (added done : List RouteObject) (v : RadixValidator),
      (∀ r ∈ done ++ added, ∀ r' ∈ done ++ added, r.pk = r'.pk → r = r') → Holds s done v →
        Holds s (done ++ added) (added.foldl RadixValidator.addRoute v) := by
    intro added
    induction added with
    | nil =>
      intro done v _ hv
      rwa [List.append_nil]
    | cons r added ih =>
      intro done v hunique hv
      rw [List.append_cons] at hunique ⊢
      refine ih (done ++ [r]) _ hunique (hv.addRoute (fun r' hr' hpk ↦ ?_))
      exact hunique r' (by simp [hr']) r (by simp) hpk
  exact hfold routeObjects [] _ hunique
    ⟨rfl, rfl, fun _ _ _ ↦ by simp [RadixTree.entry], fun _ ↦ by simp⟩

end Entries

section Evaluation

variable {radix : RadixSearch} {v : RadixValidator} {s : Settings} {routeObjects : List RouteObject}

theorem mem_overlappingNodes {node other : RadixNode} :
    other ∈ v.overlappingNodes radix node ↔
      other ∈ v.rtree.rows ∧ overlaps node.ipPrefix other.ipPrefix = true := by
  unfold RadixValidator.overlappingNodes overlaps
  rw [List.mem_append, radix.mem_searchCovered, radix.mem_searchCovering, Bool.or_eq_true,
    and_or_left]

/-- The entries of a node are evaluated one by one. -/
theorem mem_foldl_evaluateEntry {overlapping : List RadixNode} {entries : List NodeEntry}
    (found : List Nat × List Nat) (pk : Nat) :
    (pk ∈ (entries.foldl (v.evaluateEntry overlapping) found).1 ↔ pk ∈ found.1 ∨
        ∃ entry ∈ entries, entry.pk = pk ∧ entry.status = .suppressed ∧
          v.evaluateRoute entry.preference overlapping = .visible) ∧
      (pk ∈ (entries.foldl (v.evaluateEntry overlapping) found).2 ↔ pk ∈ found.2 ∨
        ∃ entry ∈ entries, entry.pk = pk ∧ entry.status = .visible ∧
          v.evaluateRoute entry.preference overlapping = .suppressed) := by
  induction entries generalizing found with
  | nil => simp
  | cons entry entries ih =>
    rw [List.foldl_cons, (ih _).1, (ih _).2]
    unfold RadixValidator.evaluateEntry
    cases hevaluated : v.evaluateRoute entry.preference overlapping <;>
      cases hstatus : entry.status <;> simp [hevaluated, hstatus, or_assoc, eq_comm]

/-- All nodes are visited, each with the nodes that overlap with it. -/
theorem mem_foldl_nodes {nodes : List RadixNode} (found : List Nat × List Nat) (pk : Nat) :
    (pk ∈ (nodes.foldl (fun found node ↦
          node.data.rows.foldl (v.evaluateEntry (v.overlappingNodes radix node)) found) found).1 ↔
        pk ∈ found.1 ∨ ∃ node ∈ nodes, ∃ entry ∈ node.data.rows, entry.pk = pk ∧
          entry.status = .suppressed ∧
            v.evaluateRoute entry.preference (v.overlappingNodes radix node) = .visible) ∧
      (pk ∈ (nodes.foldl (fun found node ↦
          node.data.rows.foldl (v.evaluateEntry (v.overlappingNodes radix node)) found) found).2 ↔
        pk ∈ found.2 ∨ ∃ node ∈ nodes, ∃ entry ∈ node.data.rows, entry.pk = pk ∧
          entry.status = .visible ∧
            v.evaluateRoute entry.preference (v.overlappingNodes radix node) = .suppressed) := by
  induction nodes generalizing found with
  | nil => simp
  | cons node nodes ih =>
    rw [List.foldl_cons, (ih _).1, (ih _).2, (mem_foldl_evaluateEntry _ pk).1,
      (mem_foldl_evaluateEntry _ pk).2]
    simp [or_assoc]

/-- A route object that should be suppressed: its source has a preference, and one whose source
has a higher one overlaps. -/
def ShouldBeSuppressed (s : Settings) (routeObjects : List RouteObject) (r : RouteObject) : Prop :=
  ∃ n ∈ r.preference s, ∃ r' ∈ routeObjects, overlaps r.ipPrefix r'.ipPrefix = true ∧
    ∃ m ∈ r'.preference s, n < m

/-- An entry of a route object is evaluated as the route object should be. The highest preference
need not be compared with others. -/
theorem evaluateRoute_eq_suppressed_iff (hv : Holds s routeObjects v) {r : RouteObject} {n : Nat}
    (hn : n ∈ r.preference s) {node : RadixNode} (hnode : node.ipPrefix = r.ipPrefix) :
    v.evaluateRoute n (v.overlappingNodes radix node) = .suppressed ↔
      ShouldBeSuppressed s routeObjects r := by
  have hhigher : (v.overlappingNodes radix node).any (fun node ↦
      node.data.rows.any (fun entry ↦ n < entry.preference)) = true ↔
        ShouldBeSuppressed s routeObjects r := by
    simp only [List.any_eq_true, decide_eq_true_eq, mem_overlappingNodes, hnode]
    constructor
    · rintro ⟨other, ⟨hother, hoverlaps⟩, entry, hentry, hlt⟩
      obtain ⟨r', hr', hp, -, m, hm, heq⟩ := (hv.entries _ _ _).mp
        (entry_eq_some_iff.mpr ⟨other, hother, hentry, rfl, rfl⟩)
      rw [heq] at hlt
      exact ⟨n, hn, r', hr', hp ▸ hoverlaps, m, hm, hlt⟩
    · rintro ⟨n', hn', r', hr', hoverlaps, m, hm, hlt⟩
      cases Option.mem_unique hn hn'
      obtain ⟨other, hother, hentry, hp, -⟩ := entry_eq_some_iff.mp
        ((hv.entries r'.ipPrefix r'.pk _).mpr ⟨r', hr', rfl, rfl, m, hm, rfl⟩)
      exact ⟨other, ⟨hother, hp ▸ hoverlaps⟩, _, hentry, hlt⟩
  unfold RadixValidator.evaluateRoute
  split
  · next hmax =>
    refine ⟨fun hne ↦ (by cases hne), ?_⟩
    rintro ⟨n', hn', r', -, -, m, hm, hlt⟩
    cases Option.mem_unique hn hn'
    rw [hv.maxPreference] at hmax
    have hle := preference_le_max hm hmax
    omega
  · rw [← hhigher]
    split
    · next hany => simp [hany]
    · next hnone => simp [hnone]

/-- The validator finds exactly the route objects that do not have the status they should have. -/
theorem validateKnownRoutes_spec (s : Settings) (radix : RadixSearch)
    (routeObjects : List RouteObject)
    (hunique : ∀ r ∈ routeObjects, ∀ r' ∈ routeObjects, r.pk = r'.pk → r = r') (pk : Nat) :
    let v := RadixValidator.new s routeObjects
    (pk ∈ (v.validateKnownRoutes radix).1 ++ v.excludedCurrentlySuppressed ↔
        ∃ r ∈ routeObjects, r.pk = pk ∧ r.routePreferenceStatus = .suppressed ∧
          ¬ ShouldBeSuppressed s routeObjects r) ∧
      (pk ∈ (v.validateKnownRoutes radix).2 ↔
        ∃ r ∈ routeObjects, r.pk = pk ∧ r.routePreferenceStatus = .visible ∧
          ShouldBeSuppressed s routeObjects r) := by
  intro v
  have hv : Holds s routeObjects v := holds_new s hunique
  have hentries (status evaluated : RoutePreferenceStatus) :
      (∃ node ∈ v.rtree.rows, ∃ entry ∈ node.data.rows, entry.pk = pk ∧ entry.status = status ∧
          v.evaluateRoute entry.preference (v.overlappingNodes radix node) = evaluated) ↔
        ∃ r ∈ routeObjects, r.pk = pk ∧ r.preference s ≠ none ∧
          r.routePreferenceStatus = status ∧
            (evaluated = .suppressed ↔ ShouldBeSuppressed s routeObjects r) := by
    have heval {r : RouteObject} {n : Nat} (hn : n ∈ r.preference s) {node : RadixNode}
        (hnode : node.ipPrefix = r.ipPrefix) :
        v.evaluateRoute n (v.overlappingNodes radix node) = evaluated ↔
          (evaluated = .suppressed ↔ ShouldBeSuppressed s routeObjects r) := by
      rw [← evaluateRoute_eq_suppressed_iff hv hn hnode]
      generalize v.evaluateRoute n (v.overlappingNodes radix node) = found
      cases found <;> cases evaluated <;> simp
    constructor
    · rintro ⟨node, hnode, entry, hentry, hpk, hstatus, hevaluated⟩
      obtain ⟨r, hr, hp, hrpk, n, hn, rfl⟩ := (hv.entries _ _ _).mp
        (entry_eq_some_iff.mpr ⟨node, hnode, hentry, rfl, hpk⟩)
      exact ⟨r, hr, hrpk, Option.ne_none_iff_exists'.mpr ⟨n, hn⟩, hstatus,
        (heval hn hp.symm).mp hevaluated⟩
    · rintro ⟨r, hr, hpk, hsome, hstatus, hevaluated⟩
      obtain ⟨n, hn⟩ := Option.ne_none_iff_exists'.mp hsome
      obtain ⟨node, hnode, hentry, hp, -⟩ := entry_eq_some_iff.mp
        ((hv.entries r.ipPrefix pk _).mpr ⟨r, hr, rfl, hpk, n, hn, rfl⟩)
      exact ⟨node, hnode, _, hentry, rfl, hstatus, (heval hn hp).mpr hevaluated⟩
  have hvalidate : (pk ∈ (v.validateKnownRoutes radix).1 ↔
        ∃ r ∈ routeObjects, r.pk = pk ∧ r.preference s ≠ none ∧
          r.routePreferenceStatus = .suppressed ∧ ¬ ShouldBeSuppressed s routeObjects r) ∧
      (pk ∈ (v.validateKnownRoutes radix).2 ↔
        ∃ r ∈ routeObjects, r.pk = pk ∧ r.preference s ≠ none ∧
          r.routePreferenceStatus = .visible ∧ ShouldBeSuppressed s routeObjects r) := by
    unfold RadixValidator.validateKnownRoutes
    split
    · next hempty =>
      have hnone (r : RouteObject) : r.preference s = none := by
        unfold RouteObject.preference
        rw [← hv.sourcePreferences, hempty]
        rfl
      simp [hnone]
    · rw [(mem_foldl_nodes _ pk).1, (mem_foldl_nodes _ pk).2, hentries, hentries]
      simp
  -- A route object that should be suppressed has a source with a preference.
  have hsome (r : RouteObject) (hr : ShouldBeSuppressed s routeObjects r) :
      r.preference s ≠ none := by
    obtain ⟨n, hn, -⟩ := hr
    exact Option.ne_none_iff_exists'.mpr ⟨n, hn⟩
  constructor
  · rw [List.mem_append, hvalidate.1, hv.excluded]
    constructor
    · rintro (⟨r, hr, hpk, -, hstatus, hnot⟩ | ⟨r, hr, hpk, hnone, hstatus⟩)
      · exact ⟨r, hr, hpk, hstatus, hnot⟩
      · exact ⟨r, hr, hpk, hstatus, fun h ↦ hsome r h hnone⟩
    · rintro ⟨r, hr, hpk, hstatus, hnot⟩
      by_cases hnone : r.preference s = none
      · exact Or.inr ⟨r, hr, hpk, hnone, hstatus⟩
      · exact Or.inl ⟨r, hr, hpk, hnone, hstatus, hnot⟩
  · rw [hvalidate.2]
    refine exists_congr (fun r ↦ and_congr_right (fun _ ↦ and_congr_right (fun _ ↦ ?_)))
    exact ⟨fun h ↦ ⟨h.2.1, h.2.2⟩, fun h ↦ ⟨hsome r h.2, h⟩⟩

/-- Two sources, where only one has the higher preference. -/
def twoSources : Settings :=
  ⟨false, none, [("A", ⟨false, false, false, some 10, none⟩),
    ("B", ⟨false, false, false, some 20, none⟩)]⟩

theorem validateKnownRoutes_spec_twoSources :
    let routeObjects : List RouteObject :=
      [⟨⟨4, 0xC0000200, 24⟩, "A", 1, .visible⟩, ⟨⟨4, 0xC0000200, 25⟩, "B", 2, .visible⟩,
        ⟨⟨4, 0xC0000200, 24⟩, "A", 1, .visible⟩]
    let v := RadixValidator.new twoSources routeObjects
    (1 ∈ (v.validateKnownRoutes .scan).1 ++ v.excludedCurrentlySuppressed ↔
        ∃ r ∈ routeObjects, r.pk = 1 ∧ r.routePreferenceStatus = .suppressed ∧
          ¬ ShouldBeSuppressed twoSources routeObjects r) ∧
      (1 ∈ (v.validateKnownRoutes .scan).2 ↔
        ∃ r ∈ routeObjects, r.pk = 1 ∧ r.routePreferenceStatus = .visible ∧
          ShouldBeSuppressed twoSources routeObjects r) :=
  validateKnownRoutes_spec twoSources .scan _ (by decide) 1

example : (RadixValidator.new twoSources [⟨⟨4, 0xC0000200, 24⟩, "A", 1, .visible⟩,
    ⟨⟨4, 0xC0000200, 25⟩, "B", 2, .visible⟩]).validateKnownRoutes .scan = ([], [1]) := by decide

end Evaluation

section Rows

variable {s : Settings} {rows : List RPSLDatabaseObject}

/-- The columns of a row. -/
def routeObject (row : RPSLDatabaseObject) : Option RouteObject :=
  row.ipPrefix.map (fun ipPrefix ↦ ⟨ipPrefix, row.source, row.pk, row.routePreferenceStatus⟩)

theorem mem_routeObjects {r : RouteObject} : r ∈ rows.filterMap routeObject ↔
    ∃ row ∈ rows, ∃ p ∈ row.ipPrefix, r = ⟨p, row.source, row.pk, row.routePreferenceStatus⟩ := by
  simp only [routeObject, List.mem_filterMap, Option.map_eq_some_iff, Option.mem_def]
  simp only [eq_comm]

/-- The flat tree evaluates a row to the status that its route object should have. -/
theorem evaluateRoute_routeObject {row : RPSLDatabaseObject} {n : Nat} {p : IP}
    (hn : n ∈ preference s row.toObjectColumns) (status : RoutePreferenceStatus) :
    (RoutePreferenceValidator.new s rows).evaluateRoute ⟨p, row.pk, n, status⟩ = .suppressed ↔
      ShouldBeSuppressed s (rows.filterMap routeObject) ⟨p, row.source, row.pk, status⟩ := by
  rw [evaluateRoute_eq_suppressed]
  constructor
  · rintro ⟨r', hr', hlt, hoverlaps⟩
    obtain ⟨other, hother, m, hm, q, hq, rfl⟩ := mem_tree.mp hr'
    exact ⟨n, hn, _, mem_routeObjects.mpr ⟨other, hother, q, hq, rfl⟩, hoverlaps, m, hm, hlt⟩
  · rintro ⟨n', hn', r', hr', hoverlaps, m, hm, hlt⟩
    cases Option.mem_unique (show n ∈ (preferencesOfSources s).lookup row.source from hn) hn'
    obtain ⟨other, hother, q, hq, rfl⟩ := mem_routeObjects.mp hr'
    exact ⟨_, mem_tree.mpr ⟨other, hother, m, hm, q, hq, rfl⟩, hlt, hoverlaps⟩

/-- Entries of one prefix may as well be kept side by side: the validator with a flat tree finds the
same rows. -/
theorem validateKnownRoutes_eq_flat (radix : RadixSearch)
    (hunique : ∀ row ∈ rows, ∀ row' ∈ rows, row.pk = row'.pk → row = row')
    (hprefixes : ∀ row ∈ rows, row.ipPrefix ≠ none) (pk : Nat) :
    let v := RadixValidator.new s (rows.filterMap routeObject)
    let flat := RoutePreferenceValidator.new s rows
    (pk ∈ (v.validateKnownRoutes radix).1 ++ v.excludedCurrentlySuppressed ↔
        pk ∈ flat.validateKnownRoutes.1 ++ flat.excludedCurrentlySuppressed) ∧
      (pk ∈ (v.validateKnownRoutes radix).2 ↔ pk ∈ flat.validateKnownRoutes.2) := by
  intro v flat
  have hpks : ∀ r ∈ rows.filterMap routeObject, ∀ r' ∈ rows.filterMap routeObject,
      r.pk = r'.pk → r = r' := by
    intro r hr r' hr' hpk
    obtain ⟨row, hrow, p, hp, rfl⟩ := mem_routeObjects.mp hr
    obtain ⟨row', hrow', p', hp', rfl⟩ := mem_routeObjects.mp hr'
    obtain rfl := hunique row hrow row' hrow' hpk
    rw [Option.mem_unique hp hp']
  obtain ⟨hvisible, hsuppressed⟩ := validateKnownRoutes_spec s radix _ hpks pk
  rw [hvisible, hsuppressed, List.mem_append, mem_validateKnownRoutes.1, mem_validateKnownRoutes.2,
    mem_excludedCurrentlySuppressed]
  constructor
  · constructor
    · rintro ⟨r, hr, rfl, hstatus, hnot⟩
      obtain ⟨row, hrow, p, hp, rfl⟩ := mem_routeObjects.mp hr
      cases hpreference : preference s row.toObjectColumns with
      | none => exact Or.inr ⟨row, hrow, hpreference, hstatus, rfl⟩
      | some n =>
        refine Or.inl ⟨_, mem_tree.mpr ⟨row, hrow, n, hpreference, p, hp, rfl⟩, rfl, hstatus, ?_⟩
        cases hevaluated : flat.evaluateRoute ⟨p, row.pk, n, row.routePreferenceStatus⟩ with
        | visible => rfl
        | suppressed => exact absurd ((evaluateRoute_routeObject hpreference _).mp hevaluated) hnot
    · rintro (⟨r, hr, rfl, hstatus, hevaluated⟩ | ⟨row, hrow, hnone, hstatus, rfl⟩)
      · obtain ⟨row, hrow, n, hn, p, hp, rfl⟩ := mem_tree.mp hr
        refine ⟨_, mem_routeObjects.mpr ⟨row, hrow, p, hp, rfl⟩, rfl, hstatus, fun hshould ↦ ?_⟩
        rw [← evaluateRoute_routeObject hn, hevaluated] at hshould
        cases hshould
      · obtain ⟨p, hp⟩ := Option.ne_none_iff_exists'.mp (hprefixes row hrow)
        refine ⟨_, mem_routeObjects.mpr ⟨row, hrow, p, hp, rfl⟩, rfl, hstatus, ?_⟩
        rintro ⟨n, hn, -⟩
        cases hnone.symm.trans hn
  · constructor
    · rintro ⟨r, hr, rfl, hstatus, hshould⟩
      obtain ⟨row, hrow, p, hp, rfl⟩ := mem_routeObjects.mp hr
      obtain ⟨n, hn, -⟩ := id hshould
      exact ⟨_, mem_tree.mpr ⟨row, hrow, n, hn, p, hp, rfl⟩, rfl, hstatus,
        (evaluateRoute_routeObject hn _).mpr hshould⟩
    · rintro ⟨r, hr, rfl, hstatus, hevaluated⟩
      obtain ⟨row, hrow, n, hn, p, hp, rfl⟩ := mem_tree.mp hr
      exact ⟨_, mem_routeObjects.mpr ⟨row, hrow, p, hp, rfl⟩, rfl, hstatus,
        (evaluateRoute_routeObject hn _).mp hevaluated⟩

end Rows

end Irrd.Routepref
