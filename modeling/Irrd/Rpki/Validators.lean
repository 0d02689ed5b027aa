import Mathlib.Data.Nat.Bitwise
import Irrd.Conf.Settings
import Irrd.Storage.DatabaseHandler

/-!
# Route origin validation

The status of a route from the ROAs that cover it, for one route with a query, and for many
with a trie of ROAs. Source: `irrd/rpki/validators.py`.
-/

namespace Irrd.Rpki

open Irrd.Conf Irrd.Storage Irrd.Utils

/-- The part of a ROA that the trie keeps. -/
structure RoaEntry where
  asn : Nat
  maxLength : Nat
  deriving DecidableEq

/-- A trie as a list of its keys with their values. -/
abbrev RoaTree := List (List Bool × List RoaEntry)

/-- `Trie.prefix_items` of the package `datrie`: the items whose keys are prefixes of a key. -/
structure PrefixItems where
  prefixItems : RoaTree → List Bool → RoaTree
  mem_prefixItems : ∀ tree key item, item ∈ prefixItems tree key ↔ item ∈ tree ∧ item.1 <+: key

/-- The items one after the other. -/
def PrefixItems.scan : PrefixItems where
  prefixItems tree key := tree.filter (fun item ↦ item.1.isPrefixOf key)
  mem_prefixItems tree key item := by simp

/-- `_ip_to_binary_str`, `irrd/rpki/validators.py:182–194`: the bits of an address, and one more. -/
def ipToBinaryStr (ip : IP) : List Bool :=
  (List.range ip.bits).map (fun i ↦ ip.int.testBit (ip.bits - 1 - i)) ++ [false]

/-- The key of a network. -/
def networkKey (ip : IP) : List Bool := (ipToBinaryStr ip).take ip.prefixlen

/-- Add an entry under a key, `irrd/rpki/validators.py:162–165`. -/
def RoaTree.add (tree : RoaTree) (key : List Bool) (entry : RoaEntry) : RoaTree :=
  if tree.any (fun item ↦ item.1 = key) then
    tree.map (fun item ↦ if item.1 = key then (key, item.2 ++ [entry]) else item)
  else tree ++ [(key, [entry])]

/-- The tree of the ROAs of an IP version, `irrd/rpki/validators.py:157–180`. The ROA objects of
an import are given as the rows that are made of them. -/
def buildRoaTree (ipVersion : Nat) (roas : List ROADatabaseObject) : RoaTree :=
  (roas.filter (fun roa ↦ roa.ipPrefix.version = ipVersion)).foldl
    (fun tree roa ↦ tree.add (networkKey roa.ipPrefix) ⟨roa.asn, roa.maxLength⟩) []

/-- `BulkRouteROAValidator`, `irrd/rpki/validators.py:48–70`. -/
structure BulkRouteROAValidator where
  excludedSources : List String
  roaTree4 : RoaTree
  roaTree6 : RoaTree

/-- `__init__`. -/
def BulkRouteROAValidator.new (s : Settings) (roas : List ROADatabaseObject) :
    BulkRouteROAValidator where
  excludedSources := (s.sources.map Prod.fst).filter (fun name ↦ (s.source name).rpkiExcluded)
  roaTree4 := buildRoaTree 4 roas
  roaTree6 := buildRoaTree 6 roas

/-- Whether a ROA permits a route. -/
def RoaEntry.permits (roa : RoaEntry) (prefixLength : Nat) (prefixAsn : Option Nat) : Bool :=
  roa.asn ≠ 0 ∧ some roa.asn = prefixAsn ∧ prefixLength ≤ roa.maxLength

namespace BulkRouteROAValidator

variable (trie : PrefixItems) (v : BulkRouteROAValidator)

/-- `validate_route`, `irrd/rpki/validators.py:131–147`. -/
def validateRoute (prefixIp : IP) (prefixLength : Nat) (prefixAsn : Option Nat) (source : String) :
    RPKIStatus :=
  if source ∈ v.excludedSources then .notFound
  else
    let roaTree := if prefixIp.version = 6 then v.roaTree6 else v.roaTree4
    let roasCovering := trie.prefixItems roaTree ((ipToBinaryStr prefixIp).take prefixLength)
    if roasCovering = [] then .notFound
    else if roasCovering.any (fun item ↦ item.2.any (fun roa ↦ roa.permits prefixLength prefixAsn))
      then .valid
    else .invalid

/-- The new status of a row, which has an address and a prefix length. -/
def verdict (row : RPSLDatabaseObject) : Option RPKIStatus :=
  match row.ipFirst, row.prefixLength with
  | some prefixIp, some prefixLength =>
    some (v.validateRoute trie prefixIp prefixLength row.asnFirst row.source)
  | _, _ => if row.source ∈ v.excludedSources then some .notFound else none

/-- The rows that are validated, `irrd/rpki/validators.py:98–111`. -/
def isValidated (row : RPSLDatabaseObject) : Bool :=
  row.objectClass ∈ ["route", "route6"] ∧ row.source ≠ rpkiIrrPseudoSource

/-- A route as the first query returns it, with its new status and the one before. The columns of
the second query are not set yet. -/
def evaluated (row : RPSLDatabaseObject) (status : RPKIStatus) : ChangedObjectDict RPKIStatus where
  pk := row.pk
  rpslPk := row.rpslPk
  source := row.source
  objectClass := ""
  objectText := ""
  ipPrefix := none
  rpkiStatus := status
  scopefilterStatus := .inScope
  routePreferenceStatus := .visible
  oldStatus := row.rpkiStatus

/-- The route with the columns of the second query, `irrd/rpki/validators.py:113–123`. -/
def enrich (rows : List RPSLDatabaseObject) (d : ChangedObjectDict RPKIStatus) :
    ChangedObjectDict RPKIStatus :=
  match rows.find? (fun row ↦ row.pk = d.pk) with
  | some row => { d with
      ipPrefix := row.ipPrefix
      objectText := row.objectText
      objectClass := row.objectClass
      scopefilterStatus := row.scopefilterStatus
      routePreferenceStatus := row.routePreferenceStatus }
  | none => d

/-- The routes that should get a status and do not have it. -/
def changedTo (rows : List RPSLDatabaseObject) (status : RPKIStatus) :
    List (ChangedObjectDict RPKIStatus) :=
  ((rows.filter isValidated).filter (fun row ↦
    v.verdict trie row = some status ∧ status ≠ row.rpkiStatus)).map (fun row ↦
      enrich rows (evaluated row status))

/-- `validate_all_routes`, `irrd/rpki/validators.py:72–129`, which fails for a route without an
address. -/
def validateAllRoutes (rows : List RPSLDatabaseObject) :
    Option (List (ChangedObjectDict RPKIStatus) × List (ChangedObjectDict RPKIStatus) ×
      List (ChangedObjectDict RPKIStatus)) :=
  if (rows.filter isValidated).all (fun row ↦ (v.verdict trie row).isSome) then
    some (v.changedTo trie rows .valid, v.changedTo trie rows .invalid,
      v.changedTo trie rows .notFound)
  else none

end BulkRouteROAValidator

/-- `SingleRouteROAValidator.validate_route`, `irrd/rpki/validators.py:199–215`. -/
def singleValidateRoute (s : Settings) (roas : List ROADatabaseObject) (route : IP) (asn : Nat)
    (source : String) : RPKIStatus :=
  if (s.source source).rpkiExcluded then .notFound
  else
    let roasCovering := roas.filter (fun roa ↦ roa.ipPrefix.contains route)
    if roasCovering = [] then .notFound
    else if roasCovering.any (fun roa ↦
        roa.asn ≠ 0 ∧ roa.asn = asn ∧ route.prefixlen ≤ roa.maxLength) then .valid
    else .invalid

section Keys

/-- A network that IPy and PostgreSQL accept. -/
structure WellFormed (ip : IP) : Prop where
  version : ip.version = 4 ∨ ip.version = 6
  prefixlen : ip.prefixlen ≤ ip.bits
  int : ip.int < 2 ^ ip.bits

/-- The leading bits of two numbers are the same. -/
theorem testBit_eq_iff_div_eq {a b w n : Nat} (hn : n ≤ w) (ha : a < 2 ^ w) (hb : b < 2 ^ w) :
    (∀ i < n, a.testBit (w - 1 - i) = b.testBit (w - 1 - i)) ↔
      a / 2 ^ (w - n) = b / 2 ^ (w - n) := by
  constructor
  · intro hbits
    apply Nat.eq_of_testBit_eq
    intro j
    rw [Nat.testBit_div_two_pow, Nat.testBit_div_two_pow]
    by_cases hj : j + (w - n) < w
    · have hbit := hbits (w - 1 - (j + (w - n))) (by omega)
      have hindex : w - 1 - (w - 1 - (j + (w - n))) = j + (w - n) := by omega
      rw [hindex] at hbit
      exact hbit
    · have hpow : 2 ^ w ≤ 2 ^ (j + (w - n)) := Nat.pow_le_pow_right (by omega) (by omega)
      rw [Nat.testBit_lt_two_pow (by omega), Nat.testBit_lt_two_pow (by omega)]
  · intro hdiv i hi
    have hbit := congrArg (fun x ↦ x.testBit (n - 1 - i)) hdiv
    have hindex : n - 1 - i + (w - n) = w - 1 - i := by omega
    simpa only [Nat.testBit_div_two_pow, hindex] using hbit

/-- The leading bits of an address, up to its length. -/
theorem take_ipToBinaryStr (ip : IP) {n : Nat} (hn : n ≤ ip.bits) :
    (ipToBinaryStr ip).take n = (List.range n).map (fun i ↦ ip.int.testBit (ip.bits - 1 - i)) := by
  unfold ipToBinaryStr
  rw [List.take_append_of_le_length (by simpa using hn), ← List.map_take, List.take_range,
    Nat.min_eq_left hn]

/-- One network contains another exactly where its key is a prefix of the key of the other. -/
theorem networkKey_prefix_iff {roa route : IP} (hroa : WellFormed roa) (hroute : WellFormed route)
    (hversion : roa.version = route.version) :
    networkKey roa <+: (ipToBinaryStr route.net).take route.prefixlen ↔
      roa.contains route = true := by
  have hbits : roa.bits = route.bits := by
    unfold IP.bits
    rw [hversion]
  have hlength : roa.prefixlen ≤ route.bits := hbits ▸ hroa.prefixlen
  unfold networkKey
  rw [take_ipToBinaryStr roa hroa.prefixlen, take_ipToBinaryStr route.net hroute.prefixlen,
    List.prefix_iff_eq_take]
  simp only [List.length_map, List.length_range, ← List.map_take, List.take_range, IP.contains,
    decide_eq_true_eq, hversion, true_and, IP.networkBits, hbits]
  have hdiv := testBit_eq_iff_div_eq hlength (hbits ▸ hroa.int) hroute.int
  rw [← hdiv]
  constructor
  · intro hequal
    have hlengths := congrArg List.length hequal
    simp only [List.length_map, List.length_range] at hlengths
    have hle : roa.prefixlen ≤ route.prefixlen := by omega
    rw [Nat.min_eq_left hle] at hequal
    refine ⟨hle, fun i hi ↦ ?_⟩
    exact List.map_inj_left.mp hequal i (List.mem_range.mpr hi)
  · rintro ⟨hle, hsame⟩
    rw [Nat.min_eq_left hle]
    exact List.map_congr_left (fun i hi ↦ hsame i (List.mem_range.mp hi))

end Keys

section Trees

/-- A tree has an entry under a key. -/
def RoaTree.HasEntry (tree : RoaTree) (key : List Bool) (entry : RoaEntry) : Prop :=
  ∃ item ∈ tree, item.1 = key ∧ entry ∈ item.2

theorem hasEntry_add (tree : RoaTree) (key key' : List Bool) (entry entry' : RoaEntry) :
    (tree.add key entry).HasEntry key' entry' ↔
      tree.HasEntry key' entry' ∨ key' = key ∧ entry' = entry := by
  unfold RoaTree.add RoaTree.HasEntry
  split
  · next hany =>
    obtain ⟨present, hpresent, hkey⟩ := List.any_eq_true.mp hany
    have hkey : present.1 = key := of_decide_eq_true hkey
    constructor
    · rintro ⟨item, hitem, rfl, hentry⟩
      obtain ⟨old, hold, rfl⟩ := List.mem_map.mp hitem
      by_cases hsame : old.1 = key
      · rw [if_pos hsame] at hentry ⊢
        rcases List.mem_append.mp hentry with hentry | hentry
        · exact Or.inl ⟨old, hold, hsame, hentry⟩
        · exact Or.inr ⟨rfl, List.mem_singleton.mp hentry⟩
      · rw [if_neg hsame] at hentry ⊢
        exact Or.inl ⟨old, hold, rfl, hentry⟩
    · rintro (⟨item, hitem, rfl, hentry⟩ | ⟨rfl, rfl⟩)
      · by_cases hsame : item.1 = key
        · exact ⟨(key, item.2 ++ [entry]), List.mem_map.mpr ⟨item, hitem, if_pos hsame⟩, hsame.symm,
            List.mem_append_left _ hentry⟩
        · exact ⟨item, List.mem_map.mpr ⟨item, hitem, if_neg hsame⟩, rfl, hentry⟩
      · exact ⟨(key', present.2 ++ [entry']),
          List.mem_map.mpr ⟨present, hpresent, if_pos hkey⟩, rfl, by simp⟩
  · simp only [List.mem_append, List.mem_singleton]
    constructor
    · rintro ⟨item, hitem | rfl, hkey, hentry⟩
      · exact Or.inl ⟨item, hitem, hkey, hentry⟩
      · exact Or.inr ⟨hkey.symm, List.mem_singleton.mp hentry⟩
    · rintro (⟨item, hitem, hkey, hentry⟩ | ⟨rfl, rfl⟩)
      · exact ⟨item, Or.inl hitem, hkey, hentry⟩
      · exact ⟨_, Or.inr rfl, rfl, List.mem_singleton.mpr rfl⟩

/-- No key is without entries. -/
theorem add_ne_nil {tree : RoaTree} (key : List Bool) (entry : RoaEntry)
    (htree : ∀ item ∈ tree, item.2 ≠ []) : ∀ item ∈ tree.add key entry, item.2 ≠ [] := by
  unfold RoaTree.add
  split
  · intro item hitem
    obtain ⟨old, hold, rfl⟩ := List.mem_map.mp hitem
    split
    · simp
    · exact htree old hold
  · intro item hitem
    rcases List.mem_append.mp hitem with hitem | hitem
    · exact htree item hitem
    · rw [List.mem_singleton.mp hitem]
      simp

/-- The tree has an entry for each ROA of its version, and no others. -/
theorem hasEntry_buildRoaTree (ipVersion : Nat) (roas : List ROADatabaseObject) :
    (∀ item ∈ buildRoaTree ipVersion roas, item.2 ≠ []) ∧
      ∀ key entry, (buildRoaTree ipVersion roas).HasEntry key entry ↔
        ∃ roa ∈ roas, roa.ipPrefix.version = ipVersion ∧ networkKey roa.ipPrefix = key ∧
          ⟨roa.asn, roa.maxLength⟩ = entry := by
  -- The induction is on the ROAs that are added, from any tree.
  have hfold : ∀ (added : List ROADatabaseObject) (tree : RoaTree),
      (∀ item ∈ tree, item.2 ≠ []) →
      (∀ item ∈ added.foldl (fun tree roa ↦
          tree.add (networkKey roa.ipPrefix) ⟨roa.asn, roa.maxLength⟩) tree, item.2 ≠ []) ∧
        ∀ key entry, RoaTree.HasEntry (added.foldl (fun tree roa ↦
            tree.add (networkKey roa.ipPrefix) ⟨roa.asn, roa.maxLength⟩) tree) key entry ↔
          tree.HasEntry key entry ∨ ∃ roa ∈ added, networkKey roa.ipPrefix = key ∧
            ⟨roa.asn, roa.maxLength⟩ = entry := by
    intro added
    induction added with
    | nil => exact fun tree htree ↦ ⟨htree, by simp⟩
    | cons roa added ih =>
      intro tree htree
      obtain ⟨hnonempty, hentries⟩ := ih _ (add_ne_nil (networkKey roa.ipPrefix)
        ⟨roa.asn, roa.maxLength⟩ htree)
      refine ⟨hnonempty, fun key entry ↦ ?_⟩
      rw [List.foldl_cons, hentries, hasEntry_add, or_assoc]
      simp [eq_comm]
  obtain ⟨hnonempty, hentries⟩ :=
    hfold (roas.filter (fun roa ↦ roa.ipPrefix.version = ipVersion)) [] (by simp)
  refine ⟨hnonempty, fun key entry ↦ ?_⟩
  unfold buildRoaTree
  rw [hentries]
  simp [RoaTree.HasEntry, and_assoc]

end Trees

section Equivalence

variable {s : Settings} {roas : List ROADatabaseObject} {route : IP}

/-- The entries that cover a route in its tree are those of the ROAs that contain it. -/
theorem covering_iff (trie : PrefixItems) (hroas : ∀ roa ∈ roas, WellFormed roa.ipPrefix)
    (hroute : WellFormed route) (entry : RoaEntry) :
    (∃ item ∈ trie.prefixItems (buildRoaTree route.version roas)
        ((ipToBinaryStr route.net).take route.prefixlen), entry ∈ item.2) ↔
      ∃ roa ∈ roas, roa.ipPrefix.contains route = true ∧ ⟨roa.asn, roa.maxLength⟩ = entry := by
  obtain ⟨-, hentries⟩ := hasEntry_buildRoaTree route.version roas
  constructor
  · rintro ⟨item, hitem, hentry⟩
    obtain ⟨hmem, hkey⟩ := (trie.mem_prefixItems _ _ _).mp hitem
    obtain ⟨roa, hroa, hversion, hitemKey, hsame⟩ :=
      (hentries item.1 entry).mp ⟨item, hmem, rfl, hentry⟩
    rw [← hitemKey, networkKey_prefix_iff (hroas roa hroa) hroute hversion] at hkey
    exact ⟨roa, hroa, hkey, hsame⟩
  · rintro ⟨roa, hroa, hcontains, hsame⟩
    have hversion : roa.ipPrefix.version = route.version := by
      have hparts := of_decide_eq_true (p := _ ∧ _) hcontains
      exact hparts.1
    obtain ⟨item, hitem, hkey, hentry⟩ :=
      (hentries (networkKey roa.ipPrefix) entry).mpr ⟨roa, hroa, hversion, rfl, hsame⟩
    refine ⟨item, (trie.mem_prefixItems _ _ _).mpr ⟨hitem, ?_⟩, hentry⟩
    rw [hkey, networkKey_prefix_iff (hroas roa hroa) hroute hversion]
    exact hcontains

theorem mem_excludedSources (source : String) :
    source ∈ (BulkRouteROAValidator.new s roas).excludedSources ↔
      (s.source source).rpkiExcluded = true := by
  unfold BulkRouteROAValidator.new
  simp only [List.mem_filter, List.mem_map, Prod.exists, exists_and_right, exists_eq_right,
    and_iff_right_iff_imp]
  intro hexcluded
  unfold Settings.source at hexcluded
  cases hlookup : s.sources.lookup source with
  | none =>
    rw [hlookup] at hexcluded
    cases hexcluded
  | some own =>
    obtain ⟨before, after, hsources, -⟩ := List.lookup_eq_some_iff.mp hlookup
    exact ⟨own, by simp [hsources]⟩

/-- The trie and the query agree about every route. -/
theorem validateRoute_eq_single (trie : PrefixItems) (hroas : ∀ roa ∈ roas, WellFormed roa.ipPrefix)
    (hroute : WellFormed route) (asn : Nat) (source : String) :
    (BulkRouteROAValidator.new s roas).validateRoute trie route.net route.prefixlen (some asn)
        source = singleValidateRoute s roas route asn source := by
  have hcovering := covering_iff trie hroas hroute
  have htree : (if route.net.version = 6 then (BulkRouteROAValidator.new s roas).roaTree6
      else (BulkRouteROAValidator.new s roas).roaTree4) = buildRoaTree route.version roas := by
    rcases hroute.version with hversion | hversion
    · simp [BulkRouteROAValidator.new, IP.net, hversion]
    · simp [BulkRouteROAValidator.new, IP.net, hversion]
  unfold BulkRouteROAValidator.validateRoute singleValidateRoute
  simp only [mem_excludedSources, htree]
  generalize htries : trie.prefixItems (buildRoaTree route.version roas)
    ((ipToBinaryStr route.net).take route.prefixlen) = items at hcovering ⊢
  have hempty : items = [] ↔ roas.filter (fun roa ↦ roa.ipPrefix.contains route) = [] := by
    constructor
    · intro hitems
      rw [List.filter_eq_nil_iff]
      intro roa hroa hcontains
      obtain ⟨item, hitem, -⟩ := (hcovering _).mpr ⟨roa, hroa, hcontains, rfl⟩
      rw [hitems] at hitem
      cases hitem
    · intro hnone
      rw [List.eq_nil_iff_forall_not_mem]
      intro item hitem
      have hmem := ((trie.mem_prefixItems _ _ _).mp (htries ▸ hitem)).1
      obtain ⟨entry, hentry⟩ := List.exists_mem_of_ne_nil _
        ((hasEntry_buildRoaTree route.version roas).1 item hmem)
      obtain ⟨roa, hroa, hcontains, -⟩ := (hcovering entry).mp ⟨item, hitem, hentry⟩
      exact List.filter_eq_nil_iff.mp hnone roa hroa hcontains
  have hvalid : items.any (fun item ↦ item.2.any (fun roa ↦
      roa.permits route.prefixlen (some asn))) = true ↔
        (roas.filter (fun roa ↦ roa.ipPrefix.contains route)).any (fun roa ↦
          roa.asn ≠ 0 ∧ roa.asn = asn ∧ route.prefixlen ≤ roa.maxLength) = true := by
    simp only [List.any_eq_true, List.mem_filter, RoaEntry.permits, decide_eq_true_eq,
      Option.some_inj]
    constructor
    · rintro ⟨item, hitem, entry, hentry, hpermits⟩
      obtain ⟨roa, hroa, hcontains, rfl⟩ := (hcovering entry).mp ⟨item, hitem, hentry⟩
      exact ⟨roa, ⟨hroa, hcontains⟩, hpermits⟩
    · rintro ⟨roa, ⟨hroa, hcontains⟩, hpermits⟩
      obtain ⟨item, hitem, hentry⟩ := (hcovering _).mpr ⟨roa, hroa, hcontains, rfl⟩
      exact ⟨item, hitem, _, hentry, hpermits⟩
  simp only [hempty, hvalid]

end Equivalence

end Irrd.Rpki
