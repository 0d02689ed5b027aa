import Mathlib.Data.List.Induction
import Irrd.Rpki.Importer
import Irrd.Rpki.Validators

/-!
# Route origin validation against RFC 6811

The validation state of a route as RFC 6811 defines it, over a set of validated ROA payloads, and
the validators of `irrd/rpki/validators.py`: the bulk validator over a tree built from the ROAs of
an import or from the table, and the validator of a single route, which queries the table.
-/

namespace Irrd.Rpki

open Irrd.Conf Irrd.Storage Irrd.Utils

section Definition

/-- A validated ROA payload. -/
structure VRP where
  ipPrefix : IP
  asn : Nat
  maxLength : Nat

/-- The route prefix is covered by the VRP: its length is at least that of the VRP prefix, and both
are identical in the bits of the VRP prefix. -/
def VRP.Covers (vrp : VRP) (route : IP) : Prop :=
  vrp.ipPrefix.version = route.version ∧ vrp.ipPrefix.prefixlen ≤ route.prefixlen ∧
    ∀ i < vrp.ipPrefix.prefixlen,
      vrp.ipPrefix.int.testBit (vrp.ipPrefix.bits - 1 - i) = route.int.testBit (route.bits - 1 - i)

/-- The route is matched by the VRP: it is covered, no longer than permitted, and of its AS, which
is not zero. -/
def VRP.Matches (vrp : VRP) (route : IP) (origin : Nat) : Prop :=
  vrp.Covers route ∧ route.prefixlen ≤ vrp.maxLength ∧ vrp.asn = origin ∧ vrp.asn ≠ 0

open Classical in
/-- The validation state of a route. -/
noncomputable def validationState (vrps : Set VRP) (route : IP) (origin : Nat) : RPKIStatus :=
  if ∃ vrp ∈ vrps, vrp.Matches route origin then .valid
  else if ∃ vrp ∈ vrps, vrp.Covers route then .invalid
  else .notFound

open Classical in
/-- The status that IRRd gives a route: sources may be excluded from validation. -/
noncomputable def routeStatus (excluded : Set String) (vrps : Set VRP) (route : IP) (origin : Nat)
    (source : String) : RPKIStatus :=
  if source ∈ excluded then .notFound else validationState vrps route origin

end Definition

section Trees

/-- `IP.strBin`: the bits of an address. -/
def strBin (ip : IP) : List Bool :=
  (List.range ip.bits).map (fun i ↦ ip.int.testBit (ip.bits - 1 - i))

/-- One ROA of `_build_roa_tree_from_roa_objs`, `irrd/rpki/validators.py:159–165`. -/
def BulkRouteROAValidator.addRoa (v : BulkRouteROAValidator) (roa : ROA) : BulkRouteROAValidator :=
  let key := (strBin roa.ipPrefix).take roa.ipPrefix.prefixlen
  let entry : RoaEntry := ⟨roa.asn, roa.maxLength⟩
  if roa.ipPrefix.version = 6 then { v with roaTree6 := v.roaTree6.add key entry }
  else { v with roaTree4 := v.roaTree4.add key entry }

/-- `__init__` with ROA objects, `irrd/rpki/validators.py:48–70` and `:155–165`. -/
def BulkRouteROAValidator.ofRoaObjs (s : Settings) (roas : List ROA) : BulkRouteROAValidator :=
  roas.foldl addRoa
    { excludedSources := (s.sources.map Prod.fst).filter (fun name ↦ (s.source name).rpkiExcluded)
      roaTree4 := []
      roaTree6 := [] }

/-- Both ways to read off the bits of a network give the same key. -/
theorem take_strBin {ip : IP} (hip : WellFormed ip) :
    (strBin ip).take ip.prefixlen = networkKey ip := by
  unfold networkKey
  rw [take_ipToBinaryStr ip hip.prefixlen, strBin, ← List.map_take, List.take_range,
    Nat.min_eq_left hip.prefixlen]

theorem buildRoaTree_append (ipVersion : Nat) (rows : List ROADatabaseObject)
    (row : ROADatabaseObject) :
    buildRoaTree ipVersion (rows ++ [row]) =
      if row.ipPrefix.version = ipVersion then
        (buildRoaTree ipVersion rows).add (networkKey row.ipPrefix) ⟨row.asn, row.maxLength⟩
      else buildRoaTree ipVersion rows := by
  unfold buildRoaTree
  rw [List.filter_append, List.foldl_append]
  by_cases h : row.ipPrefix.version = ipVersion
  · rw [if_pos h, List.filter_singleton, decide_eq_true h]
    rfl
  · rw [if_neg h, List.filter_singleton, decide_eq_false h]
    rfl

/-- The trees built from ROA objects are those built from their rows. -/
theorem ofRoaObjs_eq (s : Settings) {roas : List ROA}
    (hroas : ∀ roa ∈ roas, WellFormed roa.ipPrefix) :
    BulkRouteROAValidator.ofRoaObjs s roas =
      BulkRouteROAValidator.new s (roas.map ROA.row) := by
  induction roas using List.reverseRecOn with
  | nil => rfl
  | append_singleton roas roa ih =>
    have hroa : WellFormed roa.ipPrefix := hroas roa (by simp)
    have hothers : ∀ roa ∈ roas, WellFormed roa.ipPrefix :=
      fun roa hmem ↦ hroas roa (List.mem_append_left _ hmem)
    have hstep : BulkRouteROAValidator.ofRoaObjs s (roas ++ [roa]) =
        (BulkRouteROAValidator.ofRoaObjs s roas).addRoa roa := by
      unfold BulkRouteROAValidator.ofRoaObjs
      rw [List.foldl_append]
      rfl
    rw [hstep, ih hothers, List.map_append, List.map_singleton]
    unfold BulkRouteROAValidator.addRoa BulkRouteROAValidator.new
    rw [take_strBin hroa, buildRoaTree_append, buildRoaTree_append]
    rcases hroa.version with hversion | hversion <;> simp [ROA.row, hversion]

end Trees

section Agreement

def ROA.vrp (roa : ROA) : VRP := ⟨roa.ipPrefix, roa.asn, roa.maxLength⟩

def rowVrp (row : ROADatabaseObject) : VRP := ⟨row.ipPrefix, row.asn, row.maxLength⟩

/-- The containment operator of PostgreSQL compares the bits of the shorter prefix. -/
theorem covers_iff {vrp : VRP} {route : IP} (hvrp : WellFormed vrp.ipPrefix)
    (hroute : WellFormed route) : vrp.Covers route ↔ vrp.ipPrefix.contains route = true := by
  unfold VRP.Covers IP.contains
  rw [decide_eq_true_eq]
  refine and_congr_right (fun hversion ↦ and_congr_right (fun hlength ↦ ?_))
  have hbits : vrp.ipPrefix.bits = route.bits := by
    unfold IP.bits
    rw [hversion]
  unfold IP.networkBits
  rw [hbits]
  exact testBit_eq_iff_div_eq (hbits ▸ hvrp.prefixlen) (hbits ▸ hvrp.int) hroute.int

/-- The validator of single routes gives the state that is defined. -/
theorem singleValidateRoute_eq (s : Settings) {rows : List ROADatabaseObject} {route : IP}
    (hrows : ∀ row ∈ rows, WellFormed row.ipPrefix) (hroute : WellFormed route) (asn : Nat)
    (source : String) :
    singleValidateRoute s rows route asn source =
      routeStatus {source | (s.source source).rpkiExcluded = true} {vrp | vrp ∈ rows.map rowVrp}
        route asn source := by
  have hrow (row : ROADatabaseObject) (hrow : row ∈ rows)
      (hcontains : row.ipPrefix.contains route = true) : (rowVrp row).Covers route :=
    (covers_iff (hrows row hrow) hroute).mpr hcontains
  have hcovers : (∃ vrp ∈ {vrp | vrp ∈ rows.map rowVrp}, vrp.Covers route) ↔
      rows.filter (fun row ↦ row.ipPrefix.contains route) ≠ [] := by
    rw [Ne, List.filter_eq_nil_iff]
    push Not
    constructor
    · rintro ⟨vrp, hvrp, hcovers⟩
      obtain ⟨row, hrow, rfl⟩ := List.mem_map.mp hvrp
      exact ⟨row, hrow, (covers_iff (hrows row hrow) hroute).mp hcovers⟩
    · rintro ⟨row, hmem, hcontains⟩
      exact ⟨rowVrp row, List.mem_map_of_mem hmem, hrow row hmem hcontains⟩
  have hmatches : (∃ vrp ∈ {vrp | vrp ∈ rows.map rowVrp}, vrp.Matches route asn) ↔
      (rows.filter (fun row ↦ row.ipPrefix.contains route)).any (fun row ↦
        row.asn ≠ 0 ∧ row.asn = asn ∧ route.prefixlen ≤ row.maxLength) = true := by
    simp only [List.any_eq_true, List.mem_filter, decide_eq_true_eq]
    constructor
    · rintro ⟨vrp, hvrp, hcovers, hlength, horigin, hzero⟩
      obtain ⟨row, hrow, rfl⟩ := List.mem_map.mp hvrp
      exact ⟨row, ⟨hrow, (covers_iff (hrows row hrow) hroute).mp hcovers⟩, hzero, horigin, hlength⟩
    · rintro ⟨row, ⟨hmem, hcontains⟩, hzero, horigin, hlength⟩
      exact ⟨rowVrp row, List.mem_map_of_mem hmem, hrow row hmem hcontains, hlength, horigin, hzero⟩
  unfold singleValidateRoute routeStatus validationState
  rw [Set.mem_ofPred_eq]
  by_cases hexcluded : (s.source source).rpkiExcluded = true
  · rw [if_pos hexcluded, if_pos hexcluded]
  · rw [if_neg hexcluded, if_neg hexcluded]
    by_cases hmatch : ∃ vrp ∈ {vrp | vrp ∈ rows.map rowVrp}, vrp.Matches route asn
    · have hcover := hcovers.mp (hmatch.imp (fun _ h ↦ ⟨h.1, h.2.1⟩))
      rw [if_pos hmatch]
      dsimp only
      rw [if_neg hcover, if_pos (hmatches.mp hmatch)]
    · rw [if_neg hmatch]
      dsimp only
      by_cases hcover : ∃ vrp ∈ {vrp | vrp ∈ rows.map rowVrp}, vrp.Covers route
      · rw [if_pos hcover, if_neg (hcovers.mp hcover), if_neg (mt hmatches.mpr hmatch)]
      · rw [if_neg hcover, if_pos (not_not.mp (mt hcovers.mpr hcover))]

/-- All validators give a route the state that RFC 6811 defines, from ROAs or from a table that
holds them. -/
theorem validateRoute_eq_routeStatus (s : Settings) (trie : PrefixItems) (roas : List ROA)
    (rows : List ROADatabaseObject) (route : IP) (asn : Nat) (source : String)
    (hroas : ∀ roa ∈ roas, WellFormed roa.ipPrefix) (hroute : WellFormed route)
    (hrows : ∀ row, row ∈ rows ↔ ∃ roa ∈ roas, roa.row = row) :
    let status := routeStatus {source | (s.source source).rpkiExcluded = true}
      {vrp | ∃ roa ∈ roas, roa.vrp = vrp} route asn source
    (BulkRouteROAValidator.ofRoaObjs s roas).validateRoute trie route.net route.prefixlen (some asn)
        source = status ∧
      (BulkRouteROAValidator.new s rows).validateRoute trie route.net route.prefixlen (some asn)
        source = status ∧
      singleValidateRoute s rows route asn source = status := by
  intro status
  have hset (rows : List ROADatabaseObject)
      (hrows : ∀ row, row ∈ rows ↔ ∃ roa ∈ roas, roa.row = row) :
      (∀ row ∈ rows, WellFormed row.ipPrefix) ∧
        singleValidateRoute s rows route asn source = status := by
    have hformed : ∀ row ∈ rows, WellFormed row.ipPrefix := by
      intro row hrow
      obtain ⟨roa, hroa, rfl⟩ := (hrows row).mp hrow
      exact hroas roa hroa
    refine ⟨hformed, ?_⟩
    have hvrps : {vrp | vrp ∈ rows.map rowVrp} = {vrp | ∃ roa ∈ roas, roa.vrp = vrp} := by
      ext vrp
      rw [Set.mem_ofPred_eq, Set.mem_ofPred_eq, List.mem_map]
      constructor
      · rintro ⟨row, hrow, rfl⟩
        obtain ⟨roa, hroa, rfl⟩ := (hrows row).mp hrow
        exact ⟨roa, hroa, rfl⟩
      · rintro ⟨roa, hroa, rfl⟩
        exact ⟨roa.row, (hrows _).mpr ⟨roa, hroa, rfl⟩, rfl⟩
    rw [singleValidateRoute_eq s hformed hroute, hvrps]
  obtain ⟨hformed, hsingle⟩ := hset rows hrows
  obtain ⟨hmapped, hobjs⟩ := hset (roas.map ROA.row) (fun row ↦ List.mem_map)
  refine ⟨?_, ?_, hsingle⟩
  · rw [ofRoaObjs_eq s hroas, validateRoute_eq_single trie hmapped hroute, hobjs]
  · rw [validateRoute_eq_single trie hformed hroute, hsingle]

def documentationRoa : ROA := ⟨⟨4, 0xC0000200, 24⟩, 65530, 25, "TA"⟩

theorem wellFormed_documentationRoute {prefixlen : Nat} (h : prefixlen ≤ 32) :
    WellFormed ⟨4, 0xC0000200, prefixlen⟩ :=
  ⟨Or.inl rfl, h, (by decide : 0xC0000200 < 2 ^ 32)⟩

/-- A route below a ROA, of another AS. -/
theorem validateRoute_eq_routeStatus_documentation :
    let s : Settings := ⟨false, none, []⟩
    let status := routeStatus {source | (s.source source).rpkiExcluded = true}
      {vrp | ∃ roa ∈ [documentationRoa], roa.vrp = vrp} ⟨4, 0xC0000200, 25⟩ 65531 "TEST"
    (BulkRouteROAValidator.ofRoaObjs s [documentationRoa]).validateRoute .scan
        (IP.net ⟨4, 0xC0000200, 25⟩) 25 (some 65531) "TEST" = status ∧
      (BulkRouteROAValidator.new s [documentationRoa.row]).validateRoute .scan
        (IP.net ⟨4, 0xC0000200, 25⟩) 25 (some 65531) "TEST" = status ∧
      singleValidateRoute s [documentationRoa.row] ⟨4, 0xC0000200, 25⟩ 65531 "TEST" = status :=
  validateRoute_eq_routeStatus ⟨false, none, []⟩ .scan [documentationRoa] [documentationRoa.row]
    ⟨4, 0xC0000200, 25⟩ 65531 "TEST"
    (by
      intro roa hroa
      cases List.mem_singleton.mp hroa
      exact wellFormed_documentationRoute (by decide))
    (wellFormed_documentationRoute (by decide))
    (fun row ↦ by simp [eq_comm])

end Agreement

end Irrd.Rpki
