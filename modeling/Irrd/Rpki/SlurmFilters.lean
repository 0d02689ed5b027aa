import Irrd.Base.Fallible
import Irrd.Rpki.Importer

/-!
# Application of a SLURM file

Which ROAs an import keeps of those that are given with a SLURM file. The filters are compiled into
sets of AS numbers and of networks, where a set of networks joins neighbours into one network.
Source: `irrd/rpki/importer.py`.
-/

namespace Irrd.Rpki

open Irrd.Base Irrd.Utils

section Merging

/-- The first half of a network. -/
def lowerHalf (ip : IP) : IP := ⟨ip.version, ip.int, ip.prefixlen + 1⟩

/-- The other half of a network. -/
def upperHalf (ip : IP) : IP :=
  ⟨ip.version, ip.int + 2 ^ (ip.bits - ip.prefixlen - 1), ip.prefixlen + 1⟩

/-- The networks that are stored, or that neighbours form exactly. -/
inductive Merged (networks : List IP) : IP → Prop
  | stored {ip : IP} : ip ∈ networks → Merged networks ip
  | joined {ip : IP} : ip.prefixlen < ip.bits → ip.int % ip.len = 0 →
      Merged networks (lowerHalf ip) → Merged networks (upperHalf ip) → Merged networks ip

/-- A network alone is not merged into others. -/
theorem eq_of_merged_singleton {network ip : IP} (h : Merged [network] ip) : ip = network := by
  induction h with
  | stored hmem => exact List.mem_singleton.mp hmem
  | @joined ip hless _ _ _ hlower hupper =>
    have hint := congrArg IP.int (hlower.trans hupper.symm)
    have hpos : 0 < 2 ^ (ip.bits - ip.prefixlen - 1) := Nat.two_pow_pos _
    simp only [lowerHalf, upperHalf] at hint
    omega

/-- `IPSet`: neighbouring networks are merged, and a network is in the set if one of the resulting
networks contains it. -/
structure MergingSet (ipy : IPyFunctions) : Prop where
  inSet_iff : ∀ ip networks,
    ipy.inSet ip networks = true ↔ ∃ n, Merged networks n ∧ n.contains ip = true

theorem not_merged_nil {ip : IP} : ¬ Merged [] ip := by
  intro h
  induction h with
  | stored hmem => exact List.not_mem_nil hmem
  | joined _ _ _ _ ih _ => exact ih

end Merging

section Filters

variable (ipy : IPyFunctions)

/-- Whether a single filter matches a ROA. -/
def SlurmPrefixFilter.matchesRoa (item : SlurmPrefixFilter) (asn : Nat) (ip : IP) : Bool :=
  (item.asn.isSome || item.ipPrefix.isSome) && item.asn.all (fun a ↦ a.int = some (asn : Int)) &&
    item.ipPrefix.all (fun p ↦ (ipy.parse p).any (fun n ↦ n.contains ip))

/-- The AS numbers of filters without a prefix. -/
def asnFilters (items : List SlurmPrefixFilter) : List Int :=
  items.filterMap (fun item ↦ if item.ipPrefix = none then item.asn.bind JsonScalar.int else none)

/-- The prefixes of filters without an AS number. -/
def prefixFilters (items : List SlurmPrefixFilter) : List IP :=
  items.filterMap (fun item ↦ if item.asn = none then item.ipPrefix.bind ipy.parse else none)

/-- The filters with both. -/
def combinedFilters (items : List SlurmPrefixFilter) : List (Int × IP) :=
  items.filterMap (fun item ↦ do
    return (← item.asn.bind JsonScalar.int, ← item.ipPrefix.bind ipy.parse))

/-- The prefixes of filters for an AS number. -/
def prefixFiltersOf (items : List SlurmPrefixFilter) (asn : Int) : List IP :=
  ((combinedFilters ipy items).filter (fun item ↦ item.1 = asn)).map Prod.snd

variable {ipy}

/-- What is loaded of the filters. -/
theorem foldlM_loadSlurmFilter {items : List SlurmPrefixFilter} {f f' : SlurmFilters}
    (hload : items.foldlM (loadSlurmFilter ipy) f = some f') :
    f' = ⟨f.filteredAsns ++ asnFilters items, f.filteredPrefixes ++ prefixFilters ipy items,
      f.filteredCombined ++ combinedFilters ipy items⟩ := by
  induction items generalizing f with
  | nil =>
    cases hload
    simp [asnFilters, prefixFilters, combinedFilters]
  | cons item items ih =>
    rw [List.foldlM_cons] at hload
    obtain ⟨f₁, hitem, hload⟩ := Option.bind_eq_some_iff.mp hload
    rw [ih hload]
    rcases item with ⟨_ | asn, _ | ipPrefix⟩
    · cases hitem
      rfl
    · obtain ⟨ip, hip, heq⟩ := Option.bind_eq_some_iff.mp hitem
      cases heq
      simp [asnFilters, prefixFilters, combinedFilters, hip]
    · obtain ⟨n, hn, heq⟩ := Option.bind_eq_some_iff.mp hitem
      cases heq
      simp [asnFilters, prefixFilters, combinedFilters, hn]
    · obtain ⟨n, hn, hitem⟩ := Option.bind_eq_some_iff.mp hitem
      obtain ⟨ip, hip, heq⟩ := Option.bind_eq_some_iff.mp hitem
      cases heq
      simp [asnFilters, prefixFilters, combinedFilters, hn, hip]

/-- A filter that matches is one of those for the AS number, for a prefix or for both. -/
theorem any_matchesRoa_iff {items : List SlurmPrefixFilter} {asn : Nat} {ip : IP} :
    items.any (fun item ↦ item.matchesRoa ipy asn ip) = true ↔
      (asn : Int) ∈ asnFilters items ∨ (∃ n ∈ prefixFilters ipy items, n.contains ip = true) ∨
        ∃ n ∈ prefixFiltersOf ipy items asn, n.contains ip = true := by
  have hitem (item : SlurmPrefixFilter) : item.matchesRoa ipy asn ip = true ↔
      (item.ipPrefix = none ∧ item.asn.bind JsonScalar.int = some (asn : Int)) ∨
        (∃ n, (item.asn = none ∧ item.ipPrefix.bind ipy.parse = some n) ∧ n.contains ip = true) ∨
          ∃ n, (item.asn.bind JsonScalar.int = some (asn : Int) ∧
            item.ipPrefix.bind ipy.parse = some n) ∧ n.contains ip = true := by
    unfold SlurmPrefixFilter.matchesRoa
    rcases item with ⟨_ | a, _ | p⟩ <;> simp [Option.any_eq_true, and_assoc]
  simp only [List.any_eq_true, hitem]
  constructor
  · rintro ⟨item, hmem, ⟨hp, ha⟩ | ⟨n, ⟨ha, hn⟩, hcontains⟩ | ⟨n, ⟨ha, hn⟩, hcontains⟩⟩
    · exact Or.inl (List.mem_filterMap.mpr ⟨item, hmem, by rw [if_pos hp, ha]⟩)
    · exact Or.inr (Or.inl ⟨n, List.mem_filterMap.mpr ⟨item, hmem, by rw [if_pos ha, hn]⟩,
        hcontains⟩)
    · refine Or.inr (Or.inr ⟨n, List.mem_map.mpr ⟨((asn : Int), n), ?_, rfl⟩, hcontains⟩)
      refine List.mem_filter.mpr ⟨List.mem_filterMap.mpr ⟨item, hmem, ?_⟩, by simp⟩
      rw [ha, hn]
      rfl
  · rintro (hmem | ⟨n, hn, hcontains⟩ | ⟨n, hn, hcontains⟩)
    · obtain ⟨item, hmem, ha⟩ := List.mem_filterMap.mp hmem
      split at ha
      · next hp => exact ⟨item, hmem, Or.inl ⟨hp, ha⟩⟩
      · cases ha
    · obtain ⟨item, hmem, ha⟩ := List.mem_filterMap.mp hn
      split at ha
      · next hnone => exact ⟨item, hmem, Or.inr (Or.inl ⟨n, ⟨hnone, ha⟩, hcontains⟩)⟩
      · cases ha
    · obtain ⟨⟨a, n'⟩, hmem, rfl⟩ := List.mem_map.mp hn
      obtain ⟨hmem, hasn⟩ := List.mem_filter.mp hmem
      obtain ⟨item, hmem, heq⟩ := List.mem_filterMap.mp hmem
      obtain ⟨a', ha', heq⟩ := Option.bind_eq_some_iff.mp heq
      obtain ⟨n'', hn'', heq⟩ := Option.bind_eq_some_iff.mp heq
      cases heq
      have hasn : a = (asn : Int) := of_decide_eq_true hasn
      exact ⟨item, hmem, Or.inr (Or.inr ⟨_, ⟨hasn ▸ ha', hn''⟩, hcontains⟩)⟩

/-- A ROA in a network that filters for a prefix form, or filters for its AS number and a
prefix. -/
def InMerged (ipy : IPyFunctions) (items : List SlurmPrefixFilter) (asn : Nat) (ip : IP) : Prop :=
  ∃ n, (Merged (prefixFilters ipy items) n ∨ Merged (prefixFiltersOf ipy items asn) n) ∧
    n.contains ip = true

/-- What the compiled filters discard. -/
theorem discards_iff (hipy : MergingSet ipy) {items : List SlurmPrefixFilter}
    {asn : Nat} {ip : IP} :
    SlurmFilters.discards ipy ⟨asnFilters items, prefixFilters ipy items,
        combinedFilters ipy items⟩ asn ip = true ↔
      (asn : Int) ∈ asnFilters items ∨ InMerged ipy items asn ip := by
  have hcombined : (prefixFiltersOf ipy items asn ≠ [] ∧
      ipy.inSet ip (prefixFiltersOf ipy items asn) = true) ↔
        ∃ n, Merged (prefixFiltersOf ipy items asn) n ∧ n.contains ip = true := by
    rw [hipy.inSet_iff]
    refine and_iff_right_of_imp ?_
    rintro ⟨n, hn, -⟩ hnil
    rw [hnil] at hn
    exact not_merged_nil hn
  have hparts : SlurmFilters.discards ipy ⟨asnFilters items, prefixFilters ipy items,
      combinedFilters ipy items⟩ asn ip = true ↔
        ((asn : Int) ∈ asnFilters items ∨ ipy.inSet ip (prefixFilters ipy items) = true) ∨
          (prefixFiltersOf ipy items asn ≠ [] ∧
            ipy.inSet ip (prefixFiltersOf ipy items asn) = true) := by
    unfold SlurmFilters.discards
    rw [Bool.or_eq_true, Bool.or_eq_true, Bool.and_eq_true, decide_eq_true_eq, decide_eq_true_eq]
    rfl
  rw [hparts, hcombined, hipy.inSet_iff, or_assoc]
  unfold InMerged
  simp only [or_and_right, exists_or]

/-- A single filter that matches discards a ROA. -/
theorem discards_of_matchesRoa (hipy : MergingSet ipy) {items : List SlurmPrefixFilter} {asn : Nat}
    {ip : IP} (hmatches : items.any (fun item ↦ item.matchesRoa ipy asn ip) = true) :
    SlurmFilters.discards ipy ⟨asnFilters items, prefixFilters ipy items,
      combinedFilters ipy items⟩ asn ip = true := by
  rw [discards_iff hipy]
  rcases any_matchesRoa_iff.mp hmatches with hasn | ⟨n, hn, hcontains⟩ | ⟨n, hn, hcontains⟩
  · exact Or.inl hasn
  · exact Or.inr ⟨n, Or.inl (.stored hn), hcontains⟩
  · exact Or.inr ⟨n, Or.inr (.stored hn), hcontains⟩

end Filters

section Application

variable (ipy : IPyFunctions)

/-- The ROA of a record, `irrd/rpki/importer.py:49–63`. -/
def RoaDict.toRoa (d : RoaDict) : Option ROA := do
  let asn ← d.asn.bind parsePlainAsNumber
  let ip ← d.ipPrefix.bind ipy.parse
  let ta ← d.ta
  let maxLength ← d.maxLength
  ROA.new ip asn maxLength ta

/-- The ROA of an assertion, whose maximum length is the length of its prefix, if none is given. -/
def SlurmPrefixAssertion.toRoa (assertion : SlurmPrefixAssertion) : Option ROA := do
  let ip ← assertion.ipPrefix.bind ipy.parse
  let asn ← assertion.asn.bind (fun asn ↦ parsePlainAsNumber (.text ("AS" ++ asn.str)))
  ROA.new ip asn (assertion.maxPrefixLength.getD (.number ip.prefixlen)) slurmTrustAnchor

/-- A single filter of the SLURM file matches the record. -/
def RoaDict.isMatched (slurm : Slurm) (d : RoaDict) : Bool :=
  match d.asn.bind parsePlainAsNumber, d.ipPrefix.bind ipy.parse with
  | some asn, some ip => slurm.prefixFilters.any (fun item ↦ item.matchesRoa ipy asn ip)
  | _, _ => false

/-- What a SLURM file is for: the ROAs are those that no filter matches, and the assertions. -/
def SlurmApplied (roas : List RoaDict) (slurm : Slurm) (rs : List ROA) : Prop :=
  ∃ kept added,
    (roas.filter (fun d ↦ !d.isMatched ipy slurm)).mapM (RoaDict.toRoa ipy) = some kept ∧
    slurm.prefixAssertions.mapM (SlurmPrefixAssertion.toRoa ipy) = some added ∧ rs = kept ++ added

/-- The record is treated alike by the filters one by one and by the sets that they are compiled
into: where it names the trust anchor of SLURM files, no filter matches, and in other cases a
network that filters form does not contain it, unless one of them matches. -/
def TreatedAlike (slurm : Slurm) (d : RoaDict) : Prop :=
  ∀ asn ∈ d.asn.bind parsePlainAsNumber, ∀ ip ∈ d.ipPrefix.bind ipy.parse,
    (d.ta = some slurmTrustAnchor → d.isMatched ipy slurm = false) ∧
      (d.ta ≠ some slurmTrustAnchor → InMerged ipy slurm.prefixFilters asn ip →
        d.isMatched ipy slurm = true)

variable {ipy} {filters : SlurmFilters} {slurm : Slurm} {d : RoaDict} {roas : List RoaDict}
  {rs : List ROA}

/-- The record is not discarded. -/
def RoaDict.isKept (ipy : IPyFunctions) (filters : SlurmFilters) (d : RoaDict) : Bool :=
  match d.asn.bind parsePlainAsNumber, d.ipPrefix.bind ipy.parse with
  | some asn, some ip => d.ta = some slurmTrustAnchor || !filters.discards ipy asn ip
  | _, _ => true

/-- A record that is accepted is discarded, or becomes its ROA. -/
theorem importRoaDict_eq_some {r : Option ROA} (himport : importRoaDict ipy filters d = some r) :
    (∃ asn ip ta, d.asn.bind parsePlainAsNumber = some asn ∧ d.ipPrefix.bind ipy.parse = some ip ∧
        d.ta = some ta) ∧
      (d.isKept ipy filters = false ∧ r = none ∨
        d.isKept ipy filters = true ∧ ∃ roa, r = some roa ∧ d.toRoa ipy = some roa) := by
  obtain ⟨asn, hasn, himport⟩ := Option.bind_eq_some_iff.mp himport
  obtain ⟨ip, hip, himport⟩ := Option.bind_eq_some_iff.mp himport
  obtain ⟨ta, hta, himport⟩ := Option.bind_eq_some_iff.mp himport
  refine ⟨⟨asn, ip, ta, hasn, hip, hta⟩, ?_⟩
  unfold RoaDict.isKept RoaDict.toRoa
  simp only [hasn, hip, hta, Option.bind_eq_bind, Option.bind_some]
  split at himport
  · next hdiscards =>
    cases himport
    exact Or.inl ⟨by simp [hdiscards.1, hdiscards.2], rfl⟩
  · next hkept =>
    refine Or.inr ⟨?_, ?_⟩
    · rw [not_and_or, not_not] at hkept
      rcases hkept with hslurm | hkept
      · simp [hslurm]
      · simp [hkept]
    · obtain ⟨maxLength, hmax, himport⟩ := Option.bind_eq_some_iff.mp himport
      obtain ⟨roa, hroa, heq⟩ := Option.bind_eq_some_iff.mp himport
      cases heq
      exact ⟨roa, rfl, by rw [hmax, Option.bind_some, hroa]⟩

/-- The ROAs of accepted records are those of the records that are kept. -/
theorem mapM_toRoa_isKept {results : List (Option ROA)}
    (himport : roas.mapM (importRoaDict ipy filters) = some results) :
    (roas.filter (fun d ↦ d.isKept ipy filters)).mapM (RoaDict.toRoa ipy) =
      some (results.filterMap id) := by
  induction roas generalizing results with
  | nil =>
    cases himport
    rfl
  | cons d roas ih =>
    rw [List.mapM_cons] at himport
    obtain ⟨r, hr, himport⟩ := Option.bind_eq_some_iff.mp himport
    obtain ⟨rest, hrest, heq⟩ := Option.bind_eq_some_iff.mp himport
    cases heq
    rcases (importRoaDict_eq_some hr).2 with ⟨hkept, rfl⟩ | ⟨hkept, roa, rfl, hroa⟩
    · rw [List.filter_cons_of_neg (by simp [hkept]), ih hrest]
      rfl
    · rw [List.filter_cons_of_pos hkept, List.mapM_cons, hroa, ih hrest]
      rfl

/-- The record of an assertion. -/
theorem slurmRoaDict_eq_some {assertion : SlurmPrefixAssertion}
    (hd : slurmRoaDict ipy assertion = some d) : ∃ ipPrefix asn maxLength,
      assertion.ipPrefix = some ipPrefix ∧ assertion.asn = some asn ∧
        (∀ ip, ipy.parse ipPrefix = some ip →
          assertion.maxPrefixLength.getD (.number ip.prefixlen) = maxLength) ∧
        d = ⟨some (.text ("AS" ++ asn.str)), some ipPrefix, some maxLength,
          some slurmTrustAnchor⟩ := by
  obtain ⟨ipPrefix, hprefix, hd⟩ := Option.bind_eq_some_iff.mp hd
  obtain ⟨asn, hasn, hd⟩ := Option.bind_eq_some_iff.mp hd
  dsimp only at hd
  split at hd
  · next given hgiven =>
    cases hd
    exact ⟨ipPrefix, asn, given, hprefix, hasn, fun ip _ ↦ by rw [hgiven, Option.getD_some], rfl⟩
  · next hgiven =>
    obtain ⟨maxLength, hmax, heq⟩ := Option.bind_eq_some_iff.mp hd
    cases heq
    obtain ⟨ip, hip, rfl⟩ := Option.map_eq_some_iff.mp hmax
    refine ⟨ipPrefix, asn, _, hprefix, hasn, fun ip' hip' ↦ ?_, rfl⟩
    rw [hgiven, Option.getD_none, Option.some_inj.mp (hip.symm.trans hip')]

/-- The records of assertions are kept, and become the ROAs of the assertions. -/
theorem mapM_assertions {assertions : List SlurmPrefixAssertion} {dicts : List RoaDict}
    {results : List (Option ROA)} (hdicts : assertions.mapM (slurmRoaDict ipy) = some dicts)
    (himport : dicts.mapM (importRoaDict ipy filters) = some results) :
    assertions.mapM (SlurmPrefixAssertion.toRoa ipy) = some (results.filterMap id) := by
  have hone {assertion : SlurmPrefixAssertion} {d : RoaDict} {r : Option ROA}
      (hd : slurmRoaDict ipy assertion = some d) (hr : importRoaDict ipy filters d = some r) :
      ∃ roa, r = some roa ∧ assertion.toRoa ipy = some roa := by
    obtain ⟨ipPrefix, asn, maxLength, hprefix, hasn, hlength, rfl⟩ := slurmRoaDict_eq_some hd
    obtain ⟨⟨n, ip, -, hn, hip, -⟩, hcases⟩ := importRoaDict_eq_some hr
    have hnumber : parsePlainAsNumber (.text ("AS" ++ asn.str)) = some n := hn
    have hparse : ipy.parse ipPrefix = some ip := hip
    have hkept : RoaDict.isKept ipy filters ⟨some (.text ("AS" ++ asn.str)), some ipPrefix,
        some maxLength, some slurmTrustAnchor⟩ = true := by
      simp [RoaDict.isKept, hnumber, hparse]
    rcases hcases with ⟨hdiscarded, -⟩ | ⟨-, roa, rfl, hroa⟩
    · rw [hkept] at hdiscarded
      cases hdiscarded
    · refine ⟨roa, rfl, ?_⟩
      rw [← hroa]
      simp [SlurmPrefixAssertion.toRoa, RoaDict.toRoa, hprefix, hasn, hnumber, hparse,
        hlength ip hparse]
  induction assertions generalizing dicts results with
  | nil =>
    cases hdicts
    cases himport
    rfl
  | cons assertion assertions ih =>
    rw [List.mapM_cons] at hdicts
    obtain ⟨d, hd, hdicts⟩ := Option.bind_eq_some_iff.mp hdicts
    obtain ⟨others, hothers, heq⟩ := Option.bind_eq_some_iff.mp hdicts
    cases heq
    rw [List.mapM_cons] at himport
    obtain ⟨r, hr, himport⟩ := Option.bind_eq_some_iff.mp himport
    obtain ⟨rest, hrest, heq⟩ := Option.bind_eq_some_iff.mp himport
    cases heq
    obtain ⟨roa, rfl, hroa⟩ := hone hd hr
    rw [List.mapM_cons, hroa, ih hothers hrest]
    rfl

/-- An import in its parts: the records that are kept, and the assertions. -/
theorem importedRoas_parts (himport : importedRoas ipy roas (some slurm) = some rs) :
    ∃ filters kept added,
      filters = ⟨asnFilters slurm.prefixFilters, prefixFilters ipy slurm.prefixFilters,
        combinedFilters ipy slurm.prefixFilters⟩ ∧
      (∀ d ∈ roas, ∃ r, importRoaDict ipy filters d = some r) ∧
      (roas.filter (fun d ↦ d.isKept ipy filters)).mapM (RoaDict.toRoa ipy) = some kept ∧
      slurm.prefixAssertions.mapM (SlurmPrefixAssertion.toRoa ipy) = some added ∧
      rs = kept ++ added := by
  obtain ⟨⟨filters, dicts⟩, hload, himport⟩ := Option.bind_eq_some_iff.mp himport
  obtain ⟨results, hresults, heq⟩ := Option.bind_eq_some_iff.mp himport
  cases heq
  obtain ⟨⟨filters', assertionDicts⟩, hslurm, heq⟩ := Option.map_eq_some_iff.mp hload
  cases heq
  unfold loadSlurm at hslurm
  split at hslurm
  · obtain ⟨filters'', hfilters, hslurm⟩ := Option.bind_eq_some_iff.mp hslurm
    obtain ⟨dicts', hdicts, heq⟩ := Option.bind_eq_some_iff.mp hslurm
    cases heq
    rw [List.mapM_append] at hresults
    obtain ⟨given, hgiven, hresults⟩ := Option.bind_eq_some_iff.mp hresults
    obtain ⟨asserted, hasserted, heq⟩ := Option.bind_eq_some_iff.mp hresults
    cases heq
    refine ⟨_, given.filterMap id, asserted.filterMap id, foldlM_loadSlurmFilter hfilters, ?_,
      mapM_toRoa_isKept hgiven, mapM_assertions hdicts hasserted, List.filterMap_append⟩
    intro d hd
    cases hr : importRoaDict ipy filters d with
    | none =>
      rw [mapM_eq_none_iff.mpr ⟨d, hd, hr⟩] at hgiven
      cases hgiven
    | some r => exact ⟨r, rfl⟩
  · cases hslurm

/-- A record is treated alike exactly if it is kept where no single filter matches. -/
theorem treatedAlike_iff (hipy : MergingSet ipy)
    (hfilters : filters = ⟨asnFilters slurm.prefixFilters, prefixFilters ipy slurm.prefixFilters,
      combinedFilters ipy slurm.prefixFilters⟩)
    (himport : ∃ r, importRoaDict ipy filters d = some r) :
    TreatedAlike ipy slurm d ↔ d.isKept ipy filters = !d.isMatched ipy slurm := by
  obtain ⟨r, hr⟩ := himport
  obtain ⟨⟨asn, ip, ta, hasn, hip, hta⟩, -⟩ := importRoaDict_eq_some hr
  have hmatched : d.isMatched ipy slurm =
      slurm.prefixFilters.any (fun item ↦ item.matchesRoa ipy asn ip) := by
    unfold RoaDict.isMatched
    rw [hasn, hip]
  have hdiscards : filters.discards ipy asn ip = true ↔
      (asn : Int) ∈ asnFilters slurm.prefixFilters ∨ InMerged ipy slurm.prefixFilters asn ip :=
    hfilters ▸ discards_iff hipy
  have hsingle : d.isMatched ipy slurm = true → filters.discards ipy asn ip = true :=
    fun h ↦ hfilters ▸ discards_of_matchesRoa hipy (hmatched ▸ h)
  have hasnFilter : (asn : Int) ∈ asnFilters slurm.prefixFilters → d.isMatched ipy slurm = true :=
    fun h ↦ hmatched ▸ any_matchesRoa_iff.mpr (Or.inl h)
  unfold TreatedAlike RoaDict.isKept
  simp only [hasn, hip, hta, Option.mem_some_iff, forall_eq', Option.some_inj, ne_eq]
  by_cases hslurm : ta = slurmTrustAnchor
  · simp [hslurm]
  · simp only [hslurm, decide_false, Bool.false_or, false_imp_iff, true_and, not_false_eq_true,
      true_imp_iff]
    constructor
    · intro hmerged
      cases hm : d.isMatched ipy slurm with
      | true => rw [hsingle hm]
      | false =>
        rw [Bool.not_false, Bool.not_eq_true', ← Bool.not_eq_true, hdiscards]
        rintro (hmem | hin)
        · rw [hasnFilter hmem] at hm
          cases hm
        · rw [hmerged hin] at hm
          cases hm
    · intro hsame hin
      have hdiscarded := hdiscards.mpr (Or.inr hin)
      rw [hdiscarded] at hsame
      simpa using hsame

/-- Records that name the trust anchor of SLURM files are kept. -/
theorem isKept_of_slurm (hta : d.ta = some slurmTrustAnchor) : d.isKept ipy filters = true := by
  unfold RoaDict.isKept
  split
  · rw [decide_eq_true hta, Bool.true_or]
  · rfl

/-- Other records that a single filter matches are discarded. -/
theorem isMatched_of_isKept (hipy : MergingSet ipy)
    (hfilters : filters = ⟨asnFilters slurm.prefixFilters, prefixFilters ipy slurm.prefixFilters,
      combinedFilters ipy slurm.prefixFilters⟩)
    (hta : d.ta ≠ some slurmTrustAnchor) (hkept : d.isKept ipy filters = true) :
    d.isMatched ipy slurm = false := by
  unfold RoaDict.isKept at hkept
  unfold RoaDict.isMatched
  split
  · next asn ip hasn hip =>
    rw [hasn, hip] at hkept
    simp only [decide_eq_false hta, Bool.false_or, Bool.not_eq_true'] at hkept
    rw [← Bool.not_eq_true]
    intro hmatches
    rw [hfilters, discards_of_matchesRoa hipy hmatches] at hkept
    cases hkept
  · rfl

/-- The ROA of a record is of its trust anchor. -/
theorem trustAnchor_toRoa {roa : ROA} (hroa : d.toRoa ipy = some roa) :
    d.ta = some roa.trustAnchor := by
  unfold RoaDict.toRoa at hroa
  obtain ⟨asn, -, hroa⟩ := Option.bind_eq_some_iff.mp hroa
  obtain ⟨ip, -, hroa⟩ := Option.bind_eq_some_iff.mp hroa
  obtain ⟨ta, hta, hroa⟩ := Option.bind_eq_some_iff.mp hroa
  obtain ⟨maxLength, -, hroa⟩ := Option.bind_eq_some_iff.mp hroa
  obtain ⟨n, -, hroa⟩ := Option.bind_eq_some_iff.mp hroa
  split at hroa
  · cases hroa
  · cases hroa
    exact hta

/-- If fewer items are of one kind, and no more are of the other, the kinds are the same. -/
theorem imp_of_countP_eq {A : Type} {p q : A → Bool} {items : List A}
    (himp : ∀ a ∈ items, q a = true → p a = true) (hcount : items.countP p = items.countP q) :
    ∀ a ∈ items, p a = true → q a = true := by
  induction items with
  | nil => simp
  | cons a items ih =>
    obtain ⟨ha, hothers⟩ := List.forall_mem_cons.mp himp
    have hle := List.countP_mono_left hothers
    rw [List.countP_cons, List.countP_cons] at hcount
    refine List.forall_mem_cons.mpr ⟨fun hp ↦ ?_, ih hothers ?_⟩
    · by_contra hq
      rw [if_pos hp, if_neg hq] at hcount
      omega
    · by_cases hq : q a = true
      · rw [if_pos hq, if_pos (ha hq)] at hcount
        omega
      · rw [if_neg hq] at hcount
        split at hcount
        · omega
        · omega

/-- Importing with a SLURM file gives exactly the ROAs that no filter matches and the assertions,
exactly if each record is treated alike by the single filters and by the merged ones. -/
theorem slurmApplied_iff (hipy : MergingSet ipy)
    (himport : importedRoas ipy roas (some slurm) = some rs) :
    SlurmApplied ipy roas slurm rs ↔ ∀ d ∈ roas, TreatedAlike ipy slurm d := by
  obtain ⟨filters, kept, added, hfilters, hdicts, hkept, hadded, rfl⟩ := importedRoas_parts himport
  have halike (d : RoaDict) (hd : d ∈ roas) := treatedAlike_iff hipy hfilters (hdicts d hd)
  constructor
  · rintro ⟨kept', added', hkept', hadded', heq⟩
    obtain rfl : added = added' := Option.some_inj.mp (hadded.symm.trans hadded')
    obtain rfl := List.append_cancel_right heq
    -- The ROAs of each kind of trust anchor are as many as the records that give them.
    have hcount (ofSlurm : Bool) :
        roas.countP (fun d ↦ (d.ta = some slurmTrustAnchor) == ofSlurm && !d.isMatched ipy slurm) =
          roas.countP (fun d ↦ (d.ta = some slurmTrustAnchor) == ofSlurm &&
            d.isKept ipy filters) := by
      have hta (d : RoaDict) (roa : ROA) (hroa : d.toRoa ipy = some roa) :
          ((d.ta = some slurmTrustAnchor) == ofSlurm) =
            ((roa.trustAnchor = slurmTrustAnchor) == ofSlurm) := by
        rw [trustAnchor_toRoa hroa]
        simp
      rw [← List.countP_filter, ← List.countP_filter, countP_of_mapM hkept hta,
        countP_of_mapM hkept' hta]
    have hslurm := imp_of_countP_eq (fun d hd h ↦ ?_) (hcount true).symm
    · have hother := imp_of_countP_eq (fun d hd h ↦ ?_) (hcount false)
      · intro d hd
        rw [halike d hd]
        by_cases hta : d.ta = some slurmTrustAnchor
        · have h := hslurm d hd (by simp [hta, isKept_of_slurm hta])
          simp only [Bool.and_eq_true] at h
          rw [isKept_of_slurm hta, h.2]
        · cases hm : d.isMatched ipy slurm with
          | false =>
            have h := hother d hd (by simp [hta, hm])
            simp only [Bool.and_eq_true] at h
            rw [h.2, Bool.not_false]
          | true =>
            rw [Bool.not_true, ← Bool.not_eq_true]
            intro hk
            rw [isMatched_of_isKept hipy hfilters hta hk] at hm
            cases hm
      · simp only [Bool.and_eq_true, beq_iff_eq, decide_eq_false_iff_not] at h ⊢
        exact ⟨h.1, by rw [isMatched_of_isKept hipy hfilters h.1 h.2, Bool.not_false]⟩
    · simp only [Bool.and_eq_true, beq_iff_eq, decide_eq_true_eq] at h ⊢
      exact ⟨h.1, isKept_of_slurm h.1⟩
  · intro hall
    refine ⟨kept, added, ?_, hadded, rfl⟩
    rw [← hkept]
    exact congrArg _ (List.filter_congr (fun d hd ↦ ((halike d hd).mp (hall d hd)).symm))

end Application

section Examples

open Classical in
/-- IPy on three networks. -/
noncomputable def threeNetworks : IPyFunctions where
  parse text :=
    if text = "192.0.2.0/24" then some ⟨4, 0xC0000200, 24⟩
    else if text = "192.0.2.0/25" then some ⟨4, 0xC0000200, 25⟩
    else if text = "192.0.2.128/25" then some ⟨4, 0xC0000280, 25⟩
    else none
  str ip :=
    if ip = ⟨4, 0xC0000200, 24⟩ then "192.0.2.0/24"
    else if ip = ⟨4, 0xC0000200, 25⟩ then "192.0.2.0/25"
    else "192.0.2.128/25"
  inSet ip networks := decide (∃ n, Merged networks n ∧ n.contains ip = true)

theorem mergingSet_threeNetworks : MergingSet threeNetworks :=
  ⟨fun _ _ ↦ by simp [threeNetworks]⟩

/-- A VRP. -/
def wholeNetwork : RoaDict :=
  ⟨some (.text "AS65530"), some "192.0.2.0/24", some (.number 24), some "TA"⟩

/-- A SLURM file with filters for both halves of its prefix. -/
def bothHalves : Slurm where
  slurmVersion := some (.number 1)
  prefixFilters := [⟨none, some "192.0.2.0/25"⟩, ⟨none, some "192.0.2.128/25"⟩]
  prefixAssertions := []

/-- The filters together discard it. -/
theorem importedRoas_bothHalves :
    importedRoas threeNetworks [wholeNetwork] (some bothHalves) = some [] := by
  have hdiscards : SlurmFilters.discards threeNetworks ⟨asnFilters bothHalves.prefixFilters,
      prefixFilters threeNetworks bothHalves.prefixFilters,
      combinedFilters threeNetworks bothHalves.prefixFilters⟩ 65530 ⟨4, 0xC0000200, 24⟩ = true := by
    refine (discards_iff mergingSet_threeNetworks).mpr (Or.inr ⟨⟨4, 0xC0000200, 24⟩, Or.inl ?_, ?_⟩)
    · refine Merged.joined (by decide) (by decide) (.stored ?_) (.stored ?_)
      · exact List.mem_cons_self
      · exact List.mem_cons_of_mem _ List.mem_cons_self
    · decide
  have hrecord : importRoaDict threeNetworks ⟨asnFilters bothHalves.prefixFilters,
      prefixFilters threeNetworks bothHalves.prefixFilters,
      combinedFilters threeNetworks bothHalves.prefixFilters⟩ wholeNetwork = some none := by
    have hasn : wholeNetwork.asn.bind parsePlainAsNumber = some 65530 := by decide +kernel
    have hip : wholeNetwork.ipPrefix.bind threeNetworks.parse = some ⟨4, 0xC0000200, 24⟩ := rfl
    have hta : wholeNetwork.ta = some "TA" := rfl
    unfold importRoaDict
    simp only [hasn, hip, hta, hdiscards, Option.bind_eq_bind, Option.bind_some]
    exact if_pos ⟨by decide, trivial⟩
  have hload : loadRoaDicts threeNetworks [wholeNetwork] (some bothHalves) =
      some (⟨asnFilters bothHalves.prefixFilters,
        prefixFilters threeNetworks bothHalves.prefixFilters,
        combinedFilters threeNetworks bothHalves.prefixFilters⟩, [wholeNetwork]) := rfl
  unfold importedRoas
  rw [hload]
  simp [hrecord]

/-- A SLURM file with filters for one half of the prefix and for an AS number, and an assertion. -/
def oneHalf : Slurm where
  slurmVersion := some (.number 1)
  prefixFilters := [⟨none, some "192.0.2.128/25"⟩, ⟨some (.number 65531), none⟩]
  prefixAssertions := [⟨some (.number 65531), some "192.0.2.0/24", none⟩]

/-- VRPs for the prefix and for its halves, and for the other AS number. -/
def fourRoas : List RoaDict :=
  [wholeNetwork, ⟨some (.text "AS65530"), some "192.0.2.0/25", some (.number 25), some "TA"⟩,
    ⟨some (.text "AS65530"), some "192.0.2.128/25", some (.number 25), some "TA"⟩,
    ⟨some (.text "AS65531"), some "192.0.2.0/25", some (.number 25), some "TA"⟩]

theorem discards_oneHalf_iff {asn : Nat} {ip : IP} :
    SlurmFilters.discards threeNetworks ⟨[65531], [⟨4, 0xC0000280, 25⟩], []⟩ asn ip = true ↔
      asn = 65531 ∨ (⟨4, 0xC0000280, 25⟩ : IP).contains ip = true := by
  have hfilters := @discards_iff _ mergingSet_threeNetworks oneHalf.prefixFilters asn ip
  refine hfilters.trans (or_congr ?_ ?_)
  · have hasns : asnFilters oneHalf.prefixFilters = [65531] := rfl
    rw [hasns, List.mem_singleton]
    omega
  · constructor
    · rintro ⟨network, hmerged | hmerged, hcontains⟩
      · rwa [eq_of_merged_singleton hmerged] at hcontains
      · exact absurd hmerged not_merged_nil
    · exact fun hcontains ↦ ⟨_, .inl (.stored List.mem_cons_self), hcontains⟩

/-- A record that is discarded or becomes a ROA, from what its fields are read as. -/
theorem importRoaDict_eq_ite {filters : SlurmFilters} {d : RoaDict} {asn : Nat} {ip : IP}
    {ta : String} {maxLength : JsonScalar} (hasn : d.asn.bind parsePlainAsNumber = some asn)
    (hip : d.ipPrefix.bind ipy.parse = some ip) (hta : d.ta = some ta)
    (hmaxLength : d.maxLength = some maxLength) : importRoaDict ipy filters d =
      if ta ≠ slurmTrustAnchor ∧ filters.discards ipy asn ip = true then some none
      else (ROA.new ip asn maxLength ta).map some := by
  unfold importRoaDict
  simp only [hasn, hip, hta, hmaxLength, Option.bind_eq_bind, Option.bind_some]
  split
  · rfl
  · cases ROA.new ip asn maxLength ta <;> rfl

/-- The record of its assertion. -/
def assertedNetwork : RoaDict :=
  ⟨some (.text "AS65531"), some "192.0.2.0/24", some (.number 24), some slurmTrustAnchor⟩

/-- The VRPs that no filter matches are imported, and the assertion. -/
theorem importedRoas_oneHalf : importedRoas threeNetworks fourRoas (some oneHalf) =
    some [⟨⟨4, 0xC0000200, 24⟩, 65530, 24, "TA"⟩, ⟨⟨4, 0xC0000200, 25⟩, 65530, 25, "TA"⟩,
      ⟨⟨4, 0xC0000200, 24⟩, 65531, 24, slurmTrustAnchor⟩] := by
  have hload : loadRoaDicts threeNetworks fourRoas (some oneHalf) =
      some (⟨[65531], [⟨4, 0xC0000280, 25⟩], []⟩, fourRoas ++ [assertedNetwork]) := rfl
  have hasn : parsePlainAsNumber (.text "AS65530") = some 65530 ∧
      parsePlainAsNumber (.text "AS65531") = some 65531 := by decide +kernel
  have hresults : (fourRoas ++ [assertedNetwork]).mapM
        (importRoaDict threeNetworks ⟨[65531], [⟨4, 0xC0000280, 25⟩], []⟩) =
      some [some ⟨⟨4, 0xC0000200, 24⟩, 65530, 24, "TA"⟩,
        some ⟨⟨4, 0xC0000200, 25⟩, 65530, 25, "TA"⟩, none, none,
        some ⟨⟨4, 0xC0000200, 24⟩, 65531, 24, slurmTrustAnchor⟩] := by
    refine mapM_eq_some_iff.mpr (.cons ?_ (.cons ?_ (.cons ?_ (.cons ?_ (.cons ?_ .nil)))))
    · refine Eq.trans (importRoaDict_eq_ite (by exact hasn.1) rfl rfl rfl) ?_
      simp only [discards_oneHalf_iff]
      decide
    · refine Eq.trans (importRoaDict_eq_ite (by exact hasn.1) rfl rfl rfl) ?_
      simp only [discards_oneHalf_iff]
      decide
    · refine Eq.trans (importRoaDict_eq_ite (by exact hasn.1) rfl rfl rfl) ?_
      simp only [discards_oneHalf_iff]
      decide
    · refine Eq.trans (importRoaDict_eq_ite (by exact hasn.2) rfl rfl rfl) ?_
      simp only [discards_oneHalf_iff]
      decide
    · refine Eq.trans (importRoaDict_eq_ite (by exact hasn.2) rfl rfl rfl) ?_
      exact if_neg (fun h ↦ h.1 rfl)
  unfold importedRoas
  rw [hload, Option.bind_eq_bind, Option.bind_some]
  dsimp only
  rw [hresults]
  rfl

/-- No networks are merged by its filters. -/
theorem treatedAlike_oneHalf {d : RoaDict} (hta : d.ta ≠ some slurmTrustAnchor) :
    TreatedAlike threeNetworks oneHalf d := by
  intro asn hasn ip hip
  refine ⟨fun h ↦ absurd h hta, fun _ hmerged ↦ ?_⟩
  obtain ⟨network, hmerged | hmerged, hcontains⟩ := hmerged
  · obtain rfl := eq_of_merged_singleton hmerged
    unfold RoaDict.isMatched
    rw [Option.mem_def.mp hasn, Option.mem_def.mp hip]
    exact any_matchesRoa_iff.mpr (.inr (.inl ⟨_, List.mem_cons_self, hcontains⟩))
  · exact absurd hmerged not_merged_nil

theorem slurmApplied_iff_bothHalves :
    (SlurmApplied threeNetworks [wholeNetwork] bothHalves [] ↔
      ∀ d ∈ [wholeNetwork], TreatedAlike threeNetworks bothHalves d) ∧
    SlurmApplied threeNetworks fourRoas oneHalf
      [⟨⟨4, 0xC0000200, 24⟩, 65530, 24, "TA"⟩, ⟨⟨4, 0xC0000200, 25⟩, 65530, 25, "TA"⟩,
        ⟨⟨4, 0xC0000200, 24⟩, 65531, 24, slurmTrustAnchor⟩] := by
  refine ⟨slurmApplied_iff mergingSet_threeNetworks importedRoas_bothHalves,
    (slurmApplied_iff mergingSet_threeNetworks importedRoas_oneHalf).mpr (fun d hd ↦ ?_)⟩
  have hanchors : ∀ d ∈ fourRoas, d.ta ≠ some slurmTrustAnchor := by decide
  exact treatedAlike_oneHalf (hanchors d hd)

/-- A VRP that no filter matches is missing, because the filters are merged. -/
theorem not_slurmApplied_bothHalves : MergingSet threeNetworks ∧
    importedRoas threeNetworks [wholeNetwork] (some bothHalves) = some [] ∧
      ¬ SlurmApplied threeNetworks [wholeNetwork] bothHalves [] := by
  refine ⟨mergingSet_threeNetworks, importedRoas_bothHalves, ?_⟩
  rintro ⟨kept, added, hkept, -, heq⟩
  have hmatched : wholeNetwork.isMatched threeNetworks bothHalves = false := by
    have hasn : wholeNetwork.asn.bind parsePlainAsNumber = some 65530 := by decide +kernel
    have hip : wholeNetwork.ipPrefix.bind threeNetworks.parse = some ⟨4, 0xC0000200, 24⟩ := rfl
    unfold RoaDict.isMatched
    rw [hasn, hip]
    rfl
  rw [List.filter_cons_of_pos (by rw [hmatched]; rfl), List.filter_nil, List.mapM_cons] at hkept
  obtain ⟨roa, -, hkept⟩ := Option.bind_eq_some_iff.mp hkept
  cases hkept
  simp at heq

end Examples

end Irrd.Rpki
