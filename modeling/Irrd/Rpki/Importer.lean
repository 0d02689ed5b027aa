import Irrd.Scopefilter.Validators
import Irrd.Utils.Lines
import Irrd.Utils.Validators

/-!
# ROA import

ROAs from decoded JSON and SLURM data, and the pseudo-IRR objects for them. Source:
`irrd/rpki/importer.py`. Functions of IPy, and the configured remarks, are parameters.
-/

namespace Irrd.Rpki

open Irrd.Conf Irrd.Rpsl Irrd.Scopefilter Irrd.Storage Irrd.Utils

/-- What the importer uses of IPy: `IP`, `str` of a network, and whether a network is in an `IPSet`
of others. -/
structure IPyFunctions where
  parse : String → Option IP
  str : IP → String
  inSet : IP → List IP → Bool

/-- `irrd/rpki/importer.py:16`. -/
def slurmTrustAnchor : String := "SLURM file"

/-- A JSON integer or string. -/
inductive JsonScalar
  | number (n : Int)
  | text (value : String)
  deriving DecidableEq

/-- `int`. -/
def JsonScalar.int : JsonScalar → Option Int
  | .number n => some n
  | .text value => Utils.int value.toList

/-- `str`. -/
def JsonScalar.str : JsonScalar → String
  | .number n => toString n
  | .text value => value

/-- `parse_as_number`, `irrd/utils/validators.py:7–52`, where plain numbers are permitted. -/
def parsePlainAsNumber : JsonScalar → Option Nat
  | .number n => if 0 ≤ n ∧ n ≤ 4294967295 then some n.toNat else none
  | .text value => (parseAsNumberText true false false value.toList).toOption.map Prod.snd

/-- A record of a ROA file; keys may be missing. -/
structure RoaDict where
  asn : Option JsonScalar
  ipPrefix : Option String
  maxLength : Option JsonScalar
  ta : Option String

/-- An item of `prefixFilters` in a SLURM file. -/
structure SlurmPrefixFilter where
  asn : Option JsonScalar
  ipPrefix : Option String

/-- An item of `prefixAssertions` in a SLURM file. -/
structure SlurmPrefixAssertion where
  asn : Option JsonScalar
  ipPrefix : Option String
  maxPrefixLength : Option JsonScalar

/-- A SLURM file. -/
structure Slurm where
  slurmVersion : Option JsonScalar
  prefixFilters : List SlurmPrefixFilter
  prefixAssertions : List SlurmPrefixAssertion

/-- The filters of a SLURM file, `irrd/rpki/importer.py:40–42`. -/
structure SlurmFilters where
  filteredAsns : List Int
  filteredPrefixes : List IP
  filteredCombined : List (Int × IP)

/-- `ROA`, `irrd/rpki/importer.py:138–164`. -/
structure ROA where
  ipPrefix : IP
  asn : Nat
  maxLength : Nat
  trustAnchor : String
  deriving DecidableEq

section Importer

variable (ipy : IPyFunctions)

/-- One filter, `irrd/rpki/importer.py:113–119`. -/
def loadSlurmFilter (f : SlurmFilters) (item : SlurmPrefixFilter) : Option SlurmFilters :=
  match item.asn, item.ipPrefix with
  | some asn, none => do
    return { f with filteredAsns := f.filteredAsns ++ [← asn.int] }
  | none, some ipPrefix => do
    return { f with filteredPrefixes := f.filteredPrefixes ++ [← ipy.parse ipPrefix] }
  | some asn, some ipPrefix => do
    return { f with filteredCombined := f.filteredCombined ++ [(← asn.int, ← ipy.parse ipPrefix)] }
  | none, none => some f

/-- One assertion as a record, `irrd/rpki/importer.py:122–133`. -/
def slurmRoaDict (assertion : SlurmPrefixAssertion) : Option RoaDict := do
  let ipPrefix ← assertion.ipPrefix
  let asn ← assertion.asn
  let maxLength ←
    match assertion.maxPrefixLength with
    | some maxLength => some maxLength
    | none => (ipy.parse ipPrefix).map (fun ip ↦ .number ip.prefixlen)
  return ⟨some (.text ("AS" ++ asn.str)), some ipPrefix, some maxLength, some slurmTrustAnchor⟩

/-- `_load_slurm`, `irrd/rpki/importer.py:86–133`: the filters, and the records to add. -/
def loadSlurm (slurm : Slurm) : Option (SlurmFilters × List RoaDict) :=
  if slurm.slurmVersion = some (.number 1) then do
    let filters ← slurm.prefixFilters.foldlM (loadSlurmFilter ipy) ⟨[], [], []⟩
    let dicts ← slurm.prefixAssertions.mapM (slurmRoaDict ipy)
    return (filters, dicts)
  else none

/-- Whether the filters discard a ROA, `irrd/rpki/importer.py:55–60`. -/
def SlurmFilters.discards (f : SlurmFilters) (asn : Nat) (ip : IP) : Bool :=
  (asn : Int) ∈ f.filteredAsns || ipy.inSet ip f.filteredPrefixes ||
    (let combined := (f.filteredCombined.filter (fun item ↦ item.1 = (asn : Int))).map Prod.snd
    combined ≠ [] && ipy.inSet ip combined)

/-- `ROA.__init__`. -/
def ROA.new (ip : IP) (asn : Nat) (maxLength : JsonScalar) (trustAnchor : String) : Option ROA := do
  let maxLength ← maxLength.int
  if maxLength < ip.prefixlen then none else some ⟨ip, asn, maxLength.toNat, trustAnchor⟩

/-- One record, `irrd/rpki/importer.py:50–71`, unless it is discarded. -/
def importRoaDict (f : SlurmFilters) (d : RoaDict) : Option (Option ROA) := do
  let asn ← d.asn.bind parsePlainAsNumber
  let ip ← d.ipPrefix.bind ipy.parse
  let ta ← d.ta
  if ta ≠ slurmTrustAnchor ∧ f.discards ipy asn ip = true then return none
  else
    let maxLength ← d.maxLength
    return some (← ROA.new ip asn maxLength ta)

/-- The records and filters of both files, `irrd/rpki/importer.py:44–46`. -/
def loadRoaDicts (roas : List RoaDict) (slurm : Option Slurm) :
    Option (SlurmFilters × List RoaDict) :=
  match slurm with
  | none => some (⟨[], [], []⟩, roas)
  | some slurm => (loadSlurm ipy slurm).map (fun (filters, dicts) ↦ (filters, roas ++ dicts))

/-- The ROAs to import, where every record passes the checks. -/
def importedRoas (roas : List RoaDict) (slurm : Option Slurm) : Option (List ROA) := do
  let (filters, dicts) ← loadRoaDicts ipy roas slurm
  let results ← dicts.mapM (importRoaDict ipy filters)
  return results.filterMap id

end Importer

section PseudoIrr

variable (s : Settings) (v : ScopeFilterValidator) (ipy : IPyFunctions)
  (pseudoIrrRemarks : Nat → String → String)

/-- `RPSL_ROUTE_OBJECT_CLASS_FOR_IP_VERSION`, `irrd/rpsl/rpsl_objects.py:35–38`. -/
def rpslRouteObjectClassForIpVersion (version : Nat) : String :=
  if version = 4 then "route" else "route6"

/-- `RPSLObjectFromROA.pk`. -/
def ROA.pk (r : ROA) : String :=
  ipy.str r.ipPrefix ++ "AS" ++ toString r.asn ++ "/ML" ++ toString r.maxLength

/-- `RPSLObjectFromROA.render_rpsl_text`, `irrd/rpki/importer.py:234–247`. -/
def ROA.renderRpslText (r : ROA) : String :=
  let prefixStr := ipy.str r.ipPrefix
  let objectClassDisplay := String.ofList
    (ljust ((rpslRouteObjectClassForIpVersion r.ipPrefix.version).toList ++ [':'])
      rpslAttributeTextWidth)
  let rpslObjectText := objectClassDisplay ++ prefixStr ++
    s!"\ndescr:          RPKI ROA for {prefixStr} / AS{r.asn}" ++
    s!"\nremarks:        {pseudoIrrRemarks r.asn prefixStr}" ++
    s!"\nmax-length:     {r.maxLength}" ++
    s!"\norigin:         AS{r.asn}" ++
    s!"\nsource:         {rpkiIrrPseudoSource}  # Trust Anchor: {r.trustAnchor}\n"
  String.ofList (strip rpslObjectText.toList) ++ "\n"

/-- `RPSLObjectFromROA`, `irrd/rpki/importer.py:193–229`. -/
def ROA.rpslObject (r : ROA) : RPSLObject :=
  let objectClass := rpslRouteObjectClassForIpVersion r.ipPrefix.version
  { rpslObjectClass := objectClass
    pk := r.pk ipy
    source := rpkiIrrPseudoSource
    parsedData := [(objectClass, [ipy.str r.ipPrefix]), ("origin", ["AS" ++ toString r.asn]),
      ("source", [rpkiIrrPseudoSource]), ("rpki_max_length", [toString r.maxLength])]
    renderRpslText := fun _ ↦ r.renderRpslText ipy pseudoIrrRemarks
    ipVersion := some r.ipPrefix.version
    ipFirst := some r.ipPrefix.net
    ipLast := some r.ipPrefix.broadcast
    ipPrefix := some r.ipPrefix
    prefixLength := some r.ipPrefix.prefixlen
    asnFirst := some r.asn
    asnLast := some r.asn
    rpkiStatus := .valid
    scopefilterStatus := v.validateRpslData s rpkiIrrPseudoSource objectClass (some r.ipPrefix)
      (some r.asn)
    routePreferenceStatus := .visible }

/-- The arguments that a ROA is inserted with, `irrd/rpki/importer.py:170–176`. -/
def ROA.insert (r : ROA) : ROAInsert :=
  ⟨r.ipPrefix.version, ipy.str r.ipPrefix, r.asn, r.maxLength, r.trustAnchor⟩

/-- `ROA.save`, `irrd/rpki/importer.py:166–187`. -/
def ROA.save (h : DatabaseHandler) (r : ROA) : Option DatabaseHandler :=
  (h.insertRoaObject (r.insert ipy)).upsertRpslObject s
    (r.rpslObject s v ipy pseudoIrrRemarks) .pseudoIrr true none none

/-- `ROADataImporter`, `irrd/rpki/importer.py:38–74`: the handler and the ROAs it has saved. -/
def roaDataImporter (roas : List RoaDict) (slurm : Option Slurm) (h : DatabaseHandler) :
    Option (DatabaseHandler × List ROA) := do
  let (filters, dicts) ← loadRoaDicts ipy roas slurm
  dicts.foldlM (fun (h, roaObjs) d ↦ do
    match ← importRoaDict ipy filters d with
    | none => return (h, roaObjs)
    | some roa => return (← roa.save s v ipy pseudoIrrRemarks h, roaObjs ++ [roa])) (h, [])

end PseudoIrr

/-- IPy prints different imported prefixes differently, and none with an A. -/
structure PrintsPrefixes (ipy : IPyFunctions) (rs : List ROA) : Prop where
  injective : ∀ r ∈ rs, ∀ r' ∈ rs, ipy.str r.ipPrefix = ipy.str r'.ipPrefix →
    r.ipPrefix = r'.ipPrefix
  noA : ∀ r ∈ rs, 'A' ∉ (ipy.str r.ipPrefix).toList

/-- The row of a ROA. -/
def ROA.row (r : ROA) : ROADatabaseObject :=
  ⟨r.ipPrefix, r.asn, r.maxLength, some r.trustAnchor, r.ipPrefix.version⟩

/-- What a pseudo-IRR object says of a ROA. -/
def ROA.payload (r : ROA) : IP × Nat × Nat := (r.ipPrefix, r.asn, r.maxLength)

/-- The key of a pseudo-IRR object. -/
def ROA.objectKey (ipy : IPyFunctions) (r : ROA) : ObjectKey :=
  ⟨r.pk ipy, rpkiIrrPseudoSource, rpslRouteObjectClassForIpVersion r.ipPrefix.version⟩

/-- The columns of a pseudo-IRR object. -/
def ROA.columns (s : Settings) (v : ScopeFilterValidator) (ipy : IPyFunctions)
    (pseudoIrrRemarks : Nat → String → String) (h : DatabaseHandler) (r : ROA) : ObjectColumns :=
  h.objectColumns (r.rpslObject s v ipy pseudoIrrRemarks)

section Import

variable {s : Settings} {v : ScopeFilterValidator} {ipy : IPyFunctions}
  {pseudoIrrRemarks : Nat → String → String}

/-- The loop of the importer, over records that pass the checks. -/
theorem foldlM_importRoaDict {filters : SlurmFilters} {dicts : List RoaDict}
    {results : List (Option ROA)}
    (hresults : dicts.mapM (importRoaDict ipy filters) = some results) (h : DatabaseHandler)
    (roaObjs : List ROA) :
    dicts.foldlM (fun (h, roaObjs) d ↦ do
      match ← importRoaDict ipy filters d with
      | none => return (h, roaObjs)
      | some roa => return (← roa.save s v ipy pseudoIrrRemarks h, roaObjs ++ [roa])) (h, roaObjs) =
        ((results.filterMap id).foldlM (ROA.save s v ipy pseudoIrrRemarks) h).map (fun h ↦
          (h, roaObjs ++ results.filterMap id)) := by
  induction dicts generalizing results h roaObjs with
  | nil =>
    cases hresults
    simp
  | cons d dicts ih =>
    rw [List.mapM_cons] at hresults
    obtain ⟨result, hresult, hresults⟩ := Option.bind_eq_some_iff.mp hresults
    obtain ⟨rest, hrest, hresults⟩ := Option.bind_eq_some_iff.mp hresults
    obtain rfl := Option.some_inj.mp hresults
    rw [List.foldlM_cons, hresult]
    cases result with
    | none => exact ih hrest h roaObjs
    | some roa =>
      simp only [Option.bind_eq_bind, Option.bind_some, List.filterMap_cons, id, List.foldlM_cons]
      cases roa.save s v ipy pseudoIrrRemarks h with
      | none => rfl
      | some h' =>
        have hloop := ih hrest h' (roaObjs ++ [roa])
        rw [← List.append_cons] at hloop
        exact hloop

/-- Where every record passes the checks, the importer saves the ROAs in order. -/
theorem roaDataImporter_eq {roas : List RoaDict} {slurm : Option Slurm} {rs : List ROA}
    (hrs : importedRoas ipy roas slurm = some rs) (h : DatabaseHandler) :
    roaDataImporter s v ipy pseudoIrrRemarks roas slurm h =
      (rs.foldlM (ROA.save s v ipy pseudoIrrRemarks) h).map (fun h ↦ (h, rs)) := by
  obtain ⟨⟨filters, dicts⟩, hload, hrs⟩ := Option.bind_eq_some_iff.mp hrs
  obtain ⟨results, hresults, hrs⟩ := Option.bind_eq_some_iff.mp hrs
  obtain rfl := Option.some_inj.mp hrs
  unfold roaDataImporter
  rw [hload]
  exact foldlM_importRoaDict hresults h []

/-- The parts of a primary key, where the prefix is printed without an A. -/
theorem ROA.pk_inj {r r' : ROA} (hr : 'A' ∉ (ipy.str r.ipPrefix).toList)
    (hr' : 'A' ∉ (ipy.str r'.ipPrefix).toList) (hpk : r.pk ipy = r'.pk ipy) :
    ipy.str r.ipPrefix = ipy.str r'.ipPrefix ∧ r.asn = r'.asn ∧ r.maxLength = r'.maxLength := by
  have hslash (n : Nat) : '/' ∉ (toString n).toList := fun hmem ↦
    absurd (isDigit_of_mem_toString hmem) (by decide)
  have htext (r : ROA) : (r.pk ipy).toList = (ipy.str r.ipPrefix).toList ++
      'A' :: 'S' :: ((toString r.asn).toList ++
        '/' :: 'M' :: 'L' :: (toString r.maxLength).toList) := by
    unfold ROA.pk
    simp only [String.toList_append, List.append_assoc]
    rfl
  have hlists := congrArg String.toList hpk
  rw [htext, htext] at hlists
  obtain ⟨hnetwork, hrest⟩ := append_separator_inj hr hr' hlists
  obtain ⟨hasn, hrest⟩ := append_separator_inj (hslash r.asn) (hslash r'.asn)
    (List.cons.inj hrest).2
  exact ⟨String.toList_inj.mp hnetwork, toString_injective (String.toList_inj.mp hasn),
    toString_injective (String.toList_inj.mp (List.cons.inj (List.cons.inj hrest).2).2)⟩

/-- Pseudo-IRR objects have the same key where the ROAs say the same. -/
theorem nodup_objectKey_iff {rs : List ROA} (hprints : PrintsPrefixes ipy rs) :
    (rs.map (ROA.objectKey ipy)).Nodup ↔ (rs.map ROA.payload).Nodup := by
  unfold List.Nodup
  rw [List.pairwise_map, List.pairwise_map]
  refine List.Pairwise.iff_of_mem (fun {r r'} hr hr' ↦ not_congr ⟨fun hkey ↦ ?_, fun hpayload ↦ ?_⟩)
  · obtain ⟨hstr, hasn, hmax⟩ := ROA.pk_inj (hprints.noA r hr) (hprints.noA r' hr')
      (congrArg ObjectKey.rpslPk hkey)
    exact Prod.ext (hprints.injective r hr r' hr' hstr) (Prod.ext hasn hmax)
  · obtain ⟨hnetwork, hrest⟩ := Prod.mk.inj hpayload
    obtain ⟨hasn, hmax⟩ := Prod.mk.inj hrest
    unfold ROA.objectKey ROA.pk
    rw [hnetwork, hasn, hmax]

end Import

end Irrd.Rpki
