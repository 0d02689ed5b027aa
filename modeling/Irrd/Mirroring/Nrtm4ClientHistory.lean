import Irrd.Mirroring.Nrtm4ClientVersion
import Irrd.Utils.Lines

/-!
# The history check of the NRTMv4 client

When a run of a client that changes session succeeds, and what the check against
remembered files rejects. Files are remembered by kind and version only, so the check does
not know to which session a remembered file belongs.
-/

namespace Irrd.Mirroring.NRTM4Client

open Irrd.Base Irrd.Rpsl Irrd.Storage Irrd.Utils

variable (c : NRTM4Client) (r : Remote) (unf : NRTM4UpdateNotificationFile)

/-- Every remembered file that the new notification file lists again is the same file. -/
def HistoryAgrees : Prop :=
  ∀ f ∈ currentFiles unf, ∀ old ∈ (c.lastStatus.previousFileHashes.getD []).lookup f.1,
    old = f.2

/-- A listed version has another location or hash than in an earlier notification file. -/
def Rewrites (lastUnf : NRTM4UpdateNotificationFile) : Prop :=
  (unf.snapshot.version = lastUnf.snapshot.version ∧
      (unf.snapshot.url ≠ lastUnf.snapshot.url ∨ unf.snapshot.hash ≠ lastUnf.snapshot.hash)) ∨
    ∃ d ∈ unf.deltas, ∃ d' ∈ lastUnf.deltas, d.version = d'.version ∧
      (d.url ≠ d'.url ∨ d.hash ≠ d'.hash)

/-- The snapshot file is there, matches its hash and header, and every item has an object that
parses without an exception. -/
def SnapshotFileValid : Prop :=
  ∃ header items, retrieveFile r unf.snapshot = .ok (header :: items) ∧
    (∃ h, header.validateHeader "snapshot" c.source unf.sessionId unf.snapshot.version = .ok h) ∧
    ∀ item ∈ items, ∃ text, item.getItem "object" = .ok (.str text) ∧
      Parsers.MirrorsWithoutException r.env c.strictImportKeycertObjects (strip text.toList) none

/-- A delta item with the members that its action needs, whose object parses without an
exception. -/
def DeltaItemValid (item : JsonItem) : Prop :=
  (item.getItem "action" = .ok (.str "add_modify") ∧
      ∃ text, item.getItem "object" = .ok (.str text) ∧ text ≠ "" ∧
        Parsers.MirrorsWithoutException r.env false (strip text.toList) none) ∨
    (item.getItem "action" = .ok (.str "delete") ∧
      ∃ pk objectClass, item.getItem "primary_key" = .ok (.str pk) ∧ pk ≠ "" ∧
        item.getItem "object_class" = .ok (.str objectClass) ∧ objectClass ≠ "")

/-- The delta file is there, matches its hash and header, and has valid items, at least one. -/
def DeltaFileValid (delta : NRTM4FileReference) : Prop :=
  ∃ header items, retrieveFile r delta = .ok (header :: items) ∧
    (∃ h, header.validateHeader "delta" c.source unf.sessionId delta.version = .ok h) ∧
    items ≠ [] ∧ ∀ item ∈ items, DeltaItemValid r item

/-- The operation of a valid delta item as it is saved. -/
def parsedOperation (operation : DatabaseOperation) (content : Parsers.OperationContent) :
    Parsers.NRTMOperation :=
  ⟨c.source.toList, operation, content, false,
    if c.objectClassFilter = [] then none else some c.objectClassFilter⟩

/-- A run succeeds, reloads from the snapshot of the file and records its session. -/
def ReloadsSession (force : Bool) : Prop :=
  ∃ run, c.runClient r force = .ok run ∧ run.hasLoadedSnapshot = true ∧
    (∃ snapshot deltas, run.loads = snapshot :: deltas ∧ c.loadSnapshot r unf = .ok snapshot) ∧
    run.newStatus.sessionId = some unf.sessionId

section Keys

theorem deltaReference_injective {m n : Nat} (h : deltaReference m = deltaReference n) :
    m = n := toString_injective ((String.append_right_inj _).mp h)

theorem snapshotReference_ne_deltaReference (m n : Nat) :
    snapshotReference m ≠ deltaReference n := by
  intro h
  have hl := congrArg (fun s ↦ s.toList.head?) h
  simp [snapshotReference, deltaReference] at hl

/-- A remembered delta is found under its own key. -/
theorem lookup_currentFiles_delta (d : NRTM4FileReference) (hd : d ∈ unf.deltas) :
    (currentFiles unf).lookup (deltaReference d.version) = some [d.url, d.hash] := by
  have hnodup : (unf.deltas.map NRTM4FileReference.version).Nodup := by
    cases hm : unf.maxDeltaVersion with
    | none =>
      have hnil : unf.deltas = [] := by simpa [NRTM4UpdateNotificationFile.maxDeltaVersion] using hm
      simp [hnil]
    | some hi =>
      cases hl : unf.minDeltaVersion with
      | none =>
        rw [unf.minDeltaVersion_eq_none_iff.mp hl] at hm
        cases hm
      | some lo =>
        rw [unf.deltaVersions_eq hl hm]
        exact List.nodup_range'
  have hlist (ds : List NRTM4FileReference)
      (hn : (ds.map NRTM4FileReference.version).Nodup) (hmem : d ∈ ds) :
      (ds.map (fun d ↦ (deltaReference d.version, [d.url, d.hash]))).lookup
        (deltaReference d.version) = some [d.url, d.hash] := by
    induction ds with
    | nil => cases hmem
    | cons e ds ih =>
      obtain ⟨hnot, hn⟩ := List.nodup_cons.mp hn
      rw [List.map_cons, List.lookup_cons]
      rcases List.mem_cons.mp hmem with rfl | htail
      · simp
      · have hne : deltaReference d.version ≠ deltaReference e.version := by
          intro he
          exact hnot (deltaReference_injective he ▸ List.mem_map_of_mem htail)
        rw [beq_eq_false_iff_ne.mpr hne]
        exact ih hn htail
  have hne := (snapshotReference_ne_deltaReference unf.snapshot.version d.version).symm
  rw [currentFiles, List.lookup_cons, beq_eq_false_iff_ne.mpr hne]
  exact hlist unf.deltas hnodup hd

end Keys

variable {c r unf}

/-- The history check passes exactly if the remembered files agree. -/
theorem validateAggregate_eq_ok_iff {files : List (String × List String)} :
    c.validateAggregatePreviousFileHashesFromUnf unf = .ok files ↔
      c.HistoryAgrees unf ∧ files = currentFiles unf := by
  unfold validateAggregatePreviousFileHashesFromUnf HistoryAgrees
  dsimp only
  split
  · next f hf =>
    have hdiffer := List.find?_some hf
    rw [Option.any_eq_true] at hdiffer
    obtain ⟨old, hold, hne⟩ := hdiffer
    simp only [reduceCtorEq, false_iff, not_and]
    intro hagree
    exact absurd (hagree f (List.mem_of_find?_eq_some hf) old hold) (by simpa using hne)
  · next hf =>
    have hagree : ∀ f ∈ currentFiles unf,
        ∀ old ∈ (c.lastStatus.previousFileHashes.getD []).lookup f.1, old = f.2 := by
      intro f hmem old hold
      have hnot := List.find?_eq_none.mp hf f hmem
      rw [Option.mem_def.mp hold] at hnot
      simpa using hnot
    exact ⟨fun h ↦ ⟨hagree, (Except.ok.inj h).symm⟩, fun h ↦ congrArg _ h.2.symm⟩

private theorem asString_eq_ok_iff {v : JsonValue} {s : String} :
    v.asString = .ok s ↔ v = .str s := by
  cases v <;> simp [JsonValue.asString]

private theorem orParserError_eq_ok_iff {A : Type} {x : Except ParserException A} {a : A} :
    orParserError x = .ok a ↔ x = .ok a := by
  cases x <;> simp [orParserError]

/-- A snapshot item is imported exactly if it has an object that parses without an exception. -/
theorem exists_importItem_iff {item : JsonItem} :
    (∃ call, c.importItem r item = .ok call) ↔
      ∃ text, item.getItem "object" = .ok (.str text) ∧
        Parsers.MirrorsWithoutException r.env c.strictImportKeycertObjects (strip text.toList)
          none := by
  unfold importItem
  constructor
  · rintro ⟨call, h⟩
    obtain ⟨value, hvalue, h⟩ := bind_eq_ok_iff.mp h
    obtain ⟨text, htext, h⟩ := bind_eq_ok_iff.mp h
    obtain ⟨outcome, hparse, -⟩ := bind_eq_ok_iff.mp h
    exact ⟨text, asString_eq_ok_iff.mp htext ▸ hvalue, (Parsers.parseObject_ok_iff c.importSettings
      text.toList).mp ⟨outcome, orParserError_eq_ok_iff.mp hparse⟩⟩
  · rintro ⟨text, htext, hparses⟩
    obtain ⟨outcome, houtcome⟩ :=
      (Parsers.parseObject_ok_iff c.importSettings text.toList).mpr hparses
    exact ⟨_, bind_eq_ok_iff.mpr ⟨_, htext, bind_eq_ok_iff.mpr ⟨text, rfl,
      bind_eq_ok_iff.mpr ⟨outcome, orParserError_eq_ok_iff.mpr houtcome, rfl⟩⟩⟩⟩

/-- The snapshot loads exactly if its file is valid. -/
theorem exists_loadSnapshot_iff :
    (∃ load, c.loadSnapshot r unf = .ok load) ↔ c.SnapshotFileValid r unf := by
  unfold loadSnapshot SnapshotFileValid
  constructor
  · rintro ⟨load, h⟩
    obtain ⟨file, hfile, h⟩ := bind_eq_ok_iff.mp h
    cases file with
    | nil => cases h
    | cons header items =>
      obtain ⟨hd, hheader, h⟩ := bind_eq_ok_iff.mp h
      obtain ⟨imports, himports, -⟩ := bind_eq_ok_iff.mp h
      refine ⟨header, items, hfile, ⟨hd, hheader⟩, fun item hmem ↦ ?_⟩
      exact exists_importItem_iff.mp (exists_mapM_eq_ok_iff.mp ⟨imports, himports⟩ item hmem)
  · rintro ⟨header, items, hfile, ⟨hd, hheader⟩, hitems⟩
    have himport : ∀ item ∈ items, ∃ call, c.importItem r item = .ok call :=
      fun item hmem ↦ exists_importItem_iff.mpr (hitems item hmem)
    obtain ⟨imports, himports⟩ := exists_mapM_eq_ok_iff.mpr himport
    exact ⟨_, bind_eq_ok_iff.mpr ⟨_, hfile, bind_eq_ok_iff.mpr ⟨hd, hheader,
      bind_eq_ok_iff.mpr ⟨imports, himports, rfl⟩⟩⟩⟩

private theorem operationMapping_eq_ok_iff {v : JsonValue} {op : DatabaseOperation} :
    operationMapping v = .ok op ↔
      (v = .str "add_modify" ∧ op = .addOrUpdate) ∨ (v = .str "delete" ∧ op = .delete) := by
  cases v with
  | scalar => simp [operationMapping]
  | container => simp [operationMapping]
  | str s =>
    by_cases hadd : s = "add_modify"
    · simp [operationMapping, hadd, eq_comm]
    · by_cases hdel : s = "delete" <;> simp [operationMapping, hadd, hdel, eq_comm]

/-- The operations of delta items: objects to parse, and keys to delete. -/
private theorem deltaItemOperation_eq_ok_iff {header : NRTM4Header} {item : JsonItem}
    {parsed : Parsers.NRTMOperation} :
    (∃ op, c.deltaItemOperation header item = .ok op ∧ deltaOperation op = parsed) ↔
      (item.getItem "action" = .ok (.str "add_modify") ∧
        ∃ text, item.getItem "object" = .ok (.str text) ∧ text ≠ "" ∧
          parsed = c.parsedOperation .addOrUpdate (.text text.toList)) ∨
      (item.getItem "action" = .ok (.str "delete") ∧
        ∃ pk objectClass, item.getItem "primary_key" = .ok (.str pk) ∧ pk ≠ "" ∧
          item.getItem "object_class" = .ok (.str objectClass) ∧ objectClass ≠ "" ∧
          parsed = c.parsedOperation .delete (.key (upper pk).toList objectClass.toLower)) := by
  unfold deltaItemOperation
  constructor
  · rintro ⟨op, h, rfl⟩
    obtain ⟨action, haction, h⟩ := bind_eq_ok_iff.mp h
    obtain ⟨operation, hoperation, h⟩ := bind_eq_ok_iff.mp h
    obtain ⟨rfl, rfl⟩ | ⟨rfl, rfl⟩ := operationMapping_eq_ok_iff.mp hoperation
    · obtain ⟨value, hvalue, h⟩ := bind_eq_ok_iff.mp h
      obtain ⟨text, htext, h⟩ := bind_eq_ok_iff.mp h
      obtain ⟨hne, h⟩ := ite_error_eq_ok_iff.mp h
      cases h
      refine Or.inl ⟨haction, text, asString_eq_ok_iff.mp htext ▸ hvalue, hne, ?_⟩
      simp [deltaOperation, parsedOperation, hne]
    · obtain ⟨pkValue, hpkValue, h⟩ := bind_eq_ok_iff.mp h
      obtain ⟨pk, hpk, h⟩ := bind_eq_ok_iff.mp h
      obtain ⟨classValue, hclassValue, h⟩ := bind_eq_ok_iff.mp h
      obtain ⟨objectClass, hclass, h⟩ := bind_eq_ok_iff.mp h
      obtain ⟨hne, h⟩ := ite_error_eq_ok_iff.mp h
      rw [not_or] at hne
      cases h
      exact Or.inr ⟨haction, pk, objectClass, asString_eq_ok_iff.mp hpk ▸ hpkValue, hne.1,
        asString_eq_ok_iff.mp hclass ▸ hclassValue, hne.2, rfl⟩
  · rintro (⟨haction, text, htext, hne, rfl⟩ |
      ⟨haction, pk, objectClass, hpk, hpkne, hclass, hclassne, rfl⟩)
    · refine ⟨_, bind_eq_ok_iff.mpr ⟨_, haction, bind_eq_ok_iff.mpr ⟨.addOrUpdate, rfl,
        bind_eq_ok_iff.mpr ⟨_, htext, bind_eq_ok_iff.mpr ⟨text, rfl,
          ite_error_eq_ok_iff.mpr ⟨hne, rfl⟩⟩⟩⟩⟩, ?_⟩
      simp [deltaOperation, parsedOperation, hne]
    · exact ⟨_, bind_eq_ok_iff.mpr ⟨_, haction, bind_eq_ok_iff.mpr ⟨.delete, by decide,
        bind_eq_ok_iff.mpr ⟨_, hpk, bind_eq_ok_iff.mpr ⟨pk, rfl,
          bind_eq_ok_iff.mpr ⟨_, hclass, bind_eq_ok_iff.mpr ⟨objectClass, rfl,
            ite_error_eq_ok_iff.mpr ⟨not_or.mpr ⟨hpkne, hclassne⟩, rfl⟩⟩⟩⟩⟩⟩⟩, rfl⟩

/-- A delta item becomes a handler call exactly if it is valid. -/
theorem exists_processDeltaItem_iff {header : NRTM4Header} {item : JsonItem} :
    (∃ call, c.processDeltaItem r header item = .ok call) ↔ DeltaItemValid r item := by
  have hsaved : (∃ call, c.processDeltaItem r header item = .ok call) ↔
      ∃ parsed, (∃ op, c.deltaItemOperation header item = .ok op ∧ deltaOperation op = parsed) ∧
        ∃ outcome, parsed.save r.env = .ok outcome := by
    have hcall : (∃ call, c.processDeltaItem r header item = .ok call) ↔
        ∃ call, c.saveDeltaItem r header item = .ok call := by
      unfold processDeltaItem
      split <;> simp_all
    rw [hcall]
    unfold saveDeltaItem
    constructor
    · rintro ⟨call, h⟩
      obtain ⟨op, hop, h⟩ := bind_eq_ok_iff.mp h
      obtain ⟨outcome, hsave, -⟩ := bind_eq_ok_iff.mp h
      exact ⟨_, ⟨op, hop, rfl⟩, outcome, orParserError_eq_ok_iff.mp hsave⟩
    · rintro ⟨_, ⟨op, hop, rfl⟩, outcome, hsave⟩
      exact ⟨_, bind_eq_ok_iff.mpr ⟨op, hop, bind_eq_ok_iff.mpr
        ⟨outcome, orParserError_eq_ok_iff.mpr hsave, rfl⟩⟩⟩
  rw [hsaved]
  unfold DeltaItemValid
  simp only [deltaItemOperation_eq_ok_iff, Parsers.save_ok_iff]
  constructor
  · rintro ⟨parsed, ⟨haction, text, htext, hne, rfl⟩ |
      ⟨haction, pk, objectClass, hpk, hpkne, hclass, hclassne, -⟩, hsave⟩
    · exact Or.inl ⟨haction, text, htext, hne, hsave text.toList rfl⟩
    · exact Or.inr ⟨haction, pk, objectClass, hpk, hpkne, hclass, hclassne⟩
  · rintro (⟨haction, text, htext, hne, hparses⟩ |
      ⟨haction, pk, objectClass, hpk, hpkne, hclass, hclassne⟩)
    · refine ⟨_, Or.inl ⟨haction, text, htext, hne, rfl⟩, fun text' htext' ↦ ?_⟩
      cases htext'
      exact hparses
    · refine ⟨_, Or.inr ⟨haction, pk, objectClass, hpk, hpkne, hclass, hclassne, rfl⟩,
        fun text' htext' ↦ ?_⟩
      cases htext'

/-- A delta loads exactly if its file is valid. -/
theorem exists_loadDelta_iff {delta : NRTM4FileReference} :
    (∃ load, c.loadDelta r unf delta = .ok load) ↔ c.DeltaFileValid r unf delta := by
  unfold loadDelta DeltaFileValid
  constructor
  · rintro ⟨load, h⟩
    obtain ⟨file, hfile, h⟩ := bind_eq_ok_iff.mp h
    cases file with
    | nil => cases h
    | cons header items =>
      obtain ⟨hd, hheader, h⟩ := bind_eq_ok_iff.mp h
      obtain ⟨calls, hcalls, h⟩ := bind_eq_ok_iff.mp h
      obtain ⟨hne, -⟩ := ite_error_eq_ok_iff.mp h
      have hlen := (mapM_eq_ok_iff.mp hcalls).length_eq
      refine ⟨header, items, hfile, ⟨hd, hheader⟩, ?_, fun item hmem ↦ ?_⟩
      · rintro rfl
        exact hne (List.eq_nil_of_length_eq_zero hlen.symm)
      · exact exists_processDeltaItem_iff.mp
          (exists_mapM_eq_ok_iff.mp ⟨calls, hcalls⟩ item hmem)
  · rintro ⟨header, items, hfile, ⟨hd, hheader⟩, hne, hitems⟩
    have hcall : ∀ item ∈ items, ∃ call, c.processDeltaItem r hd item = .ok call :=
      fun item hmem ↦ exists_processDeltaItem_iff.mpr (hitems item hmem)
    obtain ⟨calls, hcalls⟩ := exists_mapM_eq_ok_iff.mpr hcall
    have hlen := (mapM_eq_ok_iff.mp hcalls).length_eq
    have hcallsne : calls ≠ [] := by
      rintro rfl
      exact hne (List.eq_nil_of_length_eq_zero hlen)
    exact ⟨_, bind_eq_ok_iff.mpr ⟨_, hfile, bind_eq_ok_iff.mpr ⟨hd, hheader,
      bind_eq_ok_iff.mpr ⟨calls, hcalls, ite_error_eq_ok_iff.mpr ⟨hcallsne, rfl⟩⟩⟩⟩⟩

/-- No listed delta is after the last one. -/
private theorem version_le_maxDeltaVersion {d : NRTM4FileReference} (hd : d ∈ unf.deltas) :
    ∃ hi, unf.maxDeltaVersion = some hi ∧ d.version ≤ hi := by
  cases hm : unf.maxDeltaVersion with
  | none =>
    have hnil : unf.deltas = [] := by simpa [NRTM4UpdateNotificationFile.maxDeltaVersion] using hm
    simp [hnil] at hd
  | some hi =>
    cases hl : unf.minDeltaVersion with
    | none =>
      rw [unf.minDeltaVersion_eq_none_iff.mp hl] at hm
      cases hm
    | some lo =>
      have hmem : d.version ∈ List.range' lo (hi + 1 - lo) := by
        rw [← unf.deltaVersions_eq hl hm]
        exact List.mem_map_of_mem hd
      have hrange := List.mem_range'_1.mp hmem
      exact ⟨hi, rfl, by omega⟩

/-- Updating from a version on succeeds exactly if the files of the deltas from there on are
valid. -/
theorem exists_updateFromDeltas_iff {next : Nat} (hpos : 0 < next) :
    (∃ loads, c.updateFromDeltas r unf (some next) = .ok loads) ↔
      ∀ d ∈ unf.deltas, next ≤ d.version → c.DeltaFileValid r unf d := by
  unfold updateFromDeltas
  cases hm : unf.maxDeltaVersion with
  | none =>
    have hnil : unf.deltas = [] := by simpa [NRTM4UpdateNotificationFile.maxDeltaVersion] using hm
    simp [hnil]
  | some hi =>
    by_cases hle : next ≤ hi
    · have hfilter : (some hi).filter (· ≠ 0) = some hi := by
        have h0 : hi ≠ 0 := by omega
        simp [Option.filter_some, h0]
      rw [hfilter]
      dsimp only
      rw [if_pos hle, loadDeltas, exists_mapM_eq_ok_iff]
      simp only [List.mem_filter, decide_eq_true_eq, and_imp, exists_loadDelta_iff]
    · constructor
      · intro _ d hd hnext
        obtain ⟨hi', hhi', hd'⟩ := version_le_maxDeltaVersion hd
        rw [hm] at hhi'
        cases hhi'
        omega
      · intro _
        by_cases h0 : hi = 0 <;> simp [Option.filter_some, h0, hle]

/-- A client of another session reloads. -/
theorem findNextVersion_of_session_ne (h : c.lastStatus.sessionId ≠ some unf.sessionId) :
    c.findNextVersion unf none = .ok none := by
  unfold findNextVersion
  simp only [Option.filter_none]
  split
  · rfl
  · split
    · next sessionId _ hsession _ =>
      rw [if_pos fun he ↦ h (hsession.trans (congrArg some he.symm))]
    · rfl

/-- After the snapshot, the next version is the one after it unless the deltas start later. -/
theorem findNextVersion_snapshot :
    c.findNextVersion unf (some unf.snapshot.version) =
      .ok (if ∀ lo ∈ unf.minDeltaVersion, lo ≤ unf.snapshot.version + 1
        then some (unf.snapshot.version + 1) else none) := by
  have hpos := unf.snapshot.version_pos
  have hfilter : (some unf.snapshot.version).filter (· ≠ 0) = some unf.snapshot.version := by
    simp [Option.filter_some, Nat.pos_iff_ne_zero.mp hpos]
  have hle : unf.snapshot.version ≤ unf.version := by
    rw [unf.version_eq]
    exact Nat.le_max_left _ _
  unfold findNextVersion
  rw [hfilter]
  refine nextVersionAfter_eq_ok_iff.mpr ⟨hle, ?_⟩
  split
  · next h => exact Or.inr ⟨rfl, h⟩
  · next h =>
    push Not at h
    exact Or.inl ⟨rfl, h⟩

/-- A recorded run passed the history check. -/
private theorem historyAgrees_of_recordRun {usedKey : String} {loaded deferred : Bool}
    {loads : List FileLoad} {run : ClientRun}
    (h : c.recordRun unf usedKey loaded deferred loads = .ok run) : c.HistoryAgrees unf := by
  obtain ⟨files, hfiles, -⟩ := bind_eq_ok_iff.mp h
  exact (validateAggregate_eq_ok_iff.mp hfiles).1

/-- A run that passes the history check records its loads and the session. -/
private theorem exists_recordRun (usedKey : String) (loaded deferred : Bool)
    (loads : List FileLoad) (h : c.HistoryAgrees unf) :
    ∃ run, c.recordRun unf usedKey loaded deferred loads = .ok run ∧
      run.hasLoadedSnapshot = loaded ∧ run.loads = loads ∧
      run.newStatus.sessionId = some unf.sessionId :=
  ⟨_, bind_eq_ok_iff.mpr ⟨_, validateAggregate_eq_ok_iff.mpr ⟨h, rfl⟩, rfl⟩, rfl, rfl, rfl⟩

/-- Whatever a run loads, it succeeds only after the history check. -/
theorem historyAgrees_of_processUnf {force : Bool} {usedKey : String} {run : ClientRun}
    (h : c.processUnf r force unf usedKey = .ok run) : c.HistoryAgrees unf := by
  unfold processUnf at h
  obtain ⟨next, -, h⟩ := bind_eq_ok_iff.mp h
  cases next with
  | some next =>
    obtain ⟨deltas, -, h⟩ := bind_eq_ok_iff.mp h
    exact historyAgrees_of_recordRun h
  | none =>
    obtain ⟨snapshot, -, h⟩ := bind_eq_ok_iff.mp h
    obtain ⟨next, -, h⟩ := bind_eq_ok_iff.mp h
    cases force with
    | false => exact historyAgrees_of_recordRun h
    | true =>
      obtain ⟨deltas, -, h⟩ := bind_eq_ok_iff.mp h
      exact historyAgrees_of_recordRun h

/-- A notification file that rewrites a remembered one does not agree with it. -/
theorem not_historyAgrees_of_rewrites {lastUnf : NRTM4UpdateNotificationFile}
    (hprevious : c.lastStatus.previousFileHashes = some (currentFiles lastUnf))
    (h : Rewrites unf lastUnf) : ¬ c.HistoryAgrees unf := by
  intro hagree
  unfold HistoryAgrees at hagree
  rw [hprevious, Option.getD_some] at hagree
  obtain ⟨hversion, hdiffer⟩ | ⟨d, hd, d', hd', hversion, hdiffer⟩ := h
  · have hsame := hagree _ List.mem_cons_self [lastUnf.snapshot.url, lastUnf.snapshot.hash]
      (by simp [currentFiles, hversion])
    simp only [List.cons.injEq, and_true] at hsame
    exact hdiffer.elim (fun hne ↦ hne hsame.1.symm) fun hne ↦ hne hsame.2.symm
  · have hsame := hagree (deltaReference d.version, [d.url, d.hash])
      (List.mem_cons_of_mem _ (List.mem_map.mpr ⟨d, hd, rfl⟩)) [d'.url, d'.hash]
      (by rw [hversion]; exact lookup_currentFiles_delta lastUnf d' hd')
    simp only [List.cons.injEq, and_true] at hsame
    exact hdiffer.elim (fun hne ↦ hne hsame.1.symm) fun hne ↦ hne hsame.2.symm

/-- A run for a new session reloads exactly if the snapshot file is valid, remembered files
agree, and deltas that are loaded at once follow the snapshot and are valid. -/
private theorem reloadsSession_iff {force : Bool} {usedKey : String}
    (hunf : c.retrieveUnf r = .ok (unf, usedKey))
    (hsession : c.lastStatus.sessionId ≠ some unf.sessionId) :
    c.ReloadsSession r unf force ↔
      c.SnapshotFileValid r unf ∧ c.HistoryAgrees unf ∧
        (force = true → (∀ lo ∈ unf.minDeltaVersion, lo ≤ unf.snapshot.version + 1) ∧
          ∀ d ∈ unf.deltas, unf.snapshot.version < d.version → c.DeltaFileValid r unf d) := by
  have hnext := findNextVersion_of_session_ne hsession
  constructor
  · rintro ⟨run, hrun, -, -, -⟩
    have h := (runClient_eq_ok hunf).mp hrun
    refine ⟨?_, historyAgrees_of_processUnf h, ?_⟩
    all_goals
      unfold processUnf at h
      obtain ⟨next, hfound, h⟩ := bind_eq_ok_iff.mp h
      rw [hnext] at hfound
      cases hfound
      obtain ⟨snapshot, hsnapshot, h⟩ := bind_eq_ok_iff.mp h
    · exact exists_loadSnapshot_iff.mp ⟨snapshot, hsnapshot⟩
    · rintro rfl
      obtain ⟨next, hfound, h⟩ := bind_eq_ok_iff.mp h
      rw [findNextVersion_snapshot] at hfound
      cases hfound
      obtain ⟨deltas, hdeltas, -⟩ := bind_eq_ok_iff.mp h
      split at hdeltas
      · next hlo =>
        exact ⟨hlo, exists_updateFromDeltas_iff (Nat.succ_pos _) |>.mp ⟨deltas, hdeltas⟩⟩
      · next hgap =>
        push Not at hgap
        obtain ⟨lo, hlo, hgap⟩ := hgap
        cases hm : unf.maxDeltaVersion with
        | none =>
          rw [unf.minDeltaVersion_eq_none_iff.mpr hm] at hlo
          cases hlo
        | some hi =>
          have hle := unf.minDeltaVersion_le hlo hm
          have h0 : hi ≠ 0 := by omega
          unfold updateFromDeltas at hdeltas
          rw [hm, Option.filter_some, if_pos (by simpa using h0)] at hdeltas
          cases hdeltas
  · rintro ⟨hsnapshot, hagree, hdeltas⟩
    obtain ⟨snapshot, hsnapshot⟩ := exists_loadSnapshot_iff.mpr hsnapshot
    have hstart {run : ClientRun} (h : (do
        let next ← c.findNextVersion unf (some unf.snapshot.version)
        if force then
          let deltas ← c.updateFromDeltas r unf next
          c.recordRun unf usedKey true false (snapshot :: deltas)
        else c.recordRun unf usedKey true true [snapshot]) = .ok run) :
        c.processUnf r force unf usedKey = .ok run :=
      bind_eq_ok_iff.mpr ⟨none, hnext, bind_eq_ok_iff.mpr ⟨snapshot, hsnapshot, h⟩⟩
    cases force with
    | false =>
      obtain ⟨run, hrun, hloaded, hloads, hid⟩ :=
        exists_recordRun usedKey true true [snapshot] hagree
      refine ⟨run, (runClient_eq_ok hunf).mpr (hstart ?_), hloaded,
        ⟨snapshot, [], hloads, hsnapshot⟩, hid⟩
      rw [findNextVersion_snapshot]
      exact bind_eq_ok_iff.mpr ⟨_, rfl, hrun⟩
    | true =>
      obtain ⟨hlo, hvalid⟩ := hdeltas rfl
      obtain ⟨deltas, hupdate⟩ := exists_updateFromDeltas_iff (Nat.succ_pos _) |>.mpr hvalid
      obtain ⟨run, hrun, hloaded, hloads, hid⟩ :=
        exists_recordRun usedKey true false (snapshot :: deltas) hagree
      refine ⟨run, (runClient_eq_ok hunf).mpr (hstart ?_), hloaded,
        ⟨snapshot, deltas, hloads, hsnapshot⟩, hid⟩
      rw [findNextVersion_snapshot, if_pos hlo]
      exact bind_eq_ok_iff.mpr ⟨_, rfl, bind_eq_ok_iff.mpr ⟨deltas, hupdate, hrun⟩⟩

/-- For a new session, the run reloads it exactly if the files to load are valid and follow
each other and no remembered file has the kind and version of another listed file. Within a
session, a file that was rewritten is always rejected. -/
theorem runClient_history {force : Bool} {usedKey : String}
    (hunf : c.retrieveUnf r = .ok (unf, usedKey)) :
    (c.lastStatus.sessionId ≠ some unf.sessionId →
      (c.ReloadsSession r unf force ↔
        c.SnapshotFileValid r unf ∧ c.HistoryAgrees unf ∧
          (force = true → (∀ lo ∈ unf.minDeltaVersion, lo ≤ unf.snapshot.version + 1) ∧
            ∀ d ∈ unf.deltas, unf.snapshot.version < d.version →
              c.DeltaFileValid r unf d))) ∧
    (∀ lastUnf, c.lastStatus.sessionId = some unf.sessionId →
      c.lastStatus.previousFileHashes = some (currentFiles lastUnf) → Rewrites unf lastUnf →
      ∀ run, c.runClient r force ≠ .ok run) := by
  refine ⟨reloadsSession_iff hunf, fun lastUnf _ hprevious hrewrites run hrun ↦ ?_⟩
  exact not_historyAgrees_of_rewrites hprevious hrewrites
    (historyAgrees_of_processUnf ((runClient_eq_ok hunf).mp hrun))

section Examples

/-- A client at version 7 of session 2 that remembers the snapshot of that version. -/
def clientOfSession2 (url : String) : NRTM4Client :=
  { clientAt 7 with
    lastStatus := ⟨some 2, some 7, some "key", none, some [("snapshot-7", [url, ""])]⟩ }

private theorem snapshotFileValid_at7 (url : String) :
    (clientOfSession2 url).SnapshotFileValid (remoteAt7 [] .snapshot) unfAt7 := by
  have hparse : (Parsers.parseObject plainEnvironment ⟨"TEST".toList, false, false, none⟩
      asSetText.toList).toOption.isSome = true := by decide +kernel
  obtain ⟨outcome, houtcome⟩ := Option.isSome_iff_exists.mp hparse
  refine ⟨_, _, rfl, ⟨_, rfl⟩, fun item hmem ↦ ⟨asSetText, ?_⟩⟩
  rw [List.mem_singleton.mp hmem]
  exact ⟨rfl, (Parsers.parseObject_ok_iff ⟨"TEST".toList, false, false, none⟩ _).mp
    ⟨outcome, toOption_eq_some_iff.mp houtcome⟩⟩

/-- A client at version 7 of the session that remembers the files of a notification file. -/
def clientAfter (lastUnf : NRTM4UpdateNotificationFile) : NRTM4Client :=
  { clientAt 7 with
    lastStatus := ⟨some 1, some 7, some "key", none, some (currentFiles lastUnf)⟩ }

/-- The new session reloads when the remembered snapshot had the same location and hash. A client
of the session itself does not accept that delta 7 has moved. -/
theorem runClient_history_same :
    (clientOfSession2 "snapshot-7").ReloadsSession (remoteAt7 [] .snapshot) unfAt7 false ∧
      ∀ run, (clientAfter unfWithOldDelta7).runClient
        (remoteAt7 [⟨some 7, some "delta-7", some ""⟩] .delta) false ≠ .ok run := by
  have hunf : (clientOfSession2 "snapshot-7").retrieveUnf (remoteAt7 [] .snapshot) =
      .ok (unfAt7, "key") := rfl
  have hmoved : (clientAfter unfWithOldDelta7).retrieveUnf
      (remoteAt7 [⟨some 7, some "delta-7", some ""⟩] .delta) = .ok (unfWithDelta7, "key") := rfl
  refine ⟨((runClient_history hunf).1 (by decide)).mpr ⟨snapshotFileValid_at7 _, ?_, ?_⟩, ?_⟩
  · intro f hmem old hold
    rw [List.mem_singleton.mp hmem] at hold ⊢
    exact (Option.some_inj.mp hold).symm
  · exact fun hforce ↦ absurd hforce Bool.false_ne_true
  · refine (runClient_history hmoved).2 unfWithOldDelta7 rfl rfl (.inr ?_)
    exact ⟨_, List.mem_singleton_self _, _, List.mem_singleton_self _, rfl, .inl (by decide)⟩

/-- A new session whose snapshot has the version of a remembered one, at another location, is
taken for rewritten history, and the run fails although its file is valid. -/
theorem runClient_history_otherSession :
    ∃ (c : NRTM4Client) (r : Remote) (unf : NRTM4UpdateNotificationFile),
      c.retrieveUnf r = .ok (unf, "key") ∧ c.lastStatus.sessionId ≠ some unf.sessionId ∧
        c.SnapshotFileValid r unf ∧ unf.deltas = [] ∧ ¬ c.ReloadsSession r unf false := by
  refine ⟨clientOfSession2 "old-snapshot-7", remoteAt7 [] .snapshot, unfAt7, rfl, by decide,
    snapshotFileValid_at7 _, rfl, ?_⟩
  rintro ⟨run, hrun, -⟩
  cases hrun

end Examples

end Irrd.Mirroring.NRTM4Client
