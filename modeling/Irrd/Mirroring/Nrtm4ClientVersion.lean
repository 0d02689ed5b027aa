import Irrd.Mirroring.Nrtm4Client

/-!
# Versions recorded by the NRTMv4 client

What a successful run loaded, compared with the version it records. A run either starts
from the snapshot or continues from the last recorded version; in the second case the
recorded version is that of the notification file, whether or not its deltas reach it.
-/

namespace Irrd.Mirroring.NRTM4Client

open Irrd.Base Irrd.Rpsl Irrd.Storage

variable (c : NRTM4Client) (r : Remote) (unf : NRTM4UpdateNotificationFile)

/-- These loads are the deltas with the given number of consecutive versions, in order. -/
def AppliedDeltas (first count : Nat) (loads : List FileLoad) : Prop :=
  List.Forall₂ (fun version load ↦
      ∃ d ∈ unf.deltas, d.version = version ∧ c.loadDelta r unf d = .ok load)
    (List.range' first count) loads

/-- The content of the recorded version was applied: the snapshot and every later delta, or
every delta after the last version, or nothing at an unchanged version. -/
def VersionApplied (run : ClientRun) : Prop :=
  ∃ v, run.newStatus.version = some v ∧
    ((∃ snapshot deltas, run.loads = snapshot :: deltas ∧ c.loadSnapshot r unf = .ok snapshot ∧
        unf.snapshot.version ≤ v ∧
        c.AppliedDeltas r unf (unf.snapshot.version + 1) (v - unf.snapshot.version) deltas) ∨
      (∃ last, c.lastStatus.version = some last ∧ last ≤ v ∧
        c.AppliedDeltas r unf (last + 1) (v - last) run.loads) ∨
      (run.loads = [] ∧ c.lastStatus.version = some v))

/-- The client continues the session of the file from its last version, without a snapshot. -/
structure ContinuesFrom (last : Nat) : Prop where
  noForce : c.forceReload = false
  session : c.lastStatus.sessionId = some unf.sessionId
  version : c.lastStatus.version = some last
  pos : 0 < last
  notOlder : last ≤ unf.version
  available : ∀ lo ∈ unf.minDeltaVersion, lo ≤ last + 1

/-- The client continues without a snapshot, and both its last version and every listed delta
are before the snapshot's version. -/
def VersionSkipped : Prop :=
  ∃ last, c.ContinuesFrom unf last ∧ last < unf.snapshot.version ∧
    ∀ hi ∈ unf.maxDeltaVersion, hi < unf.snapshot.version

section Loads

variable {c r unf}

/-- A loaded snapshot has the version that the file lists. -/
theorem loadSnapshot_eq_ok {load : FileLoad} (h : c.loadSnapshot r unf = .ok load) :
    load.kind = .snapshot ∧ load.version = unf.snapshot.version := by
  unfold loadSnapshot at h
  obtain ⟨items, -, h⟩ := bind_eq_ok_iff.mp h
  cases items with
  | nil => cases h
  | cons header items =>
    obtain ⟨-, -, h⟩ := bind_eq_ok_iff.mp h
    obtain ⟨imports, -, h⟩ := bind_eq_ok_iff.mp h
    cases h
    exact ⟨rfl, rfl⟩

/-- A loaded delta has the version of its reference. -/
theorem loadDelta_eq_ok {delta : NRTM4FileReference} {load : FileLoad}
    (h : c.loadDelta r unf delta = .ok load) :
    load.kind = .delta ∧ load.version = delta.version := by
  unfold loadDelta at h
  obtain ⟨items, -, h⟩ := bind_eq_ok_iff.mp h
  cases items with
  | nil => cases h
  | cons header items =>
    obtain ⟨header, -, h⟩ := bind_eq_ok_iff.mp h
    obtain ⟨calls, -, h⟩ := bind_eq_ok_iff.mp h
    obtain ⟨-, h⟩ := ite_error_eq_ok_iff.mp h
    cases h
    exact ⟨rfl, rfl⟩

/-- Applied deltas are no snapshot. -/
theorem AppliedDeltas.kind {first count : Nat} {loads : List FileLoad}
    (h : c.AppliedDeltas r unf first count loads) : ∀ load ∈ loads, load.kind = .delta := by
  unfold AppliedDeltas at h
  generalize List.range' first count = versions at h
  induction h with
  | nil => simp
  | cons hload _ ih =>
    obtain ⟨d, -, -, hload⟩ := hload
    exact List.forall_mem_cons.mpr ⟨(loadDelta_eq_ok hload).1, ih⟩

/-- As many deltas are applied as there are versions. -/
theorem AppliedDeltas.length {first count : Nat} {loads : List FileLoad}
    (h : c.AppliedDeltas r unf first count loads) : loads.length = count := by
  have hl := List.Forall₂.length_eq h
  simpa using hl.symm

end Loads

private theorem filter_ne_zero {n : Nat} (h : 0 < n) : (some n).filter (· ≠ 0) = some n := by
  simp [Option.filter_some, Nat.pos_iff_ne_zero.mp h]

/-- Consecutive numbers from a later start. -/
private theorem filter_range'_le (lo n next : Nat) (h : lo ≤ next) :
    (List.range' lo n).filter (next ≤ ·) = List.range' next (lo + n - next) := by
  induction n generalizing lo with
  | zero =>
    have hz : lo + 0 - next = 0 := by omega
    rw [hz]
    rfl
  | succ n ih =>
    rw [List.range'_succ, List.filter_cons]
    by_cases hn : next = lo
    · subst hn
      have hall : (List.range' (next + 1) n).filter (next ≤ ·) = List.range' (next + 1) n := by
        rw [List.filter_eq_self]
        intro a ha
        have := List.mem_range'_1.mp ha
        simp only [decide_eq_true_eq]
        omega
      have hcount : next + (n + 1) - next = n + 1 := by omega
      rw [hall, hcount, List.range'_succ]
      simp
    · have hlt : ¬ next ≤ lo := by omega
      have hcount : lo + 1 + n - next = lo + (n + 1) - next := by omega
      rw [if_neg (by simpa using hlt), ih (lo + 1) (by omega), hcount]

/-- The deltas from a version on, when the listed ones start no later. -/
private theorem filter_deltaVersions {hi next : Nat} (hhi : unf.maxDeltaVersion = some hi)
    (hlo : ∀ lo ∈ unf.minDeltaVersion, lo ≤ next) :
    (unf.deltas.filter (fun d ↦ next ≤ d.version)).map NRTM4FileReference.version =
      List.range' next (hi + 1 - next) := by
  cases hm : unf.minDeltaVersion with
  | none =>
    rw [unf.minDeltaVersion_eq_none_iff.mp hm] at hhi
    cases hhi
  | some lo =>
    have hle := unf.minDeltaVersion_le hm hhi
    have hcount : lo + (hi + 1 - lo) - next = hi + 1 - next := by omega
    rw [← hcount, ← filter_range'_le lo _ next (hlo lo hm), ← unf.deltaVersions_eq hm hhi,
      List.filter_map]
    rfl

variable {c r unf}

/-- Updating from deltas applies every delta from the next version to the last listed one. -/
theorem updateFromDeltas_eq_ok {next : Nat} {loads : List FileLoad} (hpos : 0 < next)
    (hlo : ∀ lo ∈ unf.minDeltaVersion, lo ≤ next)
    (h : c.updateFromDeltas r unf (some next) = .ok loads) :
    c.AppliedDeltas r unf next (unf.maxDeltaVersion.getD 0 + 1 - next) loads := by
  unfold updateFromDeltas at h
  cases hm : unf.maxDeltaVersion with
  | none =>
    rw [hm] at h
    cases h
    have hz : 0 + 1 - next = 0 := by omega
    rw [Option.getD_none, hz]
    exact List.Forall₂.nil
  | some hi =>
    rw [hm] at h
    by_cases h0 : hi = 0
    · subst h0
      cases h
      have hz : 0 + 1 - next = 0 := by omega
      rw [Option.getD_some, hz]
      exact List.Forall₂.nil
    · rw [filter_ne_zero (Nat.pos_iff_ne_zero.mpr h0)] at h
      dsimp only at h
      rw [Option.getD_some]
      split at h
      · have hf := mapM_eq_ok_iff.mp h
        rw [AppliedDeltas, ← filter_deltaVersions unf hm hlo, List.forall₂_map_left_iff]
        refine List.Forall₂.imp ?_ ((List.forall₂_and_left _ _).mpr ⟨fun d hd ↦ hd, hf⟩)
        rintro d load ⟨hd, hload⟩
        exact ⟨d, (List.mem_filter.mp hd).1, rfl, hload⟩
      · next hgt =>
        cases h
        have hz : hi + 1 - next = 0 := by omega
        rw [hz]
        exact List.Forall₂.nil

/-- A version compares with the file: older than no listed delta requires, or a reload. -/
theorem nextVersionAfter_eq_ok_iff {last : Nat} {next : Option Nat} :
    c.nextVersionAfter unf last = .ok next ↔
      last ≤ unf.version ∧
        ((next = none ∧ ∃ lo ∈ unf.minDeltaVersion, last + 1 < lo) ∨
          (next = some (last + 1) ∧ ∀ lo ∈ unf.minDeltaVersion, lo ≤ last + 1)) := by
  unfold nextVersionAfter
  rw [ite_error_eq_ok_iff, Nat.not_lt]
  refine and_congr_right fun _ ↦ ?_
  cases hm : unf.minDeltaVersion with
  | none => simp [eq_comm]
  | some lo =>
    by_cases hgap : last + 1 < lo
    · have hc : lo ≠ 0 ∧ lo > last + 1 := ⟨by omega, hgap⟩
      simp [hc, eq_comm]
    · have hc : ¬ (lo ≠ 0 ∧ lo > last + 1) := fun h ↦ hgap h.2
      have hle : lo ≤ last + 1 := by omega
      simp [hc, hle, eq_comm]

/-- The client continues with the next version exactly if the session continues. -/
theorem findNextVersion_eq_some_iff {next : Nat} :
    c.findNextVersion unf none = .ok (some next) ↔
      ∃ last, c.ContinuesFrom unf last ∧ next = last + 1 := by
  constructor
  · intro h
    unfold findNextVersion at h
    simp only [Option.filter_none] at h
    split at h
    · cases h
    · next hforce =>
      split at h
      · next sessionId last hsession hversion =>
        split at h
        · cases h
        · next heq =>
          obtain ⟨hv, hpos⟩ := Option.filter_eq_some_iff.mp hversion
          obtain ⟨hle, ⟨hnone, -⟩ | ⟨hnext, hlo⟩⟩ := nextVersionAfter_eq_ok_iff.mp h
          · cases hnone
          · refine ⟨last, ⟨by simpa using hforce, ?_, hv, ?_, hle, hlo⟩, by simpa using hnext⟩
            · rw [hsession, not_not.mp heq]
            · simpa [Nat.pos_iff_ne_zero] using hpos
      · cases h
  · rintro ⟨last, hc, rfl⟩
    have hnext := (nextVersionAfter_eq_ok_iff (c := c)).mpr
      ⟨hc.notOlder, Or.inr ⟨rfl, hc.available⟩⟩
    unfold findNextVersion
    rw [hc.noForce, hc.session, hc.version, filter_ne_zero hc.pos]
    simpa using hnext

/-- What a successful run loaded. -/
theorem processUnf_eq_ok {force : Bool} {usedKey : String} {run : ClientRun}
    (h : c.processUnf r force unf usedKey = .ok run) :
    (∃ last, c.ContinuesFrom unf last ∧ run.newStatus.version = some unf.version ∧
        c.AppliedDeltas r unf (last + 1) (unf.maxDeltaVersion.getD 0 - last) run.loads) ∨
      ((¬ ∃ last, c.ContinuesFrom unf last) ∧ ∃ v snapshot deltas,
        run.newStatus.version = some v ∧ run.loads = snapshot :: deltas ∧
        c.loadSnapshot r unf = .ok snapshot ∧ unf.snapshot.version ≤ v ∧
        c.AppliedDeltas r unf (unf.snapshot.version + 1) (v - unf.snapshot.version) deltas) := by
  unfold processUnf at h
  obtain ⟨next, hnext, h⟩ := bind_eq_ok_iff.mp h
  cases next with
  | some next =>
    obtain ⟨last, hc, rfl⟩ := findNextVersion_eq_some_iff.mp hnext
    obtain ⟨deltas, hdeltas, h⟩ := bind_eq_ok_iff.mp h
    obtain ⟨files, -, h⟩ := bind_eq_ok_iff.mp h
    cases h
    have happlied := updateFromDeltas_eq_ok (Nat.succ_pos last) hc.available hdeltas
    rw [Nat.add_sub_add_right] at happlied
    exact Or.inl ⟨last, hc, rfl, happlied⟩
  | none =>
    refine Or.inr ⟨?_, ?_⟩
    · intro hlast
      obtain ⟨last, hc⟩ := hlast
      rw [findNextVersion_eq_some_iff.mpr ⟨last, hc, rfl⟩] at hnext
      cases hnext
    · obtain ⟨snapshot, hsnapshot, h⟩ := bind_eq_ok_iff.mp h
      obtain ⟨next, hnext, h⟩ := bind_eq_ok_iff.mp h
      cases force with
      | false =>
        obtain ⟨files, -, h⟩ := bind_eq_ok_iff.mp h
        cases h
        refine ⟨_, snapshot, [], rfl, rfl, hsnapshot, Nat.le_refl _, ?_⟩
        rw [if_pos rfl, Nat.sub_self]
        exact List.Forall₂.nil
      | true =>
        obtain ⟨deltas, hdeltas, h⟩ := bind_eq_ok_iff.mp h
        obtain ⟨files, -, h⟩ := bind_eq_ok_iff.mp h
        cases h
        have hv := unf.version_eq
        refine ⟨_, snapshot, deltas, rfl, rfl, hsnapshot, ?_, ?_⟩
        · rw [if_neg Bool.false_ne_true]
          omega
        · have hpos := unf.snapshot.version_pos
          unfold findNextVersion at hnext
          rw [filter_ne_zero hpos] at hnext
          obtain ⟨-, ⟨rfl, lo, hlo, hgap⟩ | ⟨rfl, hlo⟩⟩ := nextVersionAfter_eq_ok_iff.mp hnext
          · -- A second decision for the snapshot is compared with the last delta and fails.
            cases hm : unf.maxDeltaVersion with
            | none =>
              rw [unf.minDeltaVersion_eq_none_iff.mpr hm] at hlo
              cases hlo
            | some hi =>
              have hle := unf.minDeltaVersion_le hlo hm
              unfold updateFromDeltas at hdeltas
              rw [hm, filter_ne_zero (by omega)] at hdeltas
              cases hdeltas
          · have happlied := updateFromDeltas_eq_ok (Nat.succ_pos _) hlo hdeltas
            have hcount : unf.maxDeltaVersion.getD 0 + 1 - (unf.snapshot.version + 1) =
                unf.version - unf.snapshot.version := by omega
            rw [hcount] at happlied
            exact happlied

/-- A successful run is a successful run on the retrieved file. -/
theorem runClient_eq_ok {force : Bool} {usedKey : String} {run : ClientRun}
    (hunf : c.retrieveUnf r = .ok (unf, usedKey)) :
    c.runClient r force = .ok run ↔ c.processUnf r force unf usedKey = .ok run := by
  have hinner : c.runClientInner r force = c.processUnf r force unf usedKey := by
    simp [runClientInner, hunf, bind, Except.bind]
  unfold runClient
  rw [hinner]
  split <;> simp_all

/-- A successful run applied the content of the version it records exactly if it does not
continue a session from before the snapshot with deltas that end before the snapshot. -/
theorem runClient_versionApplied_iff {force : Bool} {usedKey : String} {run : ClientRun}
    (hunf : c.retrieveUnf r = .ok (unf, usedKey)) (hrun : c.runClient r force = .ok run) :
    c.VersionApplied r unf run ↔ ¬ c.VersionSkipped unf := by
  have hv := unf.version_eq
  obtain ⟨last, hc, hversion, hloads⟩ | ⟨hnot, v, snapshot, deltas, hversion, hruns⟩ :=
    processUnf_eq_ok ((runClient_eq_ok hunf).mp hrun)
  · have hle := hc.notOlder
    constructor
    · rintro ⟨v, hrecorded, happlied⟩ ⟨last', hc', hlast, hdeltas⟩
      have hlast' : last' = last := Option.some_inj.mp (hc'.version.symm.trans hc.version)
      have hv' : v = unf.version := Option.some_inj.mp (hrecorded.symm.trans hversion)
      have hhi : unf.maxDeltaVersion.getD 0 < unf.snapshot.version := by
        cases hm : unf.maxDeltaVersion with
        | none => exact unf.snapshot.version_pos
        | some hi => exact hdeltas hi hm
      obtain ⟨snapshot, deltas, hcons, hsnapshot, -⟩ | ⟨l, hl, -, hcount⟩ | ⟨-, hsame⟩ := happlied
      · have hkind := hloads.kind snapshot (by rw [hcons]; exact List.mem_cons_self)
        rw [(loadSnapshot_eq_ok hsnapshot).1] at hkind
        cases hkind
      · have hl' : l = last := Option.some_inj.mp (hl.symm.trans hc.version)
        have hlen := hloads.length.symm.trans hcount.length
        omega
      · have hsame' : v = last := Option.some_inj.mp (hsame.symm.trans hc.version)
        omega
    · intro hskip
      have hreach : last < unf.snapshot.version →
          unf.snapshot.version ≤ unf.maxDeltaVersion.getD 0 := by
        intro hlt
        by_contra hshort
        refine hskip ⟨last, hc, hlt, fun hi hhi ↦ ?_⟩
        rw [Option.mem_def.mp hhi, Option.getD_some] at hshort
        omega
      have hcount : unf.maxDeltaVersion.getD 0 - last = unf.version - last := by omega
      exact ⟨unf.version, hversion, Or.inr (Or.inl ⟨last, hc.version, hle, hcount ▸ hloads⟩)⟩
  · constructor
    · rintro - ⟨last, hc, -⟩
      exact hnot ⟨last, hc⟩
    · intro _
      exact ⟨v, hversion, Or.inl ⟨snapshot, deltas, hruns⟩⟩

section Examples

/-- The text of an object of the mirrored source. -/
def asSetText : String := "as-set: AS-TEST\nsource: TEST"

/-- A remote whose notification file has version 7: a snapshot 7 and the given deltas. Every
file holds one object. -/
def remoteAt7 (deltas : List FileReferenceFields) (file : RepositoryFileKind) : Remote where
  env := plainEnvironment
  now := 0
  retrieveContents _ := .ok "signed"
  retrieve ref := .ok ⟨[], [
    .object [] ⟨some 4, some "TEST", some 1, some ref.version,
      some (match file with | .snapshot => "snapshot" | .delta => "delta")⟩,
    .object [("action", .str "add_modify"), ("object", .str asSetText)]
      ⟨none, none, none, none, none⟩]⟩
  keyValid _ := true
  jwsDeserialize content _ := .ok content
  parseNotification _ := .ok ⟨some 4, some "TEST", some 1, some 7, some "notification", some 0,
    ⟨some 7, some "snapshot-7", some ""⟩, deltas, none⟩

/-- The notification file of that remote without deltas. -/
def unfAt7 : NRTM4UpdateNotificationFile :=
  ⟨"TEST", 1, 7, 0, ⟨7, "snapshot-7", "", by decide⟩, [], none, by decide, by rfl⟩

/-- The notification file of that remote with delta 7. -/
def unfWithDelta7 : NRTM4UpdateNotificationFile :=
  ⟨"TEST", 1, 7, 0, ⟨7, "snapshot-7", "", by decide⟩, [⟨7, "delta-7", "", by decide⟩], none,
    by decide, by rfl⟩

/-- A notification file of that session with delta 7 at another location. -/
def unfWithOldDelta7 : NRTM4UpdateNotificationFile :=
  ⟨"TEST", 1, 7, 0, ⟨7, "snapshot-7", "", by decide⟩, [⟨7, "old-delta-7", "", by decide⟩], none,
    by decide, by rfl⟩

/-- A client of that session at the given version. -/
def clientAt (version : Nat) : NRTM4Client :=
  ⟨"TEST", false, some "https://example.net/update-notification-file.jose", some "key", [], false,
    false, ⟨some 1, some version, some "key", none, none⟩⟩

/-- What a client at version 6 does with delta 7. -/
def runFrom6 : ClientRun where
  loads := [⟨.delta, 7, [.saveOperation
    ⟨"TEST", .addOrUpdate, "1/D7", asSetText, "", "", false, []⟩]⟩]
  newStatus := ⟨some 1, some 7, some "key", none,
    some [("snapshot-7", ["snapshot-7", ""]), ("delta-7", ["delta-7", ""])]⟩
  hasLoadedSnapshot := false

/-- A client at version 6 that loads delta 7 has the content of version 7. -/
theorem runClient_versionApplied_from6 :
    (clientAt 6).VersionApplied (remoteAt7 [⟨some 7, some "delta-7", some ""⟩] .delta)
      unfWithDelta7 runFrom6 := by
  have hunf : (clientAt 6).retrieveUnf (remoteAt7 [⟨some 7, some "delta-7", some ""⟩] .delta) =
      .ok (unfWithDelta7, "key") := rfl
  have hrun : (clientAt 6).runClient (remoteAt7 [⟨some 7, some "delta-7", some ""⟩] .delta)
      false = .ok runFrom6 := rfl
  rw [runClient_versionApplied_iff hunf hrun]
  rintro ⟨last, -, -, hshort⟩
  exact absurd (hshort 7 rfl) (by decide)

/-- What a client at version 5 does when only the snapshot of version 7 is listed. -/
def runFrom5 : ClientRun where
  loads := []
  newStatus := ⟨some 1, some 7, some "key", none, some [("snapshot-7", ["snapshot-7", ""])]⟩
  hasLoadedSnapshot := false

/-- A client at version 5 that is offered the snapshot of version 7 and no delta records
version 7 although it loads nothing. -/
theorem runClient_not_versionApplied :
    ∃ (c : NRTM4Client) (r : Remote) (unf : NRTM4UpdateNotificationFile) (run : ClientRun),
      c.retrieveUnf r = .ok (unf, "key") ∧ c.runClient r false = .ok run ∧
        run.loads = [] ∧ c.lastStatus.version = some 5 ∧ run.newStatus.version = some 7 ∧
        ¬ c.VersionApplied r unf run := by
  refine ⟨clientAt 5, remoteAt7 [] .snapshot, unfAt7, runFrom5, rfl, rfl, rfl, rfl, rfl, ?_⟩
  rintro ⟨v, hv, ⟨snapshot, deltas, hloads, -⟩ | ⟨last, hlast, -, hcount⟩ | ⟨-, hsame⟩⟩
  · cases hloads
  · cases hlast
    cases hv
    cases hcount
  · rw [show runFrom5.newStatus.version = some 7 from rfl] at hv
    cases hv
    cases hsame

end Examples

end Irrd.Mirroring.NRTM4Client
