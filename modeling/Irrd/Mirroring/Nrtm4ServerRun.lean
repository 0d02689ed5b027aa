import Irrd.Base.Reaches
import Irrd.Mirroring.Nrtm4Server

/-!
# Runs of the NRTMv4 server

A server that runs at non-decreasing times, with arbitrary changes of the journal and the
objects between runs. The invariant relates the version, the snapshot and the remaining
deltas. It survives a run as long as no delta that the snapshot still needs has expired.
-/

namespace Irrd.Mirroring

open Irrd.Base Irrd.Storage

/-- A repository and the time of the last run on it. -/
structure ServerState where
  repository : Repository
  lastRun : Nat

/-- What happens to a repository: changes of the database, or a run of the server. -/
inductive ServerAction
  | change (journal : List RPSLDatabaseJournal) (objects : List RPSLDatabaseObject)
  | run (timestamp : Nat) (input : RunInput)

/-- One action. A run that raises an exception, or runs before the last one, is no step. -/
def serverStep (s : NRTM4ServerSettings) (state : ServerState) :
    ServerAction → Option ServerState
  | .change journal objects =>
    some { state with repository := { state.repository with journal, objects } }
  | .run timestamp input =>
    if timestamp < state.lastRun then none
    else
      match NRTM4ServerWriter.run s state.repository timestamp input with
      | .ok repository => some ⟨repository, timestamp⟩
      | .error _ => none

/-- No delta after the snapshot's version is older than the expiry time. -/
def NeededDeltasFresh (w : Repository) (timestamp : Nat) : Prop :=
  ∀ row ∈ w.status, ∀ snapshotVersion ∈ row.nrtm4Server.lastSnapshotVersion,
    ∀ d ∈ row.nrtm4Server.previousDeltas, snapshotVersion < d.version →
      NRTM4ServerWriter.deltaExpired timestamp d = false

/-- Runs happen while the deltas that the snapshot needs are fresh. -/
def RunGuard (state : ServerState) : ServerAction → Prop
  | .change _ _ => True
  | .run timestamp _ => NeededDeltasFresh state.repository timestamp

/-- A source that has a status row without an NRTMv4 session yet. -/
def InitialState (state : ServerState) : Prop :=
  ∃ row, state.repository.status = some row ∧ row.forceReload = false ∧
    row.nrtm4Server.sessionId = none

/-- The listed deltas end at the version, and lead there from the snapshot. -/
def NRTM4UpdateNotificationFile.DeltasReach (unf : NRTM4UpdateNotificationFile) : Prop :=
  (∀ hi ∈ unf.maxDeltaVersion, hi = unf.version) ∧
    ∀ v, unf.snapshot.version < v → v ≤ unf.version →
      v ∈ unf.deltas.map NRTM4FileReference.version

/-- The version of a session grows by one for each delta that is added, and deltas are only
ever added at the end. -/
def VersionGrows (st st' : NRTM4ServerDatabaseStatus) : Prop :=
  ∃ version added kept, st.version = some version ∧ st'.version = some (version + added.length) ∧
    st'.previousDeltas = kept ++ added ∧ kept.Sublist st.previousDeltas ∧
    added.map PreviousDelta.version = List.range' (version + 1) added.length

/-- What a run does: it publishes at least one notification file, from each of which a client
that loads the snapshot reaches the version, the last one at the version of the new status;
and within a session, the version grows with the deltas. -/
def RunPublishes (w w' : Repository) : Prop :=
  ∃ row' latest earlier, w'.status = some row' ∧
    w'.published = latest :: earlier ++ w.published ∧
    (∀ unf ∈ latest :: earlier, unf.DeltasReach) ∧
    row'.nrtm4Server.version = some latest.version ∧
    row'.nrtm4Server.sessionId = some latest.sessionId ∧
    ∀ row ∈ w.status, row.nrtm4Server.sessionId = row'.nrtm4Server.sessionId →
      VersionGrows row.nrtm4Server row'.nrtm4Server

namespace NRTM4ServerWriter

/-- The relation between the parts of a session's status and the repository directory. -/
structure SessionInvariant (files : List RepositoryFile) (last : Nat)
    (st : NRTM4ServerDatabaseStatus) (version snapshotVersion : Nat) : Prop where
  session : st.sessionId.isSome
  version_eq : st.version = some version
  snapshotVersion_eq : st.lastSnapshotVersion = some snapshotVersion
  snapshotVersion_pos : 0 < snapshotVersion
  snapshotVersion_le : snapshotVersion ≤ version
  snapshotSerial : st.lastSnapshotGlobalSerial.isSome
  snapshotTimestamp : st.lastSnapshotTimestamp.isSome
  snapshotHash : st.lastSnapshotHash.isSome
  snapshotFile : ∃ name, st.lastSnapshotFilename = some name ∧ name.kind = .snapshot ∧
    ∃ f ∈ files, f.name = name
  contiguous : ∃ lo n, st.previousDeltas.map PreviousDelta.version = List.range' lo n ∧
    lo + n = version + 1 ∧ 0 < lo ∧ lo ≤ snapshotVersion + 1
  sorted : st.previousDeltas.Pairwise (fun d d' ↦ d.timestamp ≤ d'.timestamp)
  past : ∀ d ∈ st.previousDeltas, d.timestamp ≤ last
  deltaFile : ∀ d ∈ st.previousDeltas, d.filename.kind = .delta ∧
    d.filename.version = d.version ∧ ∃ f ∈ files, f.name = d.filename

section Expiry

/-- Unlinking distinct existing files leaves the others. -/
theorem foldlM_unlink (files : List RepositoryFile) {names : List RepositoryFileName}
    (hnodup : names.Nodup) (hfiles : ∀ name ∈ names, ∃ f ∈ files, f.name = name) :
    names.foldlM unlink files = .ok (files.filter (fun f ↦ f.name ∉ names)) := by
  induction names generalizing files with
  | nil => simp [pure, Except.pure]
  | cons name names ih =>
    obtain ⟨hnot, hnodup⟩ := List.nodup_cons.mp hnodup
    have hany : files.any (fun f ↦ f.name = name) = true := by
      obtain ⟨f, hf, hname⟩ := hfiles name List.mem_cons_self
      exact List.any_eq_true.mpr ⟨f, hf, by simpa using hname⟩
    have hrest : ∀ other ∈ names, ∃ f ∈ files.filter (fun f ↦ f.name ≠ name),
        f.name = other := by
      intro other hother
      obtain ⟨f, hf, rfl⟩ := hfiles other (List.mem_cons_of_mem _ hother)
      refine ⟨f, List.mem_filter.mpr ⟨hf, ?_⟩, rfl⟩
      simpa using fun he : f.name = name ↦ hnot (he ▸ hother)
    rw [List.foldlM_cons, unlink, if_pos hany]
    refine (ih _ hnodup hrest).trans ?_
    rw [List.filter_filter]
    congr 2
    funext f
    by_cases hf : f.name = name <;> simp [hf]

/-- Of deltas with consecutive versions and non-decreasing times, the fresh ones are the last
consecutive versions. -/
theorem filter_fresh (timestamp : Nat) {deltas : List PreviousDelta} {lo n : Nat}
    (hversions : deltas.map PreviousDelta.version = List.range' lo n)
    (hsorted : deltas.Pairwise (fun d d' ↦ d.timestamp ≤ d'.timestamp)) :
    ∃ lo' n', (deltas.filter (fun d ↦ !deltaExpired timestamp d)).map PreviousDelta.version =
      List.range' lo' n' ∧ lo' + n' = lo + n ∧ lo ≤ lo' := by
  induction deltas generalizing lo n with
  | nil =>
    exact ⟨lo, n, hversions, rfl, Nat.le_refl lo⟩
  | cons d deltas ih =>
    cases n with
    | zero => simp at hversions
    | succ n =>
      obtain ⟨hd, hsorted⟩ := List.pairwise_cons.mp hsorted
      rw [List.map_cons, List.range'_succ] at hversions
      obtain ⟨hhead, htail⟩ := List.cons_eq_cons.mp hversions
      cases hexpired : deltaExpired timestamp d with
      | true =>
        obtain ⟨lo', n', hfilter, hsum, hle⟩ := ih htail hsorted
        refine ⟨lo', n', ?_, by omega, by omega⟩
        simpa [hexpired] using hfilter
      | false =>
        -- Later deltas are no older, so nothing is filtered out.
        have hall : (d :: deltas).filter (fun d ↦ !deltaExpired timestamp d) = d :: deltas := by
          rw [List.filter_eq_self]
          intro d' hd'
          rcases List.mem_cons.mp hd' with rfl | hmem
          · simp [hexpired]
          · have hle : d.timestamp ≤ d'.timestamp := hd d' hmem
            simp only [deltaExpired, decide_eq_false_iff_not, Bool.not_eq_true',
              Nat.not_lt] at hexpired ⊢
            omega
        refine ⟨lo, n + 1, ?_, rfl, Nat.le_refl lo⟩
        rw [hall, List.map_cons, hhead, htail, List.range'_succ]

end Expiry

section Publish

variable {s : NRTM4ServerSettings} {writer : NRTM4ServerWriter} {w : Repository}
  {st : NRTM4ServerDatabaseStatus} {version snapshotVersion : Nat}

/-- Expiry in a session: the deltas that remain, and the files that are kept. -/
private theorem SessionInvariant.expireDeltas
    (h : SessionInvariant w.files writer.timestamp st version snapshotVersion)
    (hfresh : ∀ d ∈ st.previousDeltas, snapshotVersion < d.version →
      deltaExpired writer.timestamp d = false) :
    ∃ files st', expireDeltas writer w.files st = .ok (files, st') ∧
      SessionInvariant files writer.timestamp st' version snapshotVersion ∧
      st'.sessionId = st.sessionId ∧
      st'.previousDeltas =
        st.previousDeltas.filter (fun d ↦ !deltaExpired writer.timestamp d) := by
  obtain ⟨lo, n, hversions, hsum, hlo, hle⟩ := h.contiguous
  have hnodup : (st.previousDeltas.map PreviousDelta.filename).Nodup := by
    have hv : (st.previousDeltas.map PreviousDelta.version).Nodup :=
      hversions ▸ List.nodup_range'
    refine List.Nodup.of_map RepositoryFileName.version ?_
    rw [List.map_map]
    have hmap : st.previousDeltas.map (RepositoryFileName.version ∘ PreviousDelta.filename) =
        st.previousDeltas.map PreviousDelta.version :=
      List.map_congr_left fun d hd ↦ (h.deltaFile d hd).2.1
    exact hmap ▸ hv
  have hexpiredNodup := (List.filter_sublist (p := deltaExpired writer.timestamp)
    |>.map PreviousDelta.filename).nodup hnodup
  have hunlink := foldlM_unlink w.files hexpiredNodup fun name hname ↦ by
    obtain ⟨d, hd, rfl⟩ := List.mem_map.mp hname
    exact (h.deltaFile d (List.mem_filter.mp hd).1).2.2
  refine ⟨_, _, bind_eq_ok_iff.mpr ⟨_, hunlink, rfl⟩, ?_, rfl, rfl⟩
  have hkept {f : RepositoryFile} (hf : f ∈ w.files)
      (hnot : ∀ d ∈ st.previousDeltas, deltaExpired writer.timestamp d = true →
        d.filename ≠ f.name)
      (hname : f.name.kind ≠ .delta ∨ f.name ∈ (st.previousDeltas.filter
        (fun d ↦ !deltaExpired writer.timestamp d)).map PreviousDelta.filename) :
      f ∈ (w.files.filter (fun f ↦ f.name ∉ (st.previousDeltas.filter
        (deltaExpired writer.timestamp)).map PreviousDelta.filename)).filter (fun f ↦
          f.name.kind ≠ .delta ∨ f.name ∈ (st.previousDeltas.filter
            (fun d ↦ !deltaExpired writer.timestamp d)).map PreviousDelta.filename) := by
    refine List.mem_filter.mpr ⟨List.mem_filter.mpr ⟨hf, ?_⟩, by simpa using hname⟩
    simp only [List.mem_map, List.mem_filter, decide_eq_true_eq]
    rintro ⟨d, ⟨hd, hexpired⟩, he⟩
    exact hnot d hd hexpired he
  refine ⟨h.session, h.version_eq, h.snapshotVersion_eq, h.snapshotVersion_pos,
    h.snapshotVersion_le, h.snapshotSerial, h.snapshotTimestamp, h.snapshotHash, ?_, ?_, ?_, ?_, ?_⟩
  · obtain ⟨name, hname, hkind, f, hf, rfl⟩ := h.snapshotFile
    refine ⟨f.name, hname, hkind, f, hkept hf ?_ (Or.inl (by simp [hkind])), rfl⟩
    intro d hd _ he
    have hd' := (h.deltaFile d hd).1
    rw [he, hkind] at hd'
    cases hd'
  · obtain ⟨lo', n', hfilter, hsum', hle'⟩ := filter_fresh writer.timestamp
      hversions h.sorted
    refine ⟨lo', n', hfilter, by omega, by omega, ?_⟩
    -- The delta after the snapshot is needed, so it is fresh and still listed.
    by_cases hS : snapshotVersion = version
    · omega
    · have hsv := h.snapshotVersion_le
      have hmem : snapshotVersion + 1 ∈ st.previousDeltas.map PreviousDelta.version := by
        rw [hversions]
        exact List.mem_range'_1.mpr ⟨by omega, by omega⟩
      obtain ⟨d, hd, hversion⟩ := List.mem_map.mp hmem
      have hmem' : snapshotVersion + 1 ∈ (st.previousDeltas.filter
          (fun d ↦ !deltaExpired writer.timestamp d)).map PreviousDelta.version :=
        List.mem_map.mpr ⟨d, List.mem_filter.mpr ⟨hd, by
          simp [hfresh d hd (by omega)]⟩, hversion⟩
      rw [hfilter] at hmem'
      exact (List.mem_range'_1.mp hmem').1
  · exact h.sorted.filter _
  · exact fun d hd ↦ h.past d (List.mem_filter.mp hd).1
  · intro d hd
    obtain ⟨hmem, hd'⟩ := List.mem_filter.mp hd
    obtain ⟨hkind, hversion, f, hf, hname⟩ := h.deltaFile d hmem
    refine ⟨hkind, hversion, f, hkept hf ?_ (Or.inr ?_), hname⟩
    · intro e he hexpired hsame
      have hde := List.inj_on_of_nodup_map hnodup he hmem (hsame.trans hname)
      subst hde
      simp [hexpired] at hd'
    · exact List.mem_map.mpr ⟨d, hd, hname.symm⟩

/-- A session's status is published: the notification file has its versions, and its deltas
lead from the snapshot to the version. -/
private theorem SessionInvariant.writeUnf {files : List RepositoryFile}
    (h : SessionInvariant files writer.timestamp st version snapshotVersion) :
    ∃ unf, writeUnf s writer st = .ok unf ∧ unf.DeltasReach ∧ unf.version = version ∧
      st.sessionId = some unf.sessionId := by
  obtain ⟨lo, n, hversions, hsum, hlo, hle⟩ := h.contiguous
  have hsv := h.snapshotVersion_le
  have hpos := h.snapshotVersion_pos
  obtain ⟨sessionId, hsession⟩ := Option.isSome_iff_exists.mp h.session
  obtain ⟨hash, hhash⟩ := Option.isSome_iff_exists.mp h.snapshotHash
  obtain ⟨name, hname, -⟩ := h.snapshotFile
  have hdeltaPos : ∀ d ∈ st.previousDeltas, 0 < d.version := by
    intro d hd
    have hmem := List.mem_map_of_mem (f := PreviousDelta.version) hd
    rw [hversions] at hmem
    have hrange := List.mem_range'_1.mp hmem
    omega
  obtain ⟨refs, hrefs, hrefsVersions⟩ := validateReferences_map_eq_ok st.previousDeltas
    PreviousDelta.version (fun d ↦ d.filename.render) PreviousDelta.hash hdeltaPos
  rw [hversions] at hrefsVersions
  have hlast : (List.range' lo n).getLast?.getD 0 = if n = 0 then 0 else version := by
    cases n with
    | zero => rfl
    | succ n =>
      rw [List.getLast?_range', if_neg (Nat.succ_ne_zero n)]
      simp only [Nat.succ_ne_zero, if_false, Option.getD_some]
      omega
  have hconsistent : checkVersionConsistency version snapshotVersion
      (refs.map NRTM4FileReference.version) = .ok () := by
    rw [hrefsVersions]
    refine (checkVersionConsistency_iff _ _ _).mpr ⟨?_, ?_⟩
    · rw [hlast]
      split <;> omega
    · intro lo' hlo' hi' hhi'
      cases n with
      | zero => cases hlo'
      | succ n =>
        rw [List.range'_succ, List.head?_cons, Option.mem_some_iff] at hlo'
        rw [List.getLast?_range', if_neg (Nat.succ_ne_zero n), Option.mem_some_iff] at hhi'
        have hcount : hi' + 1 - lo' = n + 1 := by omega
        rw [hcount, hlo']
  have hsnapshot : (notificationFields s writer st).snapshot.validate =
      .ok ⟨snapshotVersion, name.render, hash, hpos⟩ := by
    simp [notificationFields, h.snapshotVersion_eq, hname, hhash, FileReferenceFields.validate,
      hpos]
  refine ⟨_, NRTM4UpdateNotificationFile.modelValidate_eq_ok (f := notificationFields s writer st)
    rfl rfl rfl hsession h.version_eq rfl hsnapshot hrefs (by simp) (fun _ _ ↦ rfl) (by omega)
    hconsistent, ⟨?_, ?_⟩, rfl, hsession⟩
  · intro hi hhi
    have hget : (refs.map NRTM4FileReference.version).getLast? = some hi := by
      rw [List.getLast?_map]
      exact hhi
    rw [hrefsVersions] at hget
    rw [hget, Option.getD_some] at hlast
    cases n with
    | zero => cases hget
    | succ n => simpa using hlast
  · intro v hv hle'
    change v ∈ refs.map NRTM4FileReference.version
    rw [hrefsVersions]
    exact List.mem_range'_1.mpr ⟨by change snapshotVersion < v at hv; omega,
      by change v ≤ version at hle'; omega⟩

/-- Committing a session's status publishes it and keeps the invariant. -/
private theorem SessionInvariant.commitStatus
    (h : SessionInvariant w.files writer.timestamp st version snapshotVersion)
    (hfresh : ∀ d ∈ st.previousDeltas, snapshotVersion < d.version →
      deltaExpired writer.timestamp d = false) :
    ∃ w' st' unf, commitStatus s writer w st = .ok (w', st') ∧
      w'.status = some ⟨false, st'⟩ ∧ w'.published = unf :: w.published ∧ unf.DeltasReach ∧
      unf.version = version ∧ st'.sessionId = some unf.sessionId ∧
      st'.sessionId = st.sessionId ∧ st'.previousDeltas =
        st.previousDeltas.filter (fun d ↦ !deltaExpired writer.timestamp d) ∧
      SessionInvariant w'.files writer.timestamp st' version snapshotVersion := by
  obtain ⟨files, st₁, hexpire, h₁, hsession, hdeltas⟩ := h.expireDeltas hfresh
  obtain ⟨unf, hunf, hreach, hversion, hid⟩ := h₁.writeUnf (s := s)
  refine ⟨_, _, unf, bind_eq_ok_iff.mpr ⟨_, hexpire, bind_eq_ok_iff.mpr ⟨_, hunf, rfl⟩⟩, rfl, rfl,
    hreach, hversion, hid, hsession, hdeltas, ?_⟩
  have hkept {f : RepositoryFile} (hf : f ∈ files)
      (hname : f.name.kind = .snapshot → some f.name = st₁.lastSnapshotFilename) :
      f ∈ expireSnapshots writer { st₁ with
        lastUpdateNotificationFileUpdate := some unf.timestamp } files := by
    refine List.mem_filter.mpr ⟨hf, ?_⟩
    simp only [decide_not, Bool.not_eq_true', decide_eq_false_iff_not]
    rintro ⟨hkind, -, hne⟩
    exact hne (hname hkind)
  refine ⟨h₁.session, h₁.version_eq, h₁.snapshotVersion_eq, h₁.snapshotVersion_pos,
    h₁.snapshotVersion_le, h₁.snapshotSerial, h₁.snapshotTimestamp, h₁.snapshotHash, ?_,
    h₁.contiguous, h₁.sorted, h₁.past, ?_⟩
  · obtain ⟨name, hname, hkind, f, hf, rfl⟩ := h₁.snapshotFile
    exact ⟨f.name, hname, hkind, f, hkept hf fun _ ↦ hname.symm, rfl⟩
  · intro d hd
    obtain ⟨hkind, hv, f, hf, hname⟩ := h₁.deltaFile d hd
    refine ⟨hkind, hv, f, hkept hf fun hsnapshot ↦ ?_, hname⟩
    rw [hname, hkind] at hsnapshot
    cases hsnapshot

/-- Writing a file keeps a file of every name that was there. -/
private theorem exists_writeFile {files : List RepositoryFile} {file : RepositoryFile}
    {name : RepositoryFileName} (h : ∃ f ∈ files, f.name = name) :
    ∃ f ∈ writeFile files file, f.name = name := by
  obtain ⟨f, hf, rfl⟩ := h
  by_cases hsame : f.name = file.name
  · exact ⟨file, List.mem_cons_self, hsame.symm⟩
  · exact ⟨f, List.mem_cons_of_mem _ (List.mem_filter.mpr ⟨hf, by simpa using hsame⟩), rfl⟩

/-- The invariant survives a file being written, and time passing. -/
private theorem SessionInvariant.mono {files files' : List RepositoryFile} {last last' : Nat}
    (h : SessionInvariant files last st version snapshotVersion) (hlast : last ≤ last')
    (hfiles : ∀ name, (∃ f ∈ files, f.name = name) → ∃ f ∈ files', f.name = name) :
    SessionInvariant files' last' st version snapshotVersion := by
  refine ⟨h.session, h.version_eq, h.snapshotVersion_eq, h.snapshotVersion_pos,
    h.snapshotVersion_le, h.snapshotSerial, h.snapshotTimestamp, h.snapshotHash, ?_,
    h.contiguous, h.sorted, fun d hd ↦ Nat.le_trans (h.past d hd) hlast, ?_⟩
  · obtain ⟨name, hname, hkind, hfile⟩ := h.snapshotFile
    exact ⟨name, hname, hkind, hfiles name hfile⟩
  · intro d hd
    obtain ⟨hkind, hv, hfile⟩ := h.deltaFile d hd
    exact ⟨hkind, hv, hfiles _ hfile⟩

/-- Adding a delta, or finding nothing to add, keeps the invariant; the version grows by the
number of deltas added. -/
private theorem SessionInvariant.addDelta (input : RunInput)
    (h : SessionInvariant w.files writer.timestamp st version snapshotVersion) :
    ∃ w' st' added, addDelta s writer w st input = .ok (w', st') ∧
      w'.published = w.published ∧ st'.sessionId = st.sessionId ∧
      st'.previousDeltas = st.previousDeltas ++ added ∧
      added.map PreviousDelta.version = List.range' (version + 1) added.length ∧
      (∀ d ∈ added, d.timestamp = writer.timestamp) ∧
      SessionInvariant w'.files writer.timestamp st' (version + added.length)
        snapshotVersion := by
  obtain ⟨start, hstart⟩ : ∃ start, serialGlobalStart st = .ok start := by
    obtain ⟨serial, hserial⟩ := Option.isSome_iff_exists.mp h.snapshotSerial
    unfold serialGlobalStart
    rw [hserial]
    cases st.previousDeltas.getLast? with
    | none => exact ⟨_, rfl⟩
    | some d => exact ⟨_, rfl⟩
  obtain ⟨sessionId, hsession⟩ := Option.isSome_iff_exists.mp h.session
  unfold NRTM4ServerWriter.addDelta
  rw [hstart, h.version_eq, hsession]
  dsimp only
  split
  · exact ⟨w, st, [], rfl, rfl, hsession.trans rfl, by simp, rfl, by simp, h⟩
  · obtain ⟨lo, n, hversions, hsum, hlo, hle⟩ := h.contiguous
    have hsv := h.snapshotVersion_le
    refine ⟨_, _, [newDelta writer sessionId (version + 1) start input], rfl, rfl, hsession, rfl,
      rfl, by simp [newDelta], ?_⟩
    refine ⟨h.session, rfl, h.snapshotVersion_eq, h.snapshotVersion_pos,
      Nat.le_succ_of_le hsv, h.snapshotSerial, h.snapshotTimestamp, h.snapshotHash, ?_, ?_, ?_,
      ?_, ?_⟩
    · obtain ⟨name, hname, hkind, hfile⟩ := h.snapshotFile
      exact ⟨name, hname, hkind, exists_writeFile hfile⟩
    · refine ⟨lo, n + 1, ?_, by rw [List.length_singleton]; omega, hlo, hle⟩
      rw [withDelta, List.map_append, hversions, List.range'_1_concat, hsum]
      rfl
    · refine List.pairwise_append.mpr ⟨h.sorted, List.pairwise_singleton _ _, ?_⟩
      intro d hd d' hd'
      rw [List.mem_singleton.mp hd']
      exact h.past d hd
    · intro d hd
      rcases List.mem_append.mp hd with hd | hd
      · exact h.past d hd
      · rw [List.mem_singleton.mp hd]
        exact Nat.le_refl _
    · intro d hd
      rcases List.mem_append.mp hd with hd | hd
      · obtain ⟨hkind, hv, hfile⟩ := h.deltaFile d hd
        exact ⟨hkind, hv, exists_writeFile hfile⟩
      · rw [List.mem_singleton.mp hd]
        exact ⟨rfl, rfl, _, List.mem_cons_self, rfl⟩

/-- What a session's deltas satisfy, whether or not it has a snapshot yet. -/
structure DeltasInvariant (files : List RepositoryFile) (last : Nat)
    (st : NRTM4ServerDatabaseStatus) (version : Nat) : Prop where
  session : st.sessionId.isSome
  version_eq : st.version = some version
  version_pos : 0 < version
  contiguous : ∃ lo n, st.previousDeltas.map PreviousDelta.version = List.range' lo n ∧
    lo + n = version + 1 ∧ 0 < lo
  sorted : st.previousDeltas.Pairwise (fun d d' ↦ d.timestamp ≤ d'.timestamp)
  past : ∀ d ∈ st.previousDeltas, d.timestamp ≤ last
  deltaFile : ∀ d ∈ st.previousDeltas, d.filename.kind = .delta ∧
    d.filename.version = d.version ∧ ∃ f ∈ files, f.name = d.filename

private theorem SessionInvariant.deltas {files : List RepositoryFile} {last : Nat}
    (h : SessionInvariant files last st version snapshotVersion) :
    DeltasInvariant files last st version := by
  obtain ⟨lo, n, hversions, hsum, hlo, -⟩ := h.contiguous
  exact ⟨h.session, h.version_eq, Nat.lt_of_lt_of_le h.snapshotVersion_pos h.snapshotVersion_le,
    ⟨lo, n, hversions, hsum, hlo⟩, h.sorted, h.past, h.deltaFile⟩

/-- What a run publishes last: a notification file at the version of the status. -/
def PublishedLast (w w' : Repository) (st : NRTM4ServerDatabaseStatus) (version : Nat)
    (writer : NRTM4ServerWriter) : Prop :=
  ∃ st' unf snapshotVersion, w'.status = some ⟨false, st'⟩ ∧ w'.published = unf :: w.published ∧
    unf.DeltasReach ∧ unf.version = version ∧ st'.sessionId = some unf.sessionId ∧
    st'.sessionId = st.sessionId ∧ st'.previousDeltas =
      st.previousDeltas.filter (fun d ↦ !deltaExpired writer.timestamp d) ∧
    SessionInvariant w'.files writer.timestamp st' version snapshotVersion

/-- A snapshot that is due is written and published. -/
private theorem DeltasInvariant.refreshSnapshot {isInitialisation : Bool} (input : RunInput)
    (h : DeltasInvariant w.files writer.timestamp st version)
    (hdue : shouldCreateSnapshot s writer st = .ok true)
    (hread : isInitialisation = true ∨ w.status = some ⟨false, st⟩) :
    ∃ w', refreshSnapshot s writer w st isInitialisation input = .ok w' ∧
      PublishedLast w w' st version writer := by
  obtain ⟨sessionId, hsession⟩ := Option.isSome_iff_exists.mp h.session
  obtain ⟨w₁, hwrite, hstatus, hpublished, hfile, hmono⟩ :
      ∃ w₁, writeSnapshot s writer w st input =
          .ok (w₁, ⟨.snapshot, sessionId, version, input.snapshotToken⟩) ∧
        w₁.status = w.status ∧ w₁.published = w.published ∧
        (∃ f ∈ w₁.files, f.name = ⟨.snapshot, sessionId, version, input.snapshotToken⟩) ∧
        ∀ name, (∃ f ∈ w.files, f.name = name) → ∃ f ∈ w₁.files, f.name = name := by
    unfold writeSnapshot
    rw [hsession, h.version_eq]
    exact ⟨_, rfl, rfl, rfl, ⟨_, List.mem_cons_self, rfl⟩, fun name ↦ exists_writeFile⟩
  have hread' : statusForSnapshot w₁ st isInitialisation = .ok st := by
    unfold statusForSnapshot
    rcases hread with rfl | hrow
    · rfl
    · rw [hstatus, hrow]
      split <;> rfl
  obtain ⟨lo, n, hversions, hsum, hlo⟩ := h.contiguous
  have hnew : SessionInvariant w₁.files writer.timestamp
      (withSnapshot writer st ⟨.snapshot, sessionId, version, input.snapshotToken⟩ input)
      version version := by
    refine ⟨h.session, h.version_eq, rfl, h.version_pos, Nat.le_refl _, rfl, rfl, rfl,
      ⟨_, rfl, rfl, hfile⟩, ⟨lo, n, hversions, hsum, hlo, by omega⟩, h.sorted, h.past, ?_⟩
    intro d hd
    obtain ⟨hkind, hv, hf⟩ := h.deltaFile d hd
    exact ⟨hkind, hv, hmono _ hf⟩
  -- No listed delta is after the snapshot that has just been written.
  have hfresh : ∀ d ∈ st.previousDeltas, version < d.version →
      deltaExpired writer.timestamp d = false := by
    intro d hd hlt
    have hmem := List.mem_map_of_mem (f := PreviousDelta.version) hd
    rw [hversions] at hmem
    have hrange := List.mem_range'_1.mp hmem
    omega
  obtain ⟨w', st', unf, hcommit, hw', hpub, hreach, hversion, hid, hsame, hdeltas, h'⟩ :=
    hnew.commitStatus (s := s) hfresh
  refine ⟨w', bind_eq_ok_iff.mpr ⟨true, hdue, bind_eq_ok_iff.mpr ⟨_, hwrite,
    bind_eq_ok_iff.mpr ⟨st, hread', bind_eq_ok_iff.mpr ⟨_, hcommit, rfl⟩⟩⟩⟩, ?_⟩
  exact ⟨st', unf, version, hw', hpub.trans (congrArg _ hpublished), hreach, hversion, hid, hsame,
    hdeltas, h'⟩

/-- In a session it is always decided whether a snapshot is due. -/
private theorem SessionInvariant.shouldCreateSnapshot
    (h : SessionInvariant w.files writer.timestamp st version snapshotVersion) :
    ∃ due, shouldCreateSnapshot s writer st = .ok due := by
  obtain ⟨timestamp, htimestamp⟩ := Option.isSome_iff_exists.mp h.snapshotTimestamp
  have hne := Nat.pos_iff_ne_zero.mp h.snapshotVersion_pos
  unfold NRTM4ServerWriter.shouldCreateSnapshot
  rw [h.snapshotVersion_eq, h.version_eq, htimestamp, Option.filter_some,
    if_pos (by simpa using hne)]
  dsimp only
  split
  · exact ⟨_, rfl⟩
  · exact ⟨_, rfl⟩

/-- A run that continues a session publishes at least once and keeps the invariant. -/
private theorem SessionInvariant.run {row : ServerStatusRow} {last timestamp : Nat}
    (input : RunInput) (hrow : w.status = some row) (hforce : row.forceReload = false)
    (h : SessionInvariant w.files last row.nrtm4Server version snapshotVersion)
    (hlast : last ≤ timestamp) (hfresh : NeededDeltasFresh w timestamp) :
    ∃ w' row' v sv, NRTM4ServerWriter.run s w timestamp input = .ok w' ∧ RunPublishes w w' ∧
      w'.status = some row' ∧ row'.forceReload = false ∧
      SessionInvariant w'.files timestamp row'.nrtm4Server v sv := by
  let writer := NRTM4ServerWriter.new w timestamp
  have h₀ : SessionInvariant w.files writer.timestamp row.nrtm4Server version snapshotVersion :=
    h.mono hlast fun _ ↦ id
  have hstart : startRun w input = some (row.nrtm4Server, false) := by
    have hintegrity : verifyIntegrity w.files row.nrtm4Server = true := by
      obtain ⟨name, hname, -, f, hf, rfl⟩ := h.snapshotFile
      refine List.all_eq_true.mpr fun name' hmem ↦ ?_
      rw [hname] at hmem
      rcases List.mem_append.mp hmem with hmem | hmem
      · obtain ⟨d, hd, rfl⟩ := List.mem_map.mp hmem
        obtain ⟨-, -, f', hf', hname'⟩ := h.deltaFile d hd
        exact List.any_eq_true.mpr ⟨f', hf', by simpa using hname'⟩
      · rw [List.mem_singleton.mp hmem]
        exact List.any_eq_true.mpr ⟨f, hf, by simp⟩
    simp [startRun, hrow, hforce, h.session, hintegrity]
  obtain ⟨w₁, st₁, added, hadd, hpublished₁, hsession₁, hdeltas₁, hversions₁, htimes, h₁⟩ :=
    h₀.addDelta (s := s) input
  have hfresh₁ : ∀ d ∈ st₁.previousDeltas, snapshotVersion < d.version →
      deltaExpired writer.timestamp d = false := by
    intro d hd hlt
    rw [hdeltas₁] at hd
    rcases List.mem_append.mp hd with hd | hd
    · exact hfresh row hrow snapshotVersion h.snapshotVersion_eq d hd hlt
    · have hage : writer.timestamp - d.timestamp = 0 := by
        rw [htimes d hd]
        exact Nat.sub_self _
      simp [deltaExpired, hage]
  obtain ⟨w₂, st₂, unf₂, hcommit, hstatus₂, hpublished₂, hreach₂, hversion₂, hid₂, hsession₂,
    hdeltas₂, h₂⟩ := h₁.commitStatus (s := s) hfresh₁
  -- The remaining old deltas and the added ones; what was just added is fresh.
  have hkept : st₂.previousDeltas =
      row.nrtm4Server.previousDeltas.filter (fun d ↦ !deltaExpired writer.timestamp d) ++
        added := by
    have hnew : added.filter (fun d ↦ !deltaExpired writer.timestamp d) = added := by
      rw [List.filter_eq_self]
      intro d hd
      have hage : writer.timestamp - d.timestamp = 0 := by
        rw [htimes d hd]
        exact Nat.sub_self _
      simp [deltaExpired, hage]
    rw [hdeltas₂, hdeltas₁, List.filter_append, hnew]
  have hgrows {st' : NRTM4ServerDatabaseStatus}
      (hversion : st'.version = some (version + added.length))
      (hdeltas : st'.previousDeltas = st₂.previousDeltas) :
      VersionGrows row.nrtm4Server st' :=
    ⟨version, added, _, h.version_eq, hversion, hdeltas.trans hkept, List.filter_sublist,
      hversions₁⟩
  have hbind {w' : Repository} (h' : refreshSnapshot s writer w₂ st₂ false input = .ok w') :
      NRTM4ServerWriter.run s w timestamp input = .ok w' := by
    unfold NRTM4ServerWriter.run
    rw [hstart]
    exact bind_eq_ok_iff.mpr ⟨_, hadd, bind_eq_ok_iff.mpr ⟨_, hcommit, h'⟩⟩
  obtain ⟨due, hdue⟩ := h₂.shouldCreateSnapshot (s := s)
  cases due with
  | false =>
    refine ⟨w₂, ⟨false, st₂⟩, _, _, hbind (bind_eq_ok_iff.mpr ⟨false, hdue, rfl⟩), ?_, hstatus₂,
      rfl, h₂⟩
    refine ⟨⟨false, st₂⟩, unf₂, [], hstatus₂, by rw [hpublished₂, hpublished₁]; rfl, ?_,
      by rw [hversion₂]; exact h₂.version_eq, hid₂, ?_⟩
    · exact fun unf hunf ↦ List.mem_singleton.mp hunf ▸ hreach₂
    · intro row' hrow' _
      rw [hrow] at hrow'
      cases hrow'
      exact hgrows h₂.version_eq rfl
  | true =>
    obtain ⟨w₃, hrefresh, st₃, unf₃, sv, hstatus₃, hpublished₃, hreach₃, hversion₃, hid₃,
      hsession₃, hdeltas₃, h₃⟩ := h₂.deltas.refreshSnapshot input hdue (Or.inr hstatus₂)
    refine ⟨w₃, ⟨false, st₃⟩, _, _, hbind hrefresh, ?_, hstatus₃, rfl, h₃⟩
    refine ⟨⟨false, st₃⟩, unf₃, [unf₂], hstatus₃, ?_, ?_, by rw [hversion₃]; exact h₃.version_eq,
      hid₃, ?_⟩
    · rw [hpublished₃, hpublished₂, hpublished₁]
      rfl
    · intro unf hunf
      rcases List.mem_cons.mp hunf with rfl | hunf
      · exact hreach₃
      · exact List.mem_singleton.mp hunf ▸ hreach₂
    · intro row' hrow' _
      rw [hrow] at hrow'
      cases hrow'
      refine hgrows h₃.version_eq ?_
      rw [hdeltas₃, hdeltas₂, List.filter_filter]
      simp

/-- A run that starts a session publishes its first notification file. -/
private theorem run_initialise {row : ServerStatusRow} (timestamp : Nat) (input : RunInput)
    (hrow : w.status = some row) (hforce : row.forceReload = false)
    (hnone : row.nrtm4Server.sessionId = none) :
    ∃ w' row' v sv, NRTM4ServerWriter.run s w timestamp input = .ok w' ∧ RunPublishes w w' ∧
      w'.status = some row' ∧ row'.forceReload = false ∧
      SessionInvariant w'.files timestamp row'.nrtm4Server v sv := by
  let st : NRTM4ServerDatabaseStatus := { row.nrtm4Server with
    sessionId := some input.sessionId
    version := some 1
    lastSnapshotVersion := none
    lastSnapshotGlobalSerial := none
    previousDeltas := [] }
  have hstart : startRun w input = some (st, true) := by
    simp [startRun, hrow, hforce, hnone, st]
  have hinv : DeltasInvariant w.files (NRTM4ServerWriter.new w timestamp).timestamp st 1 :=
    ⟨rfl, rfl, Nat.one_pos, ⟨2, 0, rfl, rfl, Nat.two_pos⟩, List.Pairwise.nil,
      fun d hd ↦ (List.not_mem_nil hd).elim, fun d hd ↦ (List.not_mem_nil hd).elim⟩
  obtain ⟨w', hrefresh, st', unf, sv, hstatus, hpublished, hreach, hversion, hid, hsession, -,
    h'⟩ := hinv.refreshSnapshot (s := s) input rfl (Or.inl rfl)
  refine ⟨w', ⟨false, st'⟩, 1, sv, ?_, ?_, hstatus, rfl, h'⟩
  · unfold NRTM4ServerWriter.run
    rw [hstart]
    exact hrefresh
  · refine ⟨⟨false, st'⟩, unf, [], hstatus, hpublished, ?_, by rw [hversion]; exact h'.version_eq,
      hid, ?_⟩
    · exact fun unf' hunf ↦ List.mem_singleton.mp hunf ▸ hreach
    · intro row' hrow' hsame
      rw [hrow] at hrow'
      cases hrow'
      rw [hnone, hid] at hsame
      cases hsame

end Publish

end NRTM4ServerWriter

/-- What holds of a repository between runs: there is no session yet, or its parts fit. -/
def ServerInvariant (state : ServerState) : Prop :=
  ∃ row, state.repository.status = some row ∧ row.forceReload = false ∧
    (row.nrtm4Server.sessionId = none ∨
      ∃ version snapshotVersion, NRTM4ServerWriter.SessionInvariant state.repository.files
        state.lastRun row.nrtm4Server version snapshotVersion)

/-- A run while the needed deltas are fresh succeeds, publishes, and keeps the invariant. -/
theorem ServerInvariant.run {s : NRTM4ServerSettings} {state : ServerState} {timestamp : Nat}
    (input : RunInput) (h : ServerInvariant state) (hlast : state.lastRun ≤ timestamp)
    (hfresh : NeededDeltasFresh state.repository timestamp) :
    ∃ w', NRTM4ServerWriter.run s state.repository timestamp input = .ok w' ∧
      RunPublishes state.repository w' ∧ ServerInvariant ⟨w', timestamp⟩ := by
  obtain ⟨row, hrow, hforce, hsession⟩ := h
  obtain ⟨w', row', v, sv, hrun, hpublishes, hrow', hforce', h'⟩ :
      ∃ w' row' v sv, NRTM4ServerWriter.run s state.repository timestamp input = .ok w' ∧
        RunPublishes state.repository w' ∧ w'.status = some row' ∧ row'.forceReload = false ∧
        NRTM4ServerWriter.SessionInvariant w'.files timestamp row'.nrtm4Server v sv := by
    rcases hsession with hnone | ⟨version, snapshotVersion, h⟩
    · exact NRTM4ServerWriter.run_initialise timestamp input hrow hforce hnone
    · exact h.run input hrow hforce hlast hfresh
  exact ⟨w', hrun, hpublishes, row', hrow', hforce', Or.inr ⟨v, sv, h'⟩⟩

/-- Every guarded step keeps the invariant. -/
theorem ServerInvariant.step {s : NRTM4ServerSettings} {state state' : ServerState}
    {action : ServerAction} (h : ServerInvariant state) (hguard : RunGuard state action)
    (hstep : serverStep s state action = some state') : ServerInvariant state' := by
  cases action with
  | change journal objects =>
    cases hstep
    exact h
  | run timestamp input =>
    simp only [serverStep] at hstep
    split at hstep
    · cases hstep
    · next hlast =>
      obtain ⟨w', hrun, -, h'⟩ := h.run (s := s) input (Nat.not_lt.mp hlast) hguard
      rw [hrun] at hstep
      cases hstep
      exact h'

/-- In every state that runs reach while no needed delta has expired, a further such run
succeeds and publishes consistent notification files whose deltas lead from the snapshot to
the version, and the version grows by one with each delta. -/
theorem run_publishes {s : NRTM4ServerSettings} {initial state : ServerState}
    (hinitial : InitialState initial) (hreach : Reaches (serverStep s) RunGuard initial state)
    {timestamp : Nat} (input : RunInput) (hlast : state.lastRun ≤ timestamp)
    (hguard : RunGuard state (.run timestamp input)) :
    ∃ w', NRTM4ServerWriter.run s state.repository timestamp input = .ok w' ∧
      RunPublishes state.repository w' := by
  obtain ⟨row, hrow, hforce, hnone⟩ := hinitial
  have h : ServerInvariant state := hreach.invariant
    (fun h hg hs ↦ ServerInvariant.step h hg hs) ⟨row, hrow, hforce, Or.inl hnone⟩
  obtain ⟨w', hrun, hpublishes, -⟩ := h.run (s := s) input hlast hguard
  exact ⟨w', hrun, hpublishes⟩

section Examples

/-- Settings with the default snapshot frequency of four hours. -/
def fourHourSettings : NRTM4ServerSettings where
  source := "TEST"
  snapshotFrequency := 4 * 60 * 60 * 1000000
  nextSigningKey := none
  exportText _ _ text := text

/-- A source with a status row, before its first server run. -/
def emptyServerState : ServerState where
  repository := ⟨some ⟨false, ⟨none, none, none, none, none, none, none, none, []⟩⟩, [], [], [], []⟩
  lastRun := 0

def exampleInput : RunInput := ⟨1, "aa", "00", "bb", "00"⟩

/-- A journal entry with a global serial. -/
def exampleEntry (serial : Nat) : RPSLDatabaseJournal :=
  ⟨serial, "PERSON", "TEST", .authChange, serial, .addOrUpdate, "person", "text", 0⟩

/-- A first run, a change of one object, and a second run an hour after the first. -/
def oneDeltaActions : List ServerAction :=
  [.run 0 exampleInput, .change [exampleEntry 1] [], .run (60 * 60 * 1000000) exampleInput]

instance (w : Repository) (timestamp : Nat) : Decidable (NeededDeltasFresh w timestamp) :=
  inferInstanceAs (Decidable (∀ row ∈ w.status,
    ∀ snapshotVersion ∈ row.nrtm4Server.lastSnapshotVersion,
      ∀ d ∈ row.nrtm4Server.previousDeltas, snapshotVersion < d.version →
        NRTM4ServerWriter.deltaExpired timestamp d = false))

instance (state : ServerState) (action : ServerAction) : Decidable (RunGuard state action) :=
  match action with
  | .change _ _ => inferInstanceAs (Decidable True)
  | .run timestamp _ => inferInstanceAs (Decidable (NeededDeltasFresh state.repository timestamp))

/-- The version, that of the snapshot, and those of the deltas in the notification file that was
published last. -/
def Repository.lastVersions (w : Repository) : Option (Nat × Nat × List Nat) :=
  w.published.head?.map (fun unf ↦
    (unf.version, unf.snapshot.version, unf.deltas.map NRTM4FileReference.version))

/-- After a delta and another change, a run two hours after the first publishes two deltas that lead
from the first snapshot to version 3. -/
theorem run_publishes_twoDeltas :
    ∃ state w', Reaches (serverStep fourHourSettings) RunGuard emptyServerState state ∧
      NRTM4ServerWriter.run fourHourSettings state.repository (2 * 60 * 60 * 1000000)
        exampleInput = .ok w' ∧
      RunPublishes state.repository w' ∧ w'.lastVersions = some (3, 1, [2, 3]) := by
  have hrun : ((oneDeltaActions ++ [ServerAction.change [exampleEntry 1, exampleEntry 2] []]).foldlM
      (fun state action ↦ if RunGuard state action then serverStep fourHourSettings state action
        else none) emptyServerState).any (fun state ↦
      state.lastRun ≤ 2 * 60 * 60 * 1000000 ∧
      RunGuard state (.run (2 * 60 * 60 * 1000000) exampleInput) ∧
      (NRTM4ServerWriter.run fourHourSettings state.repository (2 * 60 * 60 * 1000000)
        exampleInput).toOption.bind Repository.lastVersions = some (3, 1, [2, 3])) = true := by
    decide +kernel
  obtain ⟨state, hstate, hall⟩ := (Option.any_eq_true _ _).mp hrun
  obtain ⟨hlast, hguard, hversions⟩ := of_decide_eq_true hall
  have hreach : Reaches (serverStep fourHourSettings) RunGuard emptyServerState state :=
    Reaches.of_foldlM _ hstate
  obtain ⟨w', hw', hpublishes⟩ :=
    run_publishes ⟨_, rfl, rfl, rfl⟩ hreach exampleInput hlast hguard
  rw [hw'] at hversions
  exact ⟨state, w', hreach, hw', hpublishes, hversions⟩

/-- After a delta, a pause of more than a day makes the delta expire before a snapshot of its
version exists, and the next run fails. -/
theorem run_fails_after_pause :
    fourHourSettings.FrequencyPermitted ∧ InitialState emptyServerState ∧
      ∃ state timestamp, Reaches (serverStep fourHourSettings) (fun _ _ ↦ True)
          emptyServerState state ∧ state.lastRun ≤ timestamp ∧
        ∀ w', NRTM4ServerWriter.run fourHourSettings state.repository timestamp exampleInput ≠
          .ok w' := by
  refine ⟨⟨by decide, by decide⟩, ⟨_, rfl, rfl, rfl⟩, ?_⟩
  refine ⟨(oneDeltaActions.foldlM (fun state action ↦
    if True then serverStep fourHourSettings state action else none) emptyServerState).get rfl,
    26 * 60 * 60 * 1000000, Reaches.of_foldlM _ (Option.some_get _).symm, by decide, ?_⟩
  intro w' h
  cases h

end Examples

end Irrd.Mirroring
