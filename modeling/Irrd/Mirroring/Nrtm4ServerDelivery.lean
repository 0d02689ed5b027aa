import Irrd.Mirroring.Nrtm4ServerConcurrency

/-!
# Delivery of the journal by overlapping server runs

What the deltas of a session hold, whatever commits and steps of other runs happen between
the steps of a run. The invariant places every remembered global serial, also a stale one, at
a position of the source's journal that the recorded deltas have reached.
-/

namespace Irrd.Mirroring

open Irrd.Base Irrd.Storage

/-- Global serials are positive and ordered by commit, and so are the source's own serials. -/
structure JournalOrdered (s : NRTM4ServerSettings) (journal : List RPSLDatabaseJournal) :
    Prop where
  positive : ∀ e ∈ journal, 0 < e.serialGlobal
  global : journal.Pairwise (fun a b ↦ a.serialGlobal < b.serialGlobal)
  nrtm : (s.sourceEntries journal).Pairwise (fun a b ↦ a.serialNrtm < b.serialNrtm)

/-- The number of the source's entries up to a global serial. -/
def entriesUpTo (s : NRTM4ServerSettings) (journal : List RPSLDatabaseJournal) (serial : Nat) :
    Nat :=
  ((s.sourceEntries journal).filter (fun e ↦ e.serialGlobal < serial + 1)).length

/-- A serial that later commits are all beyond. -/
def SerialKnown (journal : List RPSLDatabaseJournal) (serial : Nat) : Prop :=
  serial = 0 ∨ ∃ e ∈ journal, serial ≤ e.serialGlobal

/-- The change of the exported objects that a journal entry stands for. -/
def NRTM4ServerSettings.entryChange (s : NRTM4ServerSettings) (e : RPSLDatabaseJournal) :
    Change (String × String) String where
  key := (e.objectClass, e.rpslPk)
  value :=
    match e.operation with
    | .addOrUpdate => some (s.exportText e.objectClass e.rpslPk e.objectText)
    | .delete => none

/-- The entries of a delta file. -/
def SessionHistory.batches (h : SessionHistory) : List (Batch RPSLDatabaseJournal) :=
  h.deltas.map DeltaRecord.batch

/-- How many of the source's entries the recorded deltas have reached, from those up to the
initial snapshot on. -/
def SessionHistory.reach (s : NRTM4ServerSettings) (journal : List RPSLDatabaseJournal)
    (h : SessionHistory) : Nat :=
  frontier (entriesUpTo s journal h.initialSerial) h.batches

section Serials

variable {s : NRTM4ServerSettings} {journal : List RPSLDatabaseJournal}

theorem sourceEntries_append (more : List RPSLDatabaseJournal) :
    s.sourceEntries (journal ++ more) = s.sourceEntries journal ++ s.sourceEntries more :=
  List.filter_append ..

theorem entriesUpTo_le (serial : Nat) :
    entriesUpTo s journal serial ≤ (s.sourceEntries journal).length :=
  List.length_filter_le ..

/-- What `__init__` reads is known. -/
theorem serialKnown_new (w : Repository) (timestamp : Nat) :
    SerialKnown w.journal (NRTM4ServerWriter.new w timestamp).maxSerialGlobal := by
  unfold NRTM4ServerWriter.new
  cases hmax : (w.journal.map RPSLDatabaseJournal.serialGlobal).max? with
  | none => exact Or.inl rfl
  | some m =>
    obtain ⟨e, he, heq⟩ := List.mem_map.mp (List.max?_mem hmax)
    exact Or.inr ⟨e, he, Nat.le_of_eq heq.symm⟩

theorem SerialKnown.append {serial : Nat} (h : SerialKnown journal serial)
    (more : List RPSLDatabaseJournal) : SerialKnown (journal ++ more) serial := by
  rcases h with h | ⟨e, he, hle⟩
  · exact Or.inl h
  · exact Or.inr ⟨e, List.mem_append_left _ he, hle⟩

/-- Later commits are beyond a known serial. -/
theorem SerialKnown.lt_of_mem {serial : Nat} {more : List RPSLDatabaseJournal}
    (h : SerialKnown journal serial) (hordered : JournalOrdered s (journal ++ more))
    {e : RPSLDatabaseJournal} (he : e ∈ more) : serial < e.serialGlobal := by
  rcases h with rfl | ⟨e', he', hle⟩
  · exact hordered.positive e (List.mem_append_right _ he)
  · have hlt : e'.serialGlobal < e.serialGlobal :=
      (List.pairwise_append.mp hordered.global).2.2 e' he' e he
    omega

/-- Later commits do not change how many entries there are up to a known serial. -/
theorem SerialKnown.entriesUpTo_append {serial : Nat} {more : List RPSLDatabaseJournal}
    (h : SerialKnown journal serial) (hordered : JournalOrdered s (journal ++ more)) :
    entriesUpTo s (journal ++ more) serial = entriesUpTo s journal serial := by
  have hnone : (s.sourceEntries more).filter (fun e ↦ e.serialGlobal < serial + 1) = [] := by
    rw [List.filter_eq_nil_iff]
    intro e he
    have hlt := h.lt_of_mem hordered (List.mem_of_mem_filter he)
    simp only [decide_eq_true_eq]
    omega
  rw [entriesUpTo, entriesUpTo, sourceEntries_append, List.filter_append, hnone, List.append_nil]

theorem JournalOrdered.source_global (h : JournalOrdered s journal) :
    (s.sourceEntries journal).Pairwise (fun a b ↦ a.serialGlobal < b.serialGlobal) :=
  h.global.filter _

/-- The delta query returns the source's entries after a serial, in the order of the journal. -/
theorem JournalOrdered.deltaEntries_eq (h : JournalOrdered s journal) (serial : Nat) :
    NRTM4ServerWriter.deltaEntries s journal (serial + 1) =
      (s.sourceEntries journal).drop (entriesUpTo s journal serial) := by
  have hfilter : journal.filter (fun e ↦ e.source = s.source ∧ serial + 1 ≤ e.serialGlobal) =
      (s.sourceEntries journal).drop (entriesUpTo s journal serial) := by
    rw [entriesUpTo, ← filter_le_eq_drop _ _ h.source_global, NRTM4ServerSettings.sourceEntries,
      List.filter_filter]
    congr 1
    funext e
    simp [Bool.and_comm]
  rw [NRTM4ServerWriter.deltaEntries, hfilter]
  apply List.Pairwise.insertionSort_eq
  apply List.Pairwise.imp _ (h.nrtm.drop (i := entriesUpTo s journal serial))
  exact fun hlt ↦ Nat.le_of_lt hlt

/-- An entry after a serial is not among those up to it. -/
theorem JournalOrdered.mem_drop (h : JournalOrdered s journal) {serial n : Nat}
    {e : RPSLDatabaseJournal} (he : e ∈ (s.sourceEntries journal).take n)
    (hserial : serial < e.serialGlobal) :
    e ∈ ((s.sourceEntries journal).take n).drop (entriesUpTo s journal serial) := by
  have hafter : e ∈ (s.sourceEntries journal).drop (entriesUpTo s journal serial) := by
    rw [entriesUpTo, ← filter_le_eq_drop _ _ h.source_global]
    exact List.mem_filter.mpr ⟨List.mem_of_mem_take he, decide_eq_true hserial⟩
  have hnodup : (s.sourceEntries journal).Nodup := by
    apply List.Pairwise.imp _ h.source_global
    rintro a b hlt rfl
    exact Nat.lt_irrefl _ hlt
  rw [← List.take_append_drop (entriesUpTo s journal serial)
    ((s.sourceEntries journal).take n)] at he
  rcases List.mem_append.mp he with hbefore | he
  · have hbefore' : e ∈ (s.sourceEntries journal).take (entriesUpTo s journal serial) := by
      rw [List.take_take] at hbefore
      exact List.take_subset_take_left _ (Nat.min_le_left _ _) hbefore
    exact absurd hafter (List.disjoint_take_drop hnodup (Nat.le_refl _) hbefore')
  · exact he

end Serials

/-- A remembered global serial up to which the recorded deltas hold everything. -/
structure SessionHistory.Passed (s : NRTM4ServerSettings) (journal : List RPSLDatabaseJournal)
    (h : SessionHistory) (serial : Nat) : Prop where
  known : SerialKnown journal serial
  le_reach : entriesUpTo s journal serial ≤ h.reach s journal

/-- A snapshot was read after everything that the deltas up to its version hold. -/
structure SessionHistory.SnapshotFits (s : NRTM4ServerSettings)
    (journal : List RPSLDatabaseJournal) (h : SessionHistory) (sn : SnapshotRecord) : Prop where
  version_pos : 0 < sn.version
  version_le : sn.version ≤ h.deltas.length + 1
  reach_le : frontier (entriesUpTo s journal h.initialSerial)
    (h.batches.take (sn.version - 1)) ≤ sn.taken
  taken_le : sn.taken ≤ (s.sourceEntries journal).length

/-- What holds of everything recorded in a session. -/
structure HistoryInvariant (s : NRTM4ServerSettings) (journal : List RPSLDatabaseJournal)
    (h : SessionHistory) : Prop where
  initialKnown : SerialKnown journal h.initialSerial
  chained : Chained (s.sourceEntries journal) (entriesUpTo s journal h.initialSerial) h.batches
  versions : h.deltas.map (fun d ↦ d.delta.version) = List.range' 2 h.deltas.length
  snapshots : ∀ sn ∈ h.snapshots, h.SnapshotFits s journal sn

/-- What holds of a session's status. -/
structure StatusInvariant (s : NRTM4ServerSettings) (journal : List RPSLDatabaseJournal)
    (h : SessionHistory) (st : NRTM4ServerDatabaseStatus) : Prop where
  session : st.sessionId.isSome
  version : st.version = some (h.deltas.length + 1)
  deltas : ∀ d ∈ st.previousDeltas, h.Passed s journal d.serialGlobalEnd
  snapshot : ∀ serial ∈ st.lastSnapshotGlobalSerial, h.Passed s journal serial

/-- A session that has gone on from an earlier point of its history. -/
structure SessionHistory.Extends (s : NRTM4ServerSettings) (journal : List RPSLDatabaseJournal)
    (h h' : SessionHistory) : Prop where
  initialSerial : h'.initialSerial = h.initialSerial
  deltas : h.deltas.IsPrefix h'.deltas
  reach : h.reach s journal ≤ h'.reach s journal

section History

variable {s : NRTM4ServerSettings} {journal more : List RPSLDatabaseJournal}
  {h h' : SessionHistory} {st : NRTM4ServerDatabaseStatus} {serial : Nat} {sn : SnapshotRecord}

theorem SessionHistory.Extends.refl : h.Extends s journal h :=
  ⟨rfl, List.prefix_rfl, Nat.le_refl _⟩

theorem SessionHistory.Passed.extends (hpassed : h.Passed s journal serial)
    (hextends : h.Extends s journal h') : h'.Passed s journal serial :=
  ⟨hpassed.known, Nat.le_trans hpassed.le_reach hextends.reach⟩

theorem SessionHistory.SnapshotFits.extends (hfits : h.SnapshotFits s journal sn)
    (hextends : h.Extends s journal h') : h'.SnapshotFits s journal sn := by
  obtain ⟨rest, hrest⟩ := hextends.deltas
  have hversion := hfits.version_le
  refine ⟨hfits.version_pos, ?_, ?_, hfits.taken_le⟩
  · rw [← hrest, List.length_append]
    omega
  · have hreach := hfits.reach_le
    have htake : h'.batches.take (sn.version - 1) = h.batches.take (sn.version - 1) := by
      rw [SessionHistory.batches, ← hrest, List.map_append, List.take_append_of_le_length]
      · rfl
      · rw [List.length_map]
        omega
    rwa [hextends.initialSerial, htake]

/-- How far the deltas reach does not change with later commits. -/
theorem SessionHistory.reach_append (hinitial : SerialKnown journal h.initialSerial)
    (hordered : JournalOrdered s (journal ++ more)) :
    h.reach s (journal ++ more) = h.reach s journal := by
  rw [reach, reach, hinitial.entriesUpTo_append hordered]

theorem SessionHistory.Passed.append (hpassed : h.Passed s journal serial)
    (hinitial : SerialKnown journal h.initialSerial)
    (hordered : JournalOrdered s (journal ++ more)) : h.Passed s (journal ++ more) serial := by
  refine ⟨hpassed.known.append more, ?_⟩
  rw [hpassed.known.entriesUpTo_append hordered, reach_append hinitial hordered]
  exact hpassed.le_reach

theorem SessionHistory.SnapshotFits.append (hfits : h.SnapshotFits s journal sn)
    (hinitial : SerialKnown journal h.initialSerial)
    (hordered : JournalOrdered s (journal ++ more)) :
    h.SnapshotFits s (journal ++ more) sn := by
  have htaken := hfits.taken_le
  refine ⟨hfits.version_pos, hfits.version_le, ?_, ?_⟩
  · rw [hinitial.entriesUpTo_append hordered]
    exact hfits.reach_le
  · rw [sourceEntries_append, List.length_append]
    omega

theorem HistoryInvariant.append (hinv : HistoryInvariant s journal h)
    (hordered : JournalOrdered s (journal ++ more)) :
    HistoryInvariant s (journal ++ more) h := by
  refine ⟨hinv.initialKnown.append more, ?_, hinv.versions,
    fun sn hsn ↦ (hinv.snapshots sn hsn).append hinv.initialKnown hordered⟩
  rw [hinv.initialKnown.entriesUpTo_append hordered, sourceEntries_append]
  exact hinv.chained.append _

theorem StatusInvariant.append (hinv : StatusInvariant s journal h st)
    (hinitial : SerialKnown journal h.initialSerial)
    (hordered : JournalOrdered s (journal ++ more)) :
    StatusInvariant s (journal ++ more) h st :=
  ⟨hinv.session, hinv.version, fun d hd ↦ (hinv.deltas d hd).append hinitial hordered,
    fun serial hserial ↦ (hinv.snapshot serial hserial).append hinitial hordered⟩

/-- The deltas never reach beyond the journal. -/
theorem HistoryInvariant.reach_le (hinv : HistoryInvariant s journal h) :
    h.reach s journal ≤ (s.sourceEntries journal).length :=
  hinv.chained.frontier_le (entriesUpTo_le _)

/-- The next delta starts after a serial that the deltas have passed. -/
theorem StatusInvariant.serialGlobalStart (hinv : StatusInvariant s journal h st) {start : Nat}
    (hstart : NRTM4ServerWriter.serialGlobalStart st = .ok start) :
    ∃ serial, start = serial + 1 ∧ h.Passed s journal serial := by
  unfold NRTM4ServerWriter.serialGlobalStart at hstart
  split at hstart
  · next d hd =>
    cases hstart
    exact ⟨d.serialGlobalEnd, rfl, hinv.deltas d (List.mem_of_getLast? hd)⟩
  · next serial _ hserial =>
    cases hstart
    exact ⟨serial, rfl, hinv.snapshot serial hserial⟩
  · cases hstart

/-- A delta that holds what the journal has after a passed serial extends the history up to
the end of the journal. -/
theorem HistoryInvariant.addDelta (hinv : HistoryInvariant s journal h)
    (hordered : JournalOrdered s journal) (hpassed : h.Passed s journal serial)
    {d : PreviousDelta} (hversion : d.version = h.deltas.length + 2) :
    let batch : Batch RPSLDatabaseJournal :=
      ⟨NRTM4ServerWriter.deltaEntries s journal (serial + 1), (s.sourceEntries journal).length⟩
    HistoryInvariant s journal (h.addDeltas [⟨d, batch⟩]) ∧
      (h.addDeltas [⟨d, batch⟩]).reach s journal = (s.sourceEntries journal).length ∧
      h.Extends s journal (h.addDeltas [⟨d, batch⟩]) := by
  intro batch
  have hbatches : (h.addDeltas [⟨d, batch⟩]).batches = h.batches ++ [batch] := by
    simp [SessionHistory.batches, SessionHistory.addDeltas]
  have hreach : (h.addDeltas [⟨d, batch⟩]).reach s journal = (s.sourceEntries journal).length := by
    rw [SessionHistory.reach, hbatches, frontier_concat]
  have hextends : h.Extends s journal (h.addDeltas [⟨d, batch⟩]) :=
    ⟨rfl, List.prefix_append _ _, hreach ▸ hinv.reach_le⟩
  refine ⟨⟨hinv.initialKnown, ?_, ?_, fun sn hsn ↦ (hinv.snapshots sn hsn).extends hextends⟩,
    hreach, hextends⟩
  · rw [hbatches]
    refine chained_concat.mpr ⟨hinv.chained, ⟨_, hpassed.le_reach, ?_⟩, hinv.reach_le,
      Nat.le_refl _⟩
    rw [List.take_length]
    exact hordered.deltaEntries_eq serial
  · rw [SessionHistory.addDeltas, List.map_append, hinv.versions, List.length_append,
      List.length_singleton, List.range'_1_concat, List.map_singleton, hversion, Nat.add_comm 2]

end History

/-- The run is starting a new session. -/
def RunPhase.isNewSession : RunPhase → Bool
  | .statusRead _ isInitialisation => isInitialisation
  | .snapshotLocked _ isInitialisation => isInitialisation
  | .snapshotWritten _ isInitialisation _ _ => isInitialisation
  | .relocked _ isInitialisation _ _ => isInitialisation
  | _ => false

/-- The run has recorded its delta and has not decided on a snapshot yet. -/
def RunPhase.isRecorded : RunPhase → Bool
  | .recorded _ => true
  | _ => false

/-- The status of a new session before its first snapshot. -/
structure NewSession (st : NRTM4ServerDatabaseStatus) : Prop where
  session : st.sessionId.isSome
  version : st.version = some 1
  snapshot : st.lastSnapshotVersion = none
  deltas : st.previousDeltas = []

/-- What a run knows that may still write a snapshot of a version of the session. -/
structure Pending (s : NRTM4ServerSettings) (journal : List RPSLDatabaseJournal)
    (h : SessionHistory) (serial : Nat) (st : NRTM4ServerDatabaseStatus) : Prop where
  passed : h.Passed s journal serial
  version : ∃ v, st.version = some v ∧ 0 < v ∧ v ≤ h.deltas.length + 1

/-- What a run knows that has written the first snapshot of a new session. -/
structure FirstWritten (s : NRTM4ServerSettings) (journal : List RPSLDatabaseJournal)
    (serial : Nat) (st : NRTM4ServerDatabaseStatus) (filename : RepositoryFileName)
    (sn : SnapshotRecord) : Prop where
  status : NewSession st
  filename : filename.version = 1
  version : sn.version = 1
  serial_le : entriesUpTo s journal serial ≤ sn.taken
  taken_le : sn.taken ≤ (s.sourceEntries journal).length

/-- What a run knows that has written a later snapshot. -/
structure Written (s : NRTM4ServerSettings) (journal : List RPSLDatabaseJournal)
    (h : SessionHistory) (serial : Nat) (sn : SnapshotRecord) : Prop where
  passed : h.Passed s journal serial
  fits : h.SnapshotFits s journal sn

/-- The status row has this status. -/
def RowIs (sys : ServerSystem) (st : NRTM4ServerDatabaseStatus) : Prop :=
  ∃ row, sys.repository.status = some row ∧ row.nrtm4Server = st

/-- What holds of a run in its phase, and the locks it holds. -/
def RunInvariant (s : NRTM4ServerSettings) (sys : ServerSystem) (r : Nat) (run : ActiveRun) :
    Prop :=
  let journal := sys.repository.journal
  let serial := run.writer.maxSerialGlobal
  SerialKnown journal serial ∧
    match run.phase with
    | .constructed => True
    | .locked => sys.statusLock = some r
    | .statusRead st true => sys.statusLock = some r ∧ NewSession st
    | .statusRead st false => sys.statusLock = some r ∧ RowIs sys st ∧ st.sessionId.isSome
    | .deltaAdded st added => sys.statusLock = some r ∧
        ∃ h, sys.session = some h ∧ h.Extends s journal (h.addDeltas added) ∧
          HistoryInvariant s journal (h.addDeltas added) ∧
          StatusInvariant s journal (h.addDeltas added) st ∧
          (h.addDeltas added).Passed s journal serial
    | .recorded st => ∃ h, sys.session = some h ∧ Pending s journal h serial st
    | .snapshotLocked st true => sys.statusLock = some r ∧ sys.snapshotLock = some r ∧
        NewSession st
    | .snapshotLocked st false => sys.snapshotLock = some r ∧
        ∃ h, sys.session = some h ∧ Pending s journal h serial st
    | .snapshotWritten st true filename sn => sys.statusLock = some r ∧
        sys.snapshotLock = some r ∧ FirstWritten s journal serial st filename sn
    | .snapshotWritten _ false _ sn => sys.snapshotLock = some r ∧
        ∃ h, sys.session = some h ∧ Written s journal h serial sn
    | .relocked st true filename sn => sys.statusLock = some r ∧ sys.snapshotLock = some r ∧
        FirstWritten s journal serial st filename sn
    | .relocked st false _ sn => sys.statusLock = some r ∧ sys.snapshotLock = some r ∧
        RowIs sys st ∧ ∃ h, sys.session = some h ∧ Written s journal h serial sn

/-- No run starts a new session while another one is between its delta and its snapshot. -/
def NewSessionAlone (runs : Nat → Option ActiveRun) : Prop :=
  ∀ r run, runs r = some run → run.phase.isNewSession →
    ∀ r' run', runs r' = some run' → run'.phase.isRecorded = false

/-- What holds of the system in every reachable state. -/
structure SystemInvariant (s : NRTM4ServerSettings) (sys : ServerSystem) : Prop where
  ordered : JournalOrdered s sys.repository.journal
  history : ∀ h ∈ sys.session, HistoryInvariant s sys.repository.journal h
  status : ∀ row ∈ sys.repository.status,
    sys.session = none ∧ row.nrtm4Server.sessionId = none ∨
      ∃ h, sys.session = some h ∧ StatusInvariant s sys.repository.journal h row.nrtm4Server
  runs : ∀ r run, sys.runs r = some run → RunInvariant s sys r run
  newSession : NewSessionAlone sys.runs

section Frame

variable {s : NRTM4ServerSettings} {sys sys' : ServerSystem} {r : Nat} {run : ActiveRun}

/-- A step of another run leaves a run alone: its locks stay, the row and the history of a
holder of the status lock stay, and the session of a waiting run goes on. -/
theorem RunInvariant.frame (hinv : RunInvariant s sys r run)
    (hjournal : sys'.repository.journal = sys.repository.journal)
    (hstatus : sys.statusLock = some r → sys'.statusLock = some r ∧
      sys'.repository.status = sys.repository.status ∧ sys'.session = sys.session)
    (hsnapshot : sys.snapshotLock = some r → sys'.snapshotLock = some r)
    (hsession : ∀ h, sys.session = some h → run.phase.isRecorded ∨ sys.snapshotLock = some r →
      ∃ h', sys'.session = some h' ∧ h.Extends s sys.repository.journal h') :
    RunInvariant s sys' r run := by
  have hpending {serial : Nat} {st : NRTM4ServerDatabaseStatus}
      (hwait : run.phase.isRecorded ∨ sys.snapshotLock = some r)
      (hp : ∃ h, sys.session = some h ∧ Pending s sys.repository.journal h serial st) :
      ∃ h, sys'.session = some h ∧ Pending s sys.repository.journal h serial st := by
    obtain ⟨h, hh, hpassed, v, hv, hpos, hle⟩ := hp
    obtain ⟨h', hh', hextends⟩ := hsession h hh hwait
    have hlength := hextends.deltas.length_le
    exact ⟨h', hh', hpassed.extends hextends, v, hv, hpos, by omega⟩
  have hwritten {serial : Nat} {sn : SnapshotRecord} (hlock : sys.snapshotLock = some r)
      (hw : ∃ h, sys.session = some h ∧ Written s sys.repository.journal h serial sn) :
      ∃ h, sys'.session = some h ∧ Written s sys.repository.journal h serial sn := by
    obtain ⟨h, hh, hw⟩ := hw
    obtain ⟨h', hh', hextends⟩ := hsession h hh (Or.inr hlock)
    exact ⟨h', hh', hw.passed.extends hextends, hw.fits.extends hextends⟩
  have hrow {st : NRTM4ServerDatabaseStatus} (hlock : sys.statusLock = some r)
      (hr : RowIs sys st) : RowIs sys' st := by
    obtain ⟨row, hrow, hr⟩ := hr
    exact ⟨row, (hstatus hlock).2.1.trans hrow, hr⟩
  unfold RunInvariant at hinv ⊢
  rw [hjournal]
  obtain ⟨hknown, hphase⟩ := hinv
  refine ⟨hknown, ?_⟩
  split at hphase
  · trivial
  · exact (hstatus hphase).1
  · exact ⟨(hstatus hphase.1).1, hphase.2⟩
  · exact ⟨(hstatus hphase.1).1, hrow hphase.1 hphase.2.1, hphase.2.2⟩
  · obtain ⟨hlock, h, hh, hrest⟩ := hphase
    obtain ⟨hlock', -, hsession'⟩ := hstatus hlock
    exact ⟨hlock', h, hsession'.trans hh, hrest⟩
  · next hp => exact hpending (Or.inl (by rw [hp]; rfl)) hphase
  · exact ⟨(hstatus hphase.1).1, hsnapshot hphase.2.1, hphase.2.2⟩
  · exact ⟨hsnapshot hphase.1, hpending (Or.inr hphase.1) hphase.2⟩
  · exact ⟨(hstatus hphase.1).1, hsnapshot hphase.2.1, hphase.2.2⟩
  · exact ⟨hsnapshot hphase.1, hwritten hphase.1 hphase.2⟩
  · exact ⟨(hstatus hphase.1).1, hsnapshot hphase.2.1, hphase.2.2⟩
  · obtain ⟨hlock, hlock', hr, hphase⟩ := hphase
    exact ⟨(hstatus hlock).1, hsnapshot hlock', hrow hlock hr, hwritten hlock' hphase⟩

/-- A run that starts a session holds the status lock. -/
theorem RunInvariant.statusLock_of_isNewSession (hinv : RunInvariant s sys r run)
    (hnew : run.phase.isNewSession) : sys.statusLock = some r := by
  obtain ⟨-, hphase⟩ := hinv
  cases hp : run.phase with
  | statusRead st isInitialisation | snapshotLocked st isInitialisation
  | snapshotWritten st isInitialisation filename sn | relocked st isInitialisation filename sn =>
    cases isInitialisation with
    | true =>
      rw [hp] at hphase
      exact hphase.1
    | false => simp [hp, RunPhase.isNewSession] at hnew
  | _ => simp [hp, RunPhase.isNewSession] at hnew

/-- A run that goes on does not disturb a new session, unless it starts one or records. -/
theorem NewSessionAlone.update {runs : Nat → Option ActiveRun} {next : Option ActiveRun}
    (h : NewSessionAlone runs)
    (hnew : ∀ run ∈ next, run.phase.isNewSession →
      ∀ r' run', r' ≠ r → runs r' = some run' → run'.phase.isRecorded = false)
    (hrecorded : ∀ run ∈ next, run.phase.isRecorded →
      ∀ r' run', r' ≠ r → runs r' = some run' → run'.phase.isNewSession = false) :
    NewSessionAlone (Function.update runs r next) := by
  have hboth {run : ActiveRun} (hrun : run.phase.isNewSession) : run.phase.isRecorded = false := by
    cases hp : run.phase with
    | recorded st => simp [hp, RunPhase.isNewSession] at hrun
    | _ => rfl
  intro a run hrun hns b run' hrun'
  rw [Function.update_apply] at hrun hrun'
  split at hrun
  · split at hrun'
    · rw [hrun] at hrun'
      cases hrun'
      exact hboth hns
    · next hb => exact hnew run hrun hns b run' hb hrun'
  · next ha =>
    split at hrun'
    · by_contra hne
      rw [Bool.not_eq_false] at hne
      have hfalse := hrecorded run' hrun' hne a run ha hrun
      rw [hfalse] at hns
      cases hns
    · exact h a run hrun hns b run' hrun'

/-- A step that leaves the journal, the row and the session as they are keeps the invariant
if the locks of other runs stay and the run fits its next phase. -/
theorem SystemInvariant.keep (hinv : SystemInvariant s sys) (r : Nat) (next : Option ActiveRun)
    (hjournal : sys'.repository.journal = sys.repository.journal)
    (hrow : sys'.repository.status = sys.repository.status)
    (hsession : sys'.session = sys.session)
    (hruns : sys'.runs = Function.update sys.runs r next)
    (hstatus : ∀ r', r' ≠ r → sys.statusLock = some r' → sys'.statusLock = some r')
    (hsnapshot : ∀ r', r' ≠ r → sys.snapshotLock = some r' → sys'.snapshotLock = some r')
    (hnext : ∀ run ∈ next, RunInvariant s sys' r run)
    (hnew : NewSessionAlone sys'.runs) : SystemInvariant s sys' := by
  refine ⟨hjournal ▸ hinv.ordered, ?_, ?_, ?_, hnew⟩
  · rw [hsession, hjournal]
    exact hinv.history
  · rw [hsession, hjournal, hrow]
    exact hinv.status
  · intro r' run' hrun'
    rw [hruns, Function.update_apply] at hrun'
    split at hrun'
    · next he =>
      subst he
      exact hnext run' hrun'
    · next hne =>
      exact (hinv.runs r' run' hrun').frame hjournal
        (fun hlock ↦ ⟨hstatus r' hne hlock, hrow, hsession⟩) (hsnapshot r' hne)
        (fun h hh _ ↦ ⟨h, hsession.trans hh, .refl⟩)

/-- A run may end at any point. -/
theorem SystemInvariant.endRun (hinv : SystemInvariant s sys) (r : Nat) :
    SystemInvariant s (sys.endRun r) := by
  refine hinv.keep r none rfl rfl rfl rfl ?_ ?_ ?_ ?_
  · intro r' hne hlock
    simp [ServerSystem.endRun, hlock, hne]
  · intro r' hne hlock
    simp [ServerSystem.endRun, hlock, hne]
  · intro run hrun
    cases hrun
  · exact hinv.newSession.update (fun _ hrun ↦ nomatch hrun) (fun _ hrun ↦ nomatch hrun)

/-- Files of the repository directory do not matter. -/
theorem SystemInvariant.setFiles (hinv : SystemInvariant s sys) (files : List RepositoryFile) :
    SystemInvariant s { sys with repository := { sys.repository with files } } := by
  refine ⟨hinv.ordered, hinv.history, hinv.status, ?_, hinv.newSession⟩
  intro r run hrun
  exact (hinv.runs r run hrun).frame rfl (fun hlock ↦ ⟨hlock, rfl, rfl⟩) id
    (fun h hh _ ↦ ⟨h, hh, .refl⟩)

theorem SystemInvariant.failCommit (hinv : SystemInvariant s sys) (r : Nat) (run : ActiveRun)
    (st : NRTM4ServerDatabaseStatus) : SystemInvariant s (sys.failCommit r run st) :=
  (hinv.setFiles _).endRun r

/-- A run goes on with the locks it has or takes. -/
theorem SystemInvariant.setPhase (hinv : SystemInvariant s sys) {phase : RunPhase}
    (hrun : sys.runs r = some run)
    (hjournal : sys'.repository.journal = sys.repository.journal)
    (hrow : sys'.repository.status = sys.repository.status)
    (hsession : sys'.session = sys.session) (hruns : sys'.runs = sys.runs)
    (hstatus : ∀ r', r' ≠ r → sys.statusLock = some r' → sys'.statusLock = some r')
    (hsnapshot : ∀ r', r' ≠ r → sys.snapshotLock = some r' → sys'.snapshotLock = some r')
    (hnext : RunInvariant s (sys'.setPhase r run phase) r { run with phase })
    (hphase : phase.isNewSession → run.phase.isNewSession)
    (hrecorded : phase.isRecorded = false) :
    SystemInvariant s (sys'.setPhase r run phase) := by
  refine hinv.keep r (some { run with phase }) hjournal hrow hsession ?_ hstatus
    hsnapshot ?_ ?_
  · rw [ServerSystem.setPhase, hruns]
  · intro run' hrun'
    cases hrun'
    exact hnext
  · rw [ServerSystem.setPhase, hruns]
    apply hinv.newSession.update
    · intro run' hrun' hns r' run'' _ hrun''
      cases hrun'
      exact hinv.newSession r run hrun (hphase hns) r' run'' hrun''
    · intro run' hrun' hrec
      cases hrun'
      rw [hrecorded] at hrec
      cases hrec

end Frame

/-- What recording a status changes. -/
structure StatusCommitted (w w' : Repository) (st st' : NRTM4ServerDatabaseStatus) : Prop where
  journal : w'.journal = w.journal
  status : w'.status = some ⟨false, st'⟩
  sessionId : st'.sessionId = st.sessionId
  version : st'.version = st.version
  snapshotSerial : st'.lastSnapshotGlobalSerial = st.lastSnapshotGlobalSerial
  deltas : ∀ d ∈ st'.previousDeltas, d ∈ st.previousDeltas
  snapshotVersion : st.lastSnapshotVersion.isSome

section Steps

variable {s : NRTM4ServerSettings} {writer : NRTM4ServerWriter} {w w' : Repository}
  {st st' : NRTM4ServerDatabaseStatus} {input : RunInput}

/-- A notification file is only written for a status with a snapshot. -/
theorem writeUnf_snapshotVersion {unf : NRTM4UpdateNotificationFile}
    (h : NRTM4ServerWriter.writeUnf s writer st = .ok unf) : st.lastSnapshotVersion.isSome := by
  unfold NRTM4ServerWriter.writeUnf NRTM4UpdateNotificationFile.modelValidate at h
  split at h
  · next hvalid _ =>
    simp only [NRTM4ServerWriter.notificationFields, FileReferenceFields.validate] at hvalid
    split at hvalid
    · next hv _ _ => simp [hv]
    · cases hvalid
  · cases h

theorem commitStatus_eq_ok (h : NRTM4ServerWriter.commitStatus s writer w st = .ok (w', st')) :
    StatusCommitted w w' st st' := by
  obtain ⟨⟨files, st₁⟩, hexpire, h⟩ := bind_eq_ok_iff.mp h
  obtain ⟨unf, hunf, h⟩ := bind_eq_ok_iff.mp h
  obtain ⟨files₁, -, hexpire⟩ := bind_eq_ok_iff.mp hexpire
  cases hexpire
  cases h
  have hsnapshot := writeUnf_snapshotVersion hunf
  exact ⟨rfl, rfl, rfl, rfl, rfl, fun d hd ↦ List.mem_of_mem_filter hd, hsnapshot⟩

/-- A recorded status fits the history that the status before it fits. -/
theorem StatusInvariant.committed {journal : List RPSLDatabaseJournal} {h : SessionHistory}
    (hinv : StatusInvariant s journal h st) (hcommitted : StatusCommitted w w' st st') :
    StatusInvariant s journal h st' :=
  ⟨hcommitted.sessionId ▸ hinv.session, hcommitted.version.trans hinv.version,
    fun d hd ↦ hinv.deltas d (hcommitted.deltas d hd),
    hcommitted.snapshotSerial ▸ hinv.snapshot⟩

/-- Adding a delta: nothing new, or one delta that starts where the status says. -/
theorem addDelta_eq_ok (h : NRTM4ServerWriter.addDelta s writer w st input = .ok (w', st')) :
    w'.journal = w.journal ∧ w'.status = w.status ∧
      ∃ start version sessionId, NRTM4ServerWriter.serialGlobalStart st = .ok start ∧
        st.version = some version ∧ st.sessionId = some sessionId ∧
        (NRTM4ServerWriter.deltaEntries s w.journal start = [] ∧ st' = st ∨
          st' = NRTM4ServerWriter.withDelta st
            (NRTM4ServerWriter.newDelta writer sessionId (version + 1) start input)) := by
  unfold NRTM4ServerWriter.addDelta at h
  split at h
  · cases h
  · next start version sessionId hstart hversion hsession =>
    dsimp only at h
    split at h
    · next hempty =>
      cases h
      exact ⟨rfl, rfl, start, version, sessionId, hstart, hversion, hsession, Or.inl ⟨hempty, rfl⟩⟩
    · cases h
      exact ⟨rfl, rfl, start, version, sessionId, hstart, hversion, hsession, Or.inr rfl⟩
  · cases h

/-- The recorded batch of a new delta is what its file holds. -/
theorem deltaRecords_written {added : DeltaRecord}
    (h : NRTM4ServerWriter.addDelta s writer w st input = .ok (w', st'))
    (hadded : added ∈ deltaRecords s w.journal st st') :
    ⟨added.delta.filename, writer.timestamp, .delta added.batch.items⟩ ∈ w'.files := by
  unfold NRTM4ServerWriter.addDelta at h
  split at h
  · cases h
  · dsimp only at h
    split at h
    · cases h
      simp [deltaRecords] at hadded
    · cases h
      simp only [deltaRecords, NRTM4ServerWriter.withDelta, List.drop_left, List.map_cons,
        List.map_nil, List.mem_singleton] at hadded
      rw [hadded]
      exact List.mem_cons_self
  · cases h

/-- After the delta query, the added delta leads the history up to the whole journal. -/
theorem addDelta_history {h : SessionHistory} (hordered : JournalOrdered s w.journal)
    (hhistory : HistoryInvariant s w.journal h) (hstatus : StatusInvariant s w.journal h st)
    (hknown : SerialKnown w.journal writer.maxSerialGlobal)
    (hadd : NRTM4ServerWriter.addDelta s writer w st input = .ok (w', st')) :
    let h' := h.addDeltas (deltaRecords s w.journal st st')
    h.Extends s w.journal h' ∧ HistoryInvariant s w.journal h' ∧
      StatusInvariant s w.journal h' st' ∧ h'.Passed s w.journal writer.maxSerialGlobal := by
  obtain ⟨-, -, start, version, sessionId, hstart, hversion, hsession, hcases⟩ :=
    addDelta_eq_ok hadd
  obtain ⟨serial, rfl, hpassed⟩ := hstatus.serialGlobalStart hstart
  have hv : version = h.deltas.length + 1 :=
    Option.some_inj.mp (hversion.symm.trans hstatus.version)
  intro h'
  rcases hcases with ⟨hempty, rfl⟩ | rfl
  · have hsame : h' = h := by
      simp [h', deltaRecords, SessionHistory.addDeltas]
    rw [hsame]
    refine ⟨.refl, hhistory, hstatus, hknown, ?_⟩
    -- Without new entries, the deltas have reached the end of the journal already.
    rw [hordered.deltaEntries_eq, List.drop_eq_nil_iff] at hempty
    have hle : entriesUpTo s w.journal writer.maxSerialGlobal ≤ _ := entriesUpTo_le _
    have hreach := hpassed.le_reach
    omega
  · let d := NRTM4ServerWriter.newDelta writer sessionId (version + 1) (serial + 1) input
    obtain ⟨hhistory', hreach, hextends⟩ := hhistory.addDelta hordered hpassed (d := d)
      (show version + 1 = _ by rw [hv])
    have hsame : h' = h.addDeltas [⟨d, ⟨NRTM4ServerWriter.deltaEntries s w.journal (serial + 1),
        (s.sourceEntries w.journal).length⟩⟩] := by
      simp [h', deltaRecords, NRTM4ServerWriter.withDelta, d, NRTM4ServerWriter.newDelta]
    rw [hsame]
    have hmax : SessionHistory.Passed s w.journal (h.addDeltas [⟨d,
        ⟨NRTM4ServerWriter.deltaEntries s w.journal (serial + 1),
          (s.sourceEntries w.journal).length⟩⟩]) writer.maxSerialGlobal :=
      ⟨hknown, by rw [hreach]; exact entriesUpTo_le _⟩
    refine ⟨hextends, hhistory', ⟨hstatus.session, ?_, ?_, ?_⟩, hmax⟩
    · simp [NRTM4ServerWriter.withDelta, NRTM4ServerWriter.newDelta, SessionHistory.addDeltas, hv]
    · intro d' hd'
      rcases List.mem_append.mp hd' with hd' | hd'
      · exact (hstatus.deltas d' hd').extends hextends
      · rw [List.mem_singleton.mp hd']
        exact hmax
    · exact fun serial hserial ↦ (hstatus.snapshot serial hserial).extends hextends

end Steps

section Record

variable {s : NRTM4ServerSettings} {journal : List RPSLDatabaseJournal} {h : SessionHistory}
  {writer : NRTM4ServerWriter} {st : NRTM4ServerDatabaseStatus} {filename : RepositoryFileName}
  {sn : SnapshotRecord} {input : RunInput}

/-- Recording the first snapshot of a session. -/
theorem FirstWritten.record
    (hfirst : FirstWritten s journal writer.maxSerialGlobal st filename sn)
    (hknown : SerialKnown journal writer.maxSerialGlobal) :
    HistoryInvariant s journal ⟨writer.maxSerialGlobal, [], [sn]⟩ ∧
      StatusInvariant s journal ⟨writer.maxSerialGlobal, [], [sn]⟩
        (NRTM4ServerWriter.withSnapshot writer st filename input) := by
  refine ⟨⟨hknown, trivial, rfl, ?_⟩, ⟨hfirst.status.session, hfirst.status.version, ?_, ?_⟩⟩
  · intro sn' hsn'
    rw [List.mem_singleton.mp hsn']
    exact ⟨hfirst.version ▸ Nat.one_pos, hfirst.version.le,
      by simpa [SessionHistory.batches] using hfirst.serial_le, hfirst.taken_le⟩
  · intro d hd
    rw [NRTM4ServerWriter.withSnapshot, hfirst.status.deltas] at hd
    cases hd
  · intro serial hserial
    cases hserial
    exact ⟨hknown, Nat.le_refl _⟩

/-- Recording a later snapshot. -/
theorem Written.record (hwritten : Written s journal h writer.maxSerialGlobal sn)
    (hhistory : HistoryInvariant s journal h) (hst : StatusInvariant s journal h st) :
    HistoryInvariant s journal { h with snapshots := h.snapshots ++ [sn] } ∧
      StatusInvariant s journal { h with snapshots := h.snapshots ++ [sn] }
        (NRTM4ServerWriter.withSnapshot writer st filename input) := by
  have hextends : h.Extends s journal { h with snapshots := h.snapshots ++ [sn] } :=
    ⟨rfl, List.prefix_rfl, Nat.le_refl _⟩
  refine ⟨⟨hhistory.initialKnown, hhistory.chained, hhistory.versions, ?_⟩,
    ⟨hst.session, hst.version, fun d hd ↦ (hst.deltas d hd).extends hextends, ?_⟩⟩
  · intro sn' hsn'
    rcases List.mem_append.mp hsn' with hsn' | hsn'
    · exact (hhistory.snapshots sn' hsn').extends hextends
    · rw [List.mem_singleton.mp hsn']
      exact hwritten.fits.extends hextends
  · intro serial hserial
    cases hserial
    exact hwritten.passed.extends hextends

end Record

/-- A run that reads the status starts a new session. -/
def startsSession (sys : ServerSystem) : SystemAction → Bool
  | .advance r => (sys.runs r).any (fun run ↦
      match run.phase with
      | .locked => (NRTM4ServerWriter.startRun sys.repository run.input).any Prod.snd
      | _ => false)
  | _ => false

/-- A new session starts only while no run is between recording its delta and deciding on its
snapshot. -/
def NewSessionGuard (sys : ServerSystem) (action : SystemAction) : Prop :=
  startsSession sys action →
    ∀ r run, sys.runs r = some run → run.phase.isRecorded = false

/-- Serials are assigned in the order of commits, and no journal entry expires. -/
def CommitsOrdered (s : NRTM4ServerSettings) (sys : ServerSystem) : SystemAction → Prop
  | .commit entries _ => JournalOrdered s (sys.repository.journal ++ entries)
  | _ => True

namespace SystemInvariant

variable {s : NRTM4ServerSettings} {sys sys' : ServerSystem} {r : Nat} {run : ActiveRun}
  {st : NRTM4ServerDatabaseStatus}

/-- Commits of other transactions keep the invariant. -/
theorem commit (hinv : SystemInvariant s sys) {entries : List RPSLDatabaseJournal}
    (objects : List RPSLDatabaseObject)
    (hordered : JournalOrdered s (sys.repository.journal ++ entries)) :
    let journal := sys.repository.journal ++ entries
    SystemInvariant s { sys with repository := { sys.repository with journal, objects } } := by
  intro journal
  have hinitial {h : SessionHistory} (hh : sys.session = some h) :
      SerialKnown sys.repository.journal h.initialSerial := (hinv.history h hh).initialKnown
  have hlength : (s.sourceEntries sys.repository.journal).length ≤
      (s.sourceEntries journal).length := by
    rw [sourceEntries_append, List.length_append]
    omega
  have hpending {serial : Nat} {st : NRTM4ServerDatabaseStatus}
      (h : ∃ h, sys.session = some h ∧ Pending s sys.repository.journal h serial st) :
      ∃ h, sys.session = some h ∧ Pending s journal h serial st := by
    obtain ⟨h, hh, hp⟩ := h
    exact ⟨h, hh, hp.passed.append (hinitial hh) hordered, hp.version⟩
  have hwritten {serial : Nat} {sn : SnapshotRecord}
      (h : ∃ h, sys.session = some h ∧ Written s sys.repository.journal h serial sn) :
      ∃ h, sys.session = some h ∧ Written s journal h serial sn := by
    obtain ⟨h, hh, hw⟩ := h
    exact ⟨h, hh, hw.passed.append (hinitial hh) hordered, hw.fits.append (hinitial hh) hordered⟩
  have hfirst {serial : Nat} {st : NRTM4ServerDatabaseStatus} {filename : RepositoryFileName}
      {sn : SnapshotRecord} (hknown : SerialKnown sys.repository.journal serial)
      (hf : FirstWritten s sys.repository.journal serial st filename sn) :
      FirstWritten s journal serial st filename sn :=
    ⟨hf.status, hf.filename, hf.version, (hknown.entriesUpTo_append hordered).symm ▸ hf.serial_le,
      Nat.le_trans hf.taken_le hlength⟩
  refine ⟨hordered, fun h hh ↦ (hinv.history h hh).append hordered, ?_, ?_, hinv.newSession⟩
  · intro row hrow
    apply (hinv.status row hrow).imp_right
    rintro ⟨h, hh, hst⟩
    exact ⟨h, hh, hst.append (hinitial hh) hordered⟩
  · intro r run hrun
    obtain ⟨hknown, hphase⟩ := hinv.runs r run hrun
    refine ⟨hknown.append entries, ?_⟩
    split at hphase
    · trivial
    · exact hphase
    · exact hphase
    · exact hphase
    · obtain ⟨hlock, h, hh, hextends, hhistory, hst, hpassed⟩ := hphase
      refine ⟨hlock, h, hh, ⟨rfl, hextends.deltas, ?_⟩, hhistory.append hordered,
        hst.append hhistory.initialKnown hordered, hpassed.append hhistory.initialKnown hordered⟩
      rw [SessionHistory.reach_append (hinitial hh) hordered,
        SessionHistory.reach_append hhistory.initialKnown hordered]
      exact hextends.reach
    · exact hpending hphase
    · exact hphase
    · exact ⟨hphase.1, hpending hphase.2⟩
    · exact ⟨hphase.1, hphase.2.1, hfirst hknown hphase.2.2⟩
    · exact ⟨hphase.1, hwritten hphase.2⟩
    · exact ⟨hphase.1, hphase.2.1, hfirst hknown hphase.2.2⟩
    · exact ⟨hphase.1, hphase.2.1, hphase.2.2.1, hwritten hphase.2.2.2⟩

/-- A run may start at any time. -/
theorem construct (hinv : SystemInvariant s sys) (r timestamp : Nat) (input : RunInput) :
    let run : ActiveRun := ⟨.new sys.repository timestamp, input, .constructed⟩
    SystemInvariant s { sys with runs := Function.update sys.runs r (some run) } := by
  refine hinv.keep r _ rfl rfl rfl rfl (fun _ _ ↦ id) (fun _ _ ↦ id) ?_ ?_
  · intro run hrun
    cases hrun
    exact ⟨serialKnown_new _ _, trivial⟩
  · apply hinv.newSession.update
    · intro run hrun hns
      cases hrun
      cases hns
    · intro run hrun hrec
      cases hrun
      cases hrec

/-- Taking the status lock. -/
theorem constructed (hinv : SystemInvariant s sys) (hrun : sys.runs r = some run)
    (hphase : run.phase = .constructed) (hstep : sys.advance s r run = some sys') :
    SystemInvariant s sys' := by
  rw [ServerSystem.advance, hphase] at hstep
  dsimp only at hstep
  split at hstep
  · cases hstep
    exact hinv.endRun r
  · next hlock =>
    cases hstep
    refine hinv.setPhase hrun rfl rfl rfl rfl ?_ (fun _ _ ↦ id) ⟨(hinv.runs r run hrun).1, rfl⟩
      (fun h ↦ nomatch h) rfl
    intro r' _ h
    rw [hlock] at h
    cases h

/-- Reading the status. -/
theorem locked (hinv : SystemInvariant s sys) (hrun : sys.runs r = some run)
    (hphase : run.phase = .locked) (hguard : NewSessionGuard sys (.advance r))
    (hstep : sys.advance s r run = some sys') : SystemInvariant s sys' := by
  obtain ⟨hknown, hlock⟩ := hinv.runs r run hrun
  rw [hphase] at hlock
  rw [ServerSystem.advance, hphase] at hstep
  dsimp only at hstep
  split at hstep
  · cases hstep
    exact hinv.endRun r
  · next st isInitialisation hstart =>
    cases hstep
    have hst : if isInitialisation then NewSession st else RowIs sys st ∧ st.sessionId.isSome := by
      have hstart' := hstart
      unfold NRTM4ServerWriter.startRun at hstart'
      split at hstart'
      · cases hstart'
      · next row hrow =>
        split at hstart'
        · cases hstart'
        · dsimp only at hstart'
          split at hstart'
          · next hsession =>
            cases hstart'
            exact ⟨⟨row, hrow, rfl⟩, hsession.1⟩
          · cases hstart'
            exact ⟨rfl, rfl, rfl, rfl⟩
    cases isInitialisation with
    | false =>
      exact hinv.setPhase hrun rfl rfl rfl rfl (fun _ _ ↦ id) (fun _ _ ↦ id)
        ⟨hknown, hlock, hst⟩ (fun h ↦ nomatch h) rfl
    | true =>
      refine hinv.keep r _ rfl rfl rfl rfl (fun _ _ ↦ id) (fun _ _ ↦ id) ?_ ?_
      · intro run' hrun'
        cases hrun'
        exact ⟨hknown, hlock, hst⟩
      · apply hinv.newSession.update
        · intro run' _ _ r' run'' _ hrun''
          refine hguard ?_ r' run'' hrun''
          simp [startsSession, hrun, hphase, hstart]
        · intro run' hrun' hrec
          cases hrun'
          cases hrec

/-- Deciding on the first snapshot of a new session. -/
theorem beginFirst (hinv : SystemInvariant s sys) (hrun : sys.runs r = some run)
    (hphase : run.phase = .statusRead st true) :
    SystemInvariant s (sys.beginSnapshot s r run st true) := by
  obtain ⟨hknown, hrunInv⟩ := hinv.runs r run hrun
  rw [hphase] at hrunInv
  obtain ⟨hlock, hnew⟩ := hrunInv
  unfold ServerSystem.beginSnapshot
  split
  · exact hinv.endRun r
  · exact hinv.endRun r
  · split
    · next hfree =>
      refine hinv.setPhase hrun rfl rfl rfl rfl (fun _ _ ↦ id) ?_ ⟨hknown, hlock, rfl, hnew⟩
        (fun _ ↦ by rw [hphase]; rfl) rfl
      intro r' _ h
      rw [hfree] at h
      cases h
    · rw [if_pos rfl]
      split
      · next hcommit =>
        -- There is no snapshot to list yet, so no notification file can be written.
        have hsnapshot := (commitStatus_eq_ok hcommit).snapshotVersion
        rw [hnew.snapshot] at hsnapshot
        cases hsnapshot
      · exact hinv.failCommit r run st

/-- Deciding on a new snapshot. -/
theorem beginNext (hinv : SystemInvariant s sys) (hrun : sys.runs r = some run)
    (hphase : run.phase = .recorded st) :
    SystemInvariant s (sys.beginSnapshot s r run st false) := by
  obtain ⟨hknown, hpending⟩ := hinv.runs r run hrun
  rw [hphase] at hpending
  unfold ServerSystem.beginSnapshot
  split
  · exact hinv.endRun r
  · exact hinv.endRun r
  · split
    · next hfree =>
      refine hinv.setPhase hrun rfl rfl rfl rfl (fun _ _ ↦ id) ?_ ⟨hknown, rfl, hpending⟩
        (fun h ↦ nomatch h) rfl
      intro r' _ h
      rw [hfree] at h
      cases h
    · exact hinv.endRun r

/-- Querying the journal. -/
theorem statusRead (hinv : SystemInvariant s sys) (hrun : sys.runs r = some run)
    {isInitialisation : Bool} (hphase : run.phase = .statusRead st isInitialisation)
    (hstep : sys.advance s r run = some sys') : SystemInvariant s sys' := by
  cases isInitialisation with
  | true =>
    rw [ServerSystem.advance, hphase] at hstep
    cases hstep
    exact hinv.beginFirst hrun hphase
  | false =>
    obtain ⟨hknown, hrunInv⟩ := hinv.runs r run hrun
    rw [hphase] at hrunInv
    obtain ⟨hlock, ⟨row, hrow, rfl⟩, hsession⟩ := hrunInv
    obtain ⟨h, hh, hst⟩ := (hinv.status row hrow).resolve_left fun hnone ↦ by
      rw [hnone.2] at hsession
      cases hsession
    rw [ServerSystem.advance, hphase] at hstep
    dsimp only at hstep
    split at hstep
    · cases hstep
      exact hinv.endRun r
    · next repository st' hadd =>
      cases hstep
      obtain ⟨hjournal, hstatus, -⟩ := addDelta_eq_ok hadd
      obtain ⟨hextends, hhistory, hst', hpassed⟩ :=
        addDelta_history hinv.ordered (hinv.history h hh) hst hknown hadd
      generalize deltaRecords s sys.repository.journal row.nrtm4Server st' = added at *
      refine hinv.setPhase hrun hjournal hstatus rfl rfl (fun _ _ ↦ id) (fun _ _ ↦ id)
        ⟨hjournal ▸ hknown, hlock, h, hh, ?_⟩ (fun h ↦ nomatch h) rfl
      exact hjournal ▸ ⟨hextends, hhistory, hst', hpassed⟩

/-- Recording a delta: the row and the history go on together. -/
theorem deltaAdded (hinv : SystemInvariant s sys) (hrun : sys.runs r = some run)
    {added : List DeltaRecord} (hphase : run.phase = .deltaAdded st added)
    (hstep : sys.advance s r run = some sys') : SystemInvariant s sys' := by
  obtain ⟨hknown, hrunInv⟩ := hinv.runs r run hrun
  rw [hphase] at hrunInv
  obtain ⟨hlock, h, hh, hextends, hhistory, hst, hpassed⟩ := hrunInv
  rw [ServerSystem.advance, hphase] at hstep
  dsimp only at hstep
  split at hstep
  · cases hstep
    exact hinv.failCommit r run st
  · next repository st' hcommit =>
    cases hstep
    have hcommitted := commitStatus_eq_ok hcommit
    have hst' := hst.committed hcommitted
    have hjournal := hcommitted.journal
    have hnotHolder {r' : Nat} (hne : r' ≠ r) : sys.statusLock ≠ some r' := by
      rw [hlock]
      exact fun he ↦ hne (Option.some_inj.mp he).symm
    refine ⟨hjournal ▸ hinv.ordered, ?_, ?_, ?_, ?_⟩
    · rintro h' hh'
      rw [ServerSystem.setPhase, hh] at hh'
      cases hh'
      exact hjournal ▸ hhistory
    · intro row hrow
      have hrow' := hcommitted.status.symm.trans hrow
      cases hrow'
      exact Or.inr ⟨h.addDeltas added, by rw [ServerSystem.setPhase, hh]; rfl, hjournal ▸ hst'⟩
    · intro r' run' hrun'
      rw [ServerSystem.setPhase_runs] at hrun'
      split at hrun'
      · next he =>
        subst he
        cases hrun'
        exact ⟨hjournal ▸ hknown, h.addDeltas added, by rw [ServerSystem.setPhase, hh]; rfl,
          hjournal ▸ hpassed, _, hst'.version, Nat.succ_pos _, Nat.le_refl _⟩
      · next hne =>
        refine (hinv.runs r' run' hrun').frame hjournal (fun hl ↦ absurd hl (hnotHolder hne)) id ?_
        intro h' hh' _
        rw [hh] at hh'
        cases hh'
        exact ⟨h.addDeltas added, by rw [ServerSystem.setPhase, hh]; rfl, hextends⟩
    · apply hinv.newSession.update
      · intro run' hrun' hns
        cases hrun'
        cases hns
      · -- A run that starts a session holds the status lock throughout.
        intro _ _ _ r' run' hne hrun'
        by_contra hns
        rw [Bool.not_eq_false] at hns
        exact hnotHolder hne ((hinv.runs r' run' hrun').statusLock_of_isNewSession hns)

/-- Writing a snapshot: its objects are read after everything that the deltas up to its
version hold. -/
theorem snapshotLocked (hinv : SystemInvariant s sys) (hrun : sys.runs r = some run)
    {isInitialisation : Bool} (hphase : run.phase = .snapshotLocked st isInitialisation)
    (hstep : sys.advance s r run = some sys') : SystemInvariant s sys' := by
  obtain ⟨hknown, hrunInv⟩ := hinv.runs r run hrun
  rw [hphase] at hrunInv
  rw [ServerSystem.advance, hphase] at hstep
  dsimp only at hstep
  split at hstep
  · cases hstep
    exact hinv.endRun r
  · next repository filename hwrite =>
    cases hstep
    unfold NRTM4ServerWriter.writeSnapshot at hwrite
    split at hwrite
    · next version _ hversion =>
      cases hwrite
      refine hinv.setPhase hrun rfl rfl rfl rfl (fun _ _ ↦ id) (fun _ _ ↦ id) ?_
        (fun hns ↦ by rw [hphase]; exact hns) rfl
      cases isInitialisation with
      | true =>
        obtain ⟨hlock, hlock', hnew⟩ := hrunInv
        have hone : version = 1 := Option.some_inj.mp (hversion.symm.trans hnew.version)
        exact ⟨hknown, hlock, hlock', hnew, hone, hone, entriesUpTo_le _, Nat.le_refl _⟩
      | false =>
        obtain ⟨hlock, h, hh, hpassed, v, hv, hpos, hle⟩ := hrunInv
        have hsame : v = version := Option.some_inj.mp (hv.symm.trans hversion)
        subst hsame
        refine ⟨hknown, hlock, h, hh, hpassed, hpos, hle, ?_, Nat.le_refl _⟩
        -- What some of the deltas reach is within the journal.
        have hchained := (hinv.history h hh).chained
        rw [← List.take_append_drop (v - 1) h.batches] at hchained
        exact hchained.of_append.frontier_le (entriesUpTo_le _)
    · cases hwrite

/-- Taking the status lock again, and reading the status. -/
theorem snapshotWritten (hinv : SystemInvariant s sys) (hrun : sys.runs r = some run)
    {isInitialisation : Bool} {filename : RepositoryFileName} {sn : SnapshotRecord}
    (hphase : run.phase = .snapshotWritten st isInitialisation filename sn)
    (hstep : sys.advance s r run = some sys') : SystemInvariant s sys' := by
  obtain ⟨hknown, hrunInv⟩ := hinv.runs r run hrun
  rw [hphase] at hrunInv
  rw [ServerSystem.advance, hphase] at hstep
  cases isInitialisation with
  | true =>
    cases hstep
    exact hinv.setPhase hrun rfl rfl rfl rfl (fun _ _ ↦ id) (fun _ _ ↦ id) ⟨hknown, hrunInv⟩
      (fun _ ↦ by rw [hphase]; rfl) rfl
  | false =>
    dsimp only at hstep
    split at hstep
    · cases hstep
    · cases hstep
      exact hinv.endRun r
    · next st' hfree hread =>
      cases hstep
      refine hinv.setPhase hrun rfl rfl rfl rfl ?_ (fun _ _ ↦ id) ?_ (fun h ↦ nomatch h) rfl
      · intro r' _ h
        rw [hfree] at h
        cases h
      · have hrow : RowIs sys st' := by
          unfold NRTM4ServerWriter.statusForSnapshot at hread
          rw [if_neg Bool.false_ne_true] at hread
          split at hread
          · next row hrow =>
            cases hread
            exact ⟨row, hrow, rfl⟩
          · cases hread
        exact ⟨hknown, rfl, hrunInv.1, hrow, hrunInv.2⟩

/-- Recording a snapshot: the first one starts a session, a later one is added. -/
theorem relocked (hinv : SystemInvariant s sys) (hrun : sys.runs r = some run)
    {isInitialisation : Bool} {filename : RepositoryFileName} {sn : SnapshotRecord}
    (hphase : run.phase = .relocked st isInitialisation filename sn)
    (hstep : sys.advance s r run = some sys') : SystemInvariant s sys' := by
  obtain ⟨hknown, hrunInv⟩ := hinv.runs r run hrun
  rw [hphase] at hrunInv
  rw [ServerSystem.advance, hphase] at hstep
  dsimp only at hstep
  split at hstep
  · cases hstep
    exact hinv.failCommit r run _
  · next repository st' hcommit =>
    cases hstep
    have hcommitted := commitStatus_eq_ok hcommit
    have hjournal := hcommitted.journal
    obtain ⟨hlock, hlock'⟩ : sys.statusLock = some r ∧ sys.snapshotLock = some r := by
      cases isInitialisation with
      | true => exact ⟨hrunInv.1, hrunInv.2.1⟩
      | false => exact ⟨hrunInv.1, hrunInv.2.1⟩
    -- The history that the new row belongs to.
    obtain ⟨h', hh', hhistory, hst⟩ : ∃ h',
        recordSnapshot sys.session isInitialisation run.writer sn = some h' ∧
          HistoryInvariant s sys.repository.journal h' ∧
          StatusInvariant s sys.repository.journal h' st' := by
      cases isInitialisation with
      | true =>
        obtain ⟨hhistory, hst⟩ := hrunInv.2.2.record hknown
        exact ⟨_, rfl, hhistory, hst.committed hcommitted⟩
      | false =>
        obtain ⟨-, -, ⟨row, hrow, rfl⟩, h, hh, hw⟩ := hrunInv
        obtain ⟨h', hh', hst⟩ := (hinv.status row hrow).resolve_left fun hnone ↦ by
          rw [hh] at hnone
          cases hnone.1
        rw [hh] at hh'
        cases hh'
        obtain ⟨hhistory, hst'⟩ := hw.record (hinv.history h hh) hst
        exact ⟨_, by rw [recordSnapshot, hh]; rfl, hhistory, hst'.committed hcommitted⟩
    have hother {r' : Nat} (hne : r' ≠ r) {lock : Option Nat} (hl : lock = some r) :
        lock ≠ some r' := by
      rw [hl]
      exact fun he ↦ hne (Option.some_inj.mp he).symm
    refine ⟨hjournal ▸ hinv.ordered, ?_, ?_, ?_, ?_⟩
    · rintro h hh
      have hsame := hh'.symm.trans hh
      cases hsame
      exact hjournal ▸ hhistory
    · intro row hrow
      have hrow' := hcommitted.status.symm.trans hrow
      cases hrow'
      exact Or.inr ⟨h', hh', hjournal ▸ hst⟩
    · intro r' run' hrun'
      rw [ServerSystem.endRun_runs] at hrun'
      split at hrun'
      · cases hrun'
      · next hne =>
        refine (hinv.runs r' run' hrun').frame hjournal (fun hl ↦ absurd hl (hother hne hlock))
          (fun hl ↦ absurd hl (hother hne hlock')) ?_
        intro h hh hwait
        have hrecorded : run'.phase.isRecorded := hwait.resolve_right (hother hne hlock')
        cases isInitialisation with
        | true =>
          -- Nobody is waiting for a snapshot while a new session starts.
          have hnone := hinv.newSession r run hrun (by rw [hphase]; rfl) r' run' hrun'
          rw [hnone] at hrecorded
          cases hrecorded
        | false =>
          refine ⟨{ h with snapshots := h.snapshots ++ [sn] }, ?_, rfl, List.prefix_rfl,
            Nat.le_refl _⟩
          simp [ServerSystem.endRun, recordSnapshot, hh]
    · exact hinv.newSession.update (fun _ hrun ↦ nomatch hrun) (fun _ hrun ↦ nomatch hrun)

/-- Every guarded step keeps the invariant. -/
theorem step (hinv : SystemInvariant s sys) {action : SystemAction}
    (hcommits : CommitsOrdered s sys action) (hguard : NewSessionGuard sys action)
    (hstep : sys.step s action = some sys') : SystemInvariant s sys' := by
  cases action with
  | commit entries objects =>
    cases hstep
    exact hinv.commit objects hcommits
  | files files =>
    cases hstep
    exact hinv.setFiles files
  | construct r timestamp input =>
    simp only [ServerSystem.step] at hstep
    split at hstep
    · cases hstep
    · cases hstep
      exact hinv.construct r timestamp input
  | advance r =>
    simp only [ServerSystem.step] at hstep
    split at hstep
    · next run hrun =>
      cases hphase : run.phase with
      | constructed => exact hinv.constructed hrun hphase hstep
      | locked => exact hinv.locked hrun hphase hguard hstep
      | statusRead st b => exact hinv.statusRead hrun hphase hstep
      | deltaAdded st added => exact hinv.deltaAdded hrun hphase hstep
      | recorded st =>
        rw [ServerSystem.advance, hphase] at hstep
        cases hstep
        exact hinv.beginNext hrun hphase
      | snapshotLocked st b => exact hinv.snapshotLocked hrun hphase hstep
      | snapshotWritten st b filename sn => exact hinv.snapshotWritten hrun hphase hstep
      | relocked st b filename sn => exact hinv.relocked hrun hphase hstep
    · cases hstep

end SystemInvariant

/-- A source without a session yet, and without a run in progress. -/
structure InitialSystem (s : NRTM4ServerSettings) (sys : ServerSystem) : Prop where
  ordered : JournalOrdered s sys.repository.journal
  status : ∀ row ∈ sys.repository.status, row.nrtm4Server.sessionId = none
  session : sys.session = none
  runs : sys.runs = fun _ ↦ none

theorem InitialSystem.invariant {s : NRTM4ServerSettings} {sys : ServerSystem}
    (h : InitialSystem s sys) : SystemInvariant s sys := by
  refine ⟨h.ordered, ?_, fun row hrow ↦ Or.inl ⟨h.session, h.status row hrow⟩, ?_, ?_⟩
  · intro history hh
    rw [h.session] at hh
    cases hh
  · intro r run hrun
    rw [h.runs] at hrun
    cases hrun
  · intro r run hrun
    rw [h.runs] at hrun
    cases hrun

/-- Every entry that a delta query could see and that is after the initial snapshot is in a
delta that is recorded by then. -/
def DeltasCover (s : NRTM4ServerSettings) (journal : List RPSLDatabaseJournal)
    (h : SessionHistory) : Prop :=
  ∀ earlier d later, h.deltas = earlier ++ d :: later →
    ∀ e ∈ (s.sourceEntries journal).take d.batch.taken, h.initialSerial < e.serialGlobal →
      ∃ d' ∈ earlier ++ [d], e ∈ d'.batch.items

/-- The deltas after a snapshot's version, up to a version, in order. -/
def SessionHistory.deltasBetween (h : SessionHistory) (snapshotVersion version : Nat) :
    List DeltaRecord :=
  h.deltas.filter (fun d ↦ snapshotVersion < d.delta.version ∧ d.delta.version ≤ version)

/-- Applying the deltas from a snapshot's version up to that of a later delta has the effect
of the journal's entries in order, from a point that the snapshot has seen up to what the
delta's query saw. Over the objects at the snapshot, this gives the objects at that query,
unless the query was even before the snapshot. -/
def DeltasApply (s : NRTM4ServerSettings) (journal : List RPSLDatabaseJournal)
    (h : SessionHistory) : Prop :=
  ∀ sn ∈ h.snapshots, ∀ d ∈ h.deltas, sn.version < d.delta.version →
    let entries := s.sourceEntries journal
    let deltas := h.deltasBetween sn.version d.delta.version
    let changes := (deltas.flatMap (fun d ↦ d.batch.items)).map s.entryChange
    deltas.map (fun d ↦ d.delta.version) =
        List.range' (sn.version + 1) (d.delta.version - sn.version) ∧
      (∃ seen ≤ sn.taken, ∀ contents, replay contents changes =
        replay contents (((entries.take d.batch.taken).drop seen).map s.entryChange)) ∧
      (sn.taken ≤ d.batch.taken → ∀ contents,
        replay (replay contents ((entries.take sn.taken).map s.entryChange)) changes =
          replay contents ((entries.take d.batch.taken).map s.entryChange))

/-- No update is lost: the deltas of a session cover the journal, each is in serial order, and
applied to a snapshot they lead to the objects that the journal leads to. -/
structure NoLostUpdate (s : NRTM4ServerSettings) (journal : List RPSLDatabaseJournal)
    (h : SessionHistory) : Prop where
  cover : DeltasCover s journal h
  ordered : ∀ d ∈ h.deltas, d.batch.items.Pairwise (fun a b ↦ a.serialNrtm < b.serialNrtm)
  apply : DeltasApply s journal h

/-- Of items numbered consecutively, those within bounds are a window. -/
theorem filter_consecutive {A : Type} (f : A → Nat) (lo hi : Nat) {xs : List A} {a n : Nat}
    (h : xs.map f = List.range' a n) :
    xs.filter (fun x ↦ lo < f x ∧ f x ≤ hi) = (xs.take (hi + 1 - a)).drop (lo + 1 - a) := by
  induction xs generalizing a n with
  | nil => simp
  | cons x xs ih =>
    cases n with
    | zero => cases h
    | succ n =>
      rw [List.map_cons, List.range'_succ] at h
      obtain ⟨hx, hxs⟩ := List.cons_eq_cons.mp h
      have ih := ih hxs
      by_cases hhi : f x ≤ hi
      · have htake : hi + 1 - a = (hi + 1 - (a + 1)) + 1 := by omega
        rw [htake, List.take_succ_cons]
        by_cases hlo : lo < f x
        · have hdrop : lo + 1 - a = 0 := by omega
          have hdrop' : lo + 1 - (a + 1) = 0 := by omega
          rw [hdrop, List.drop_zero, List.filter_cons_of_pos (by simp [hlo, hhi]), ih, hdrop',
            List.drop_zero]
        · have hdrop : lo + 1 - a = (lo + 1 - (a + 1)) + 1 := by omega
          rw [hdrop, List.drop_succ_cons, List.filter_cons_of_neg (by simp [hlo]), ih]
      · have htake : hi + 1 - a = 0 := by omega
        have htake' : hi + 1 - (a + 1) = 0 := by omega
        rw [htake, List.filter_cons_of_neg (by simp [hhi]), ih, htake']
        simp

section Delivery

variable {s : NRTM4ServerSettings} {journal : List RPSLDatabaseJournal} {h : SessionHistory}

/-- The deltas between a version and that of a recorded delta end with that delta, and the
earlier ones lead up to the version. -/
theorem HistoryInvariant.deltasBetween_eq (hinv : HistoryInvariant s journal h)
    {d : DeltaRecord} (hd : d ∈ h.deltas) {v : Nat} (hpos : 0 < v) (hv : v < d.delta.version) :
    ∃ earlier middle later, h.deltas = earlier ++ (middle ++ [d]) ++ later ∧
      earlier = h.deltas.take (v - 1) ∧
      h.deltasBetween v d.delta.version = middle ++ [d] ∧
      (middle ++ [d]).map (fun d ↦ d.delta.version) =
        List.range' (v + 1) (d.delta.version - v) := by
  obtain ⟨before, later, hdeltas⟩ := List.append_of_mem hd
  have hversions := hinv.versions
  have hlength : d.delta.version = before.length + 2 := by
    have hget : (h.deltas.map (fun d ↦ d.delta.version))[before.length]? =
        some d.delta.version := by
      simp [hdeltas]
    rw [hversions, List.getElem?_range' (by rw [hdeltas]; simp)] at hget
    have hsame := Option.some_inj.mp hget
    omega
  have hsplit : before = before.take (v - 1) ++ before.drop (v - 1) :=
    (List.take_append_drop _ _).symm
  have htake : h.deltas.take (v - 1) = before.take (v - 1) := by
    rw [hdeltas, List.take_append_of_le_length (by omega)]
  have hwindow : (h.deltas.take (before.length + 1)).drop (v - 1) =
      before.drop (v - 1) ++ [d] := by
    have hassoc : h.deltas = (before ++ [d]) ++ later := by simp [hdeltas]
    have hcount : before.length + 1 = (before ++ [d]).length := by simp
    rw [hassoc, hcount, List.take_left, List.drop_append_of_le_length (by omega)]
  refine ⟨before.take (v - 1), before.drop (v - 1), later, ?_, htake.symm, ?_, ?_⟩
  · rw [← List.append_assoc, ← hsplit, hdeltas]
    simp
  · have hlo : v + 1 - 2 = v - 1 := by omega
    rw [SessionHistory.deltasBetween, filter_consecutive _ _ _ hversions, hlo, hlength]
    exact hwindow
  · have hle : before.length + 1 ≤ h.deltas.length := by simp [hdeltas]
    rw [← hwindow, List.map_drop, List.map_take, hversions, List.take_range'_of_length_ge hle,
      List.drop_range']
    congr 1 <;> omega

/-- The recorded deltas apply to every recorded snapshot. -/
theorem HistoryInvariant.deltasApply (hinv : HistoryInvariant s journal h) :
    DeltasApply s journal h := by
  intro sn hsn d hd hlt
  have hfits := hinv.snapshots sn hsn
  obtain ⟨earlier, middle, later, hdeltas, hearlier, hbetween, hversions⟩ :=
    hinv.deltasBetween_eq hd hfits.version_pos hlt
  have hbatches : h.batches = (earlier.map DeltaRecord.batch ++
      (middle.map DeltaRecord.batch ++ [d.batch])) ++ later.map DeltaRecord.batch := by
    rw [SessionHistory.batches, hdeltas]
    simp
  have htake : h.batches.take (sn.version - 1) = earlier.map DeltaRecord.batch := by
    rw [SessionHistory.batches, ← List.map_take, hearlier]
  have hchained := hinv.chained
  rw [hbatches] at hchained
  have hchained := hchained.of_append.drop (earlier.map DeltaRecord.batch).length
  rw [List.take_left, List.drop_left, ← htake] at hchained
  have hitems : (middle ++ [d]).flatMap (fun d ↦ d.batch.items) =
      (middle.map DeltaRecord.batch ++ [d.batch]).flatMap Batch.items := by
    rw [← List.map_singleton, ← List.map_append, List.flatMap_map]
  intro entries deltas changes
  have hchanges : changes =
      ((middle.map DeltaRecord.batch ++ [d.batch]).flatMap Batch.items).map s.entryChange := by
    rw [← hitems, ← hbetween]
  rw [hchanges]
  refine ⟨by rw [← hversions, ← hbetween], ?_, ?_⟩
  · obtain ⟨seen, hseen, heq⟩ := hchained.replay_eq s.entryChange
    rw [frontier_concat] at heq
    exact ⟨seen, Nat.le_trans hseen hfits.reach_le, heq⟩
  · intro htaken contents
    have hcurrent := hchained.replay_current s.entryChange contents hfits.reach_le
      (by rwa [frontier_concat])
    rwa [frontier_concat] at hcurrent

theorem HistoryInvariant.deltasCover (hinv : HistoryInvariant s journal h)
    (hordered : JournalOrdered s journal) : DeltasCover s journal h := by
  intro earlier d later hdeltas e he hserial
  have hbatches : h.batches =
      (earlier.map DeltaRecord.batch ++ [d.batch]) ++ later.map DeltaRecord.batch := by
    simp [SessionHistory.batches, hdeltas]
  have hchained := hinv.chained
  rw [hbatches] at hchained
  have hmem := hordered.mem_drop he hserial
  obtain ⟨b, hb, hitem⟩ := hchained.of_append.covers (x := e) (by rwa [frontier_concat])
  rw [← List.map_singleton, ← List.map_append] at hb
  obtain ⟨d', hd', rfl⟩ := List.mem_map.mp hb
  exact ⟨d', hd', hitem⟩

theorem HistoryInvariant.itemsOrdered (hinv : HistoryInvariant s journal h)
    (hordered : JournalOrdered s journal) {d : DeltaRecord} (hd : d ∈ h.deltas) :
    d.batch.items.Pairwise (fun a b ↦ a.serialNrtm < b.serialNrtm) := by
  obtain ⟨earlier, later, hdeltas⟩ := List.append_of_mem hd
  have hbatches : h.batches =
      (earlier.map DeltaRecord.batch ++ [d.batch]) ++ later.map DeltaRecord.batch := by
    simp [SessionHistory.batches, hdeltas]
  have hchained := hinv.chained
  rw [hbatches] at hchained
  obtain ⟨-, ⟨a, -, hitems⟩, -, -⟩ := chained_concat.mp hchained.of_append
  rw [hitems]
  exact (hordered.nrtm.take).drop

end Delivery

/-- In every reachable state, no update of the session is lost: as long as new sessions start
only while no run is between its delta and its snapshot. -/
theorem session_noLostUpdate {s : NRTM4ServerSettings} {initial sys : ServerSystem}
    (hinitial : InitialSystem s initial)
    (hreach : Reaches (ServerSystem.step s)
      (fun sys action ↦ CommitsOrdered s sys action ∧ NewSessionGuard sys action) initial sys) :
    ∀ h ∈ sys.session, NoLostUpdate s sys.repository.journal h := by
  have hinv : SystemInvariant s sys := hreach.invariant
    (fun h hguard hstep ↦ h.step hguard.1 hguard.2 hstep) hinitial.invariant
  intro h hh
  have hhistory := hinv.history h hh
  exact ⟨hhistory.deltasCover hinv.ordered, fun d hd ↦ hhistory.itemsOrdered hinv.ordered hd,
    hhistory.deltasApply⟩

section Examples

instance (s : NRTM4ServerSettings) (journal : List RPSLDatabaseJournal) :
    Decidable (JournalOrdered s journal) :=
  decidable_of_iff ((∀ e ∈ journal, 0 < e.serialGlobal) ∧
      journal.Pairwise (fun a b ↦ a.serialGlobal < b.serialGlobal) ∧
      (s.sourceEntries journal).Pairwise (fun a b ↦ a.serialNrtm < b.serialNrtm))
    ⟨fun h ↦ ⟨h.1, h.2.1, h.2.2⟩, fun h ↦ ⟨h.positive, h.global, h.nrtm⟩⟩

instance (s : NRTM4ServerSettings) (sys : ServerSystem) (action : SystemAction) :
    Decidable (CommitsOrdered s sys action) :=
  match action with
  | .commit _ _ => inferInstanceAs (Decidable (JournalOrdered s _))
  | .files _ | .construct _ _ _ | .advance _ => inferInstanceAs (Decidable True)

/-- Settings with a snapshot every day. -/
def dailySettings : NRTM4ServerSettings where
  source := "TEST"
  snapshotFrequency := hours24
  nextSigningKey := none
  exportText _ _ text := text

/-- A source with a status row, before its first server run. -/
def emptySystem : ServerSystem where
  repository := ⟨some ⟨false, ⟨none, none, none, none, none, none, none, none, []⟩⟩, [], [], [], []⟩
  statusLock := none
  snapshotLock := none
  runs _ := none
  session := none

theorem emptySystem_initial : InitialSystem dailySettings emptySystem := by
  refine ⟨by decide, ?_, rfl, rfl⟩
  intro row hrow
  cases hrow
  rfl

/-- The journal entry of a new person object. -/
def personEntry (serial : Nat) (nicHdl : String) : RPSLDatabaseJournal :=
  ⟨serial, nicHdl, "TEST", .authChange, serial, .addOrUpdate, "person", "person: " ++ nicHdl, 0⟩

/-- A run that starts, and takes some steps. -/
def runSteps (run seconds sessionId steps : Nat) : List SystemAction :=
  .construct run (seconds * 1000000) ⟨sessionId, "aa", "00", "bb", "00"⟩ ::
    List.replicate steps (.advance run)

/-- Actions whose commits are in serial order. -/
def orderedRun (sys : ServerSystem) (actions : List SystemAction) : Option ServerSystem :=
  actions.foldlM (fun sys action ↦
    if CommitsOrdered dailySettings sys action then ServerSystem.step dailySettings sys action
    else none) sys

/-- The first run, after it has taken the status lock. -/
def lockedSystem : ServerSystem where
  repository := emptySystem.repository
  statusLock := some 0
  snapshotLock := none
  runs := Function.update (Function.update emptySystem.runs 0
    (some ⟨⟨0, 0⟩, ⟨1, "aa", "00", "bb", "00"⟩, .constructed⟩)) 0
    (some ⟨⟨0, 0⟩, ⟨1, "aa", "00", "bb", "00"⟩, .locked⟩)
  session := none

/-- The first run starts a session while there is no other run. -/
theorem lockedSystem_guard : NewSessionGuard lockedSystem (.advance 0) := by
  intro _ r run hrun
  by_cases hr : r = 0
  · subst hr
    cases hrun
    rfl
  · simp [lockedSystem, emptySystem, hr] at hrun

/-- The first run, when it has started a session. -/
def statusReadSystem : ServerSystem :=
  (ServerSystem.step dailySettings lockedSystem (.advance 0)).get rfl

/-- Actions that start no session, with commits in serial order. -/
def continuedRun (actions : List SystemAction) : Option ServerSystem :=
  actions.foldlM (fun sys action ↦
    if CommitsOrdered dailySettings sys action ∧ startsSession sys action = false then
      ServerSystem.step dailySettings sys action
    else none) statusReadSystem

/-- The first run ends, an object is added, and a second run records a delta. -/
def oneDeltaSteps : List SystemAction :=
  List.replicate 4 (.advance 0) ++ [.commit [personEntry 1 "A"] []] ++ runSteps 1 10 2 5

/-- The session with one delta loses nothing. -/
theorem session_noLostUpdate_oneDelta :
    let sys := (continuedRun oneDeltaSteps).get rfl
    sys.session.map (fun h ↦ h.deltas.length) = some 1 ∧
      ∀ h ∈ sys.session, NoLostUpdate dailySettings sys.repository.journal h := by
  intro sys
  have hguard (sys : ServerSystem) (action : SystemAction)
      (h : CommitsOrdered dailySettings sys action ∧ startsSession sys action = false) :
      CommitsOrdered dailySettings sys action ∧ NewSessionGuard sys action :=
    ⟨h.1, fun hstarts ↦ by rw [h.2] at hstarts; cases hstarts⟩
  have hlocked : Reaches (ServerSystem.step dailySettings)
      (fun sys action ↦ CommitsOrdered dailySettings sys action ∧
        startsSession sys action = false) emptySystem lockedSystem :=
    Reaches.of_foldlM (runSteps 0 0 1 1) rfl
  have hstarted : Reaches (ServerSystem.step dailySettings)
      (fun sys action ↦ CommitsOrdered dailySettings sys action ∧ NewSessionGuard sys action)
      emptySystem statusReadSystem :=
    (hlocked.mono hguard).tail (a := .advance 0) ⟨trivial, lockedSystem_guard⟩
      (Option.some_get _).symm
  have hcontinued : Reaches (ServerSystem.step dailySettings)
      (fun sys action ↦ CommitsOrdered dailySettings sys action ∧
        startsSession sys action = false) statusReadSystem sys :=
    Reaches.of_foldlM oneDeltaSteps (Option.some_get _).symm
  exact ⟨rfl, session_noLostUpdate emptySystem_initial
    (hstarted.trans (hcontinued.mono hguard))⟩

/-- The first session has a delta that is a day old. Run 2 records its status and pauses. Run 3
unlinks the expired delta and fails, run 4 starts another session, and run 2 writes its snapshot.
After a further delta, run 2 records that snapshot as version 2 of the other session. -/
def pausedSnapshotActions : List SystemAction :=
  runSteps 0 0 1 6 ++ [.commit [personEntry 1 "A"] []] ++ runSteps 1 10 2 5 ++
    runSteps 2 86405 3 4 ++ runSteps 3 86411 4 4 ++ runSteps 4 86412 5 6 ++
    [.advance 2, .advance 2, .commit [personEntry 2 "B"] []] ++ runSteps 5 86413 6 5 ++
    [.advance 2, .advance 2, .commit [personEntry 3 "C"] []] ++ runSteps 6 86414 7 4

/-- The client that loads version 2 of the second session and applies its delta 3 never gets the
object of delta 2. -/
theorem session_losesUpdate_after_pause :
    InitialSystem dailySettings emptySystem ∧
      ∃ sys, Reaches (ServerSystem.step dailySettings) (CommitsOrdered dailySettings)
          emptySystem sys ∧
        ∃ h ∈ sys.session, ¬ NoLostUpdate dailySettings sys.repository.journal h := by
  refine ⟨emptySystem_initial, (orderedRun emptySystem pausedSnapshotActions).get rfl,
    Reaches.of_foldlM _ (Option.some_get _).symm,
    ((orderedRun emptySystem pausedSnapshotActions).get rfl).session.get rfl,
    (Option.some_get _).symm, ?_⟩
  intro hdelivery
  have happly := (hdelivery.apply ⟨2, [], 1⟩ (List.mem_cons_of_mem _ List.mem_cons_self)
    ⟨⟨⟨.delta, 5, 3, "aa"⟩, "00", 86414 * 1000000, 3, 3, 3⟩, ⟨[personEntry 3 "C"], 3⟩⟩
    (List.mem_cons_of_mem _ List.mem_cons_self) (by decide)).2.2 (by decide) (fun _ ↦ none)
  have hvalue := congrFun happly ("person", "B")
  revert hvalue
  decide

end Examples

end Irrd.Mirroring
