import Irrd.Storage.SerialAssignment

/-!
# Exactness of the journal columns

Whether `serial_oldest_journal` and `serial_newest_journal` of a source are the smallest and
the largest serial of its journal, after every commit.
-/

namespace Irrd.Storage

open Irrd.Base Irrd.Conf Irrd.Routepref

/-- The journal columns of a source are the ends of its journal, and a source without a status
row has no journal. -/
def ExactColumns (db : Database) (source : String) : Prop :=
  match db.serialColumns source with
  | none => db.journal.serials source = []
  | some c => c.oldestJournal = (db.journal.serials source).min? ∧
    c.newestJournal = (db.journal.serials source).max?

/-- The journal of a source still begins and ends where it did at the last commit. -/
def SameEnds (source : String) (h : DatabaseHandler) : Prop :=
  (h.working.journal.serials source).min? = (h.committed.journal.serials source).min? ∧
    (h.working.journal.serials source).max? = (h.committed.journal.serials source).max?

/-- The evaluation of route preferences before a commit writes no journal entry of a source: it
keeps no journal, or no object of it that changes is visible otherwise. -/
def JournalsNoRoutePreference (s : Settings) (source : String) (h : DatabaseHandler) : Prop :=
  let prefixes := h.changedObjectsTracker.filterPrefixes
  h.journalingEnabled → s.keepJournal source → prefixes ≠ [] → ∀ objects ∈ flushedObjects h,
    ∀ changed ∈ changedRoutes s objects.rows prefixes, ∀ row ∈ changed.1 ++ changed.2,
      row.source = source → DatabaseHandler.otherwiseVisible row.toDict = false

/-- What keeps the journal columns of a source exact: a commit writes no route preference change
of it to the journal, and where it has a status row, it has a new serial in the transaction or a
journal with the same ends as before. A full reload promises an empty journal only where it is
empty. -/
def KeepsColumns (s : Settings) (source : String) (h : DatabaseHandler) (a : HandlerAction) :
    Prop :=
  let newSerial := h.statusTracker.newSerialsPerSource source ≠ [] ∨ pendingEntry s source h
  match a.operation with
  | .commit => JournalsNoRoutePreference s source { h with now := a.now } ∧
      (newSerial ∨ h.working.status.find source = none ∨ SameEnds source h)
  | .deleteAllRpslObjectsWithJournal other guaranteed => other = source → guaranteed = true →
      newSerial ∨ h.working.journal.serials source = []
  | _ => True

/-- What a transaction knows of the journal columns: those of its status rows belong to the
committed journal, and a source without a row has no entries but those of the transaction. -/
def TransactionColumns (h : DatabaseHandler) (source : String) : Prop :=
  match h.working.serialColumns source with
  | none => h.statusTracker.newSerialsPerSource source = [] →
      h.working.journal.serials source = []
  | some c => c.oldestJournal = (h.committed.journal.serials source).min? ∧
      c.newestJournal = (h.committed.journal.serials source).max?

/-- What holds of the journal columns of a source in every state of a run. -/
structure ColumnsInvariant (source : String) (h : DatabaseHandler) : Prop where
  committed : ExactColumns h.committed source
  working : TransactionColumns h source
  seen : h.statusTracker.newSerialsPerSource source ≠ [] → source ∈ h.statusTracker.sourcesSeen

section Operations

variable {s : Settings} {source : String} {h h' : DatabaseHandler}

/-- The columns that a transaction knows do not depend on the other tables. -/
theorem TransactionColumns.congr (hcolumns : TransactionColumns h source)
    (hcommitted : h'.committed = h.committed)
    (hrow : h'.working.serialColumns source = h.working.serialColumns source)
    (hjournal : h.working.journal.serials source = [] → h'.working.journal.serials source = [])
    (hserials : h'.statusTracker.newSerialsPerSource source = [] →
      h.statusTracker.newSerialsPerSource source = []) : TransactionColumns h' source := by
  unfold TransactionColumns at *
  rw [hrow, hcommitted]
  cases hc : h.working.serialColumns source with
  | none =>
    rw [hc] at hcolumns
    exact fun hnil ↦ hjournal (hcolumns (hserials hnil))
  | some c =>
    rw [hc] at hcolumns
    exact hcolumns

/-- Recording operations adds entries of this transaction only. -/
theorem ColumnsInvariant.entries {entries : List RPSLDatabaseJournal}
    (hinv : ColumnsInvariant source h)
    (hadded : EntriesAdded s h h' entries) : ColumnsInvariant source h' := by
  have hnone (hnil : h'.statusTracker.newSerialsPerSource source = []) :
      entries.filter (fun e ↦ e.source = source) = [] ∧
        h.statusTracker.newSerialsPerSource source = [] := by
    rw [hadded.newSerials] at hnil
    obtain ⟨hentries, htransaction⟩ := List.append_eq_nil_iff.mp hnil
    exact ⟨by simpa using hentries, htransaction⟩
  refine ⟨?_, ?_, fun hne ↦ ?_⟩
  · rw [hadded.committed]
    exact hinv.committed
  · have hcolumns := hinv.working
    unfold TransactionColumns at *
    rw [Database.serialColumns, hadded.status, hadded.committed]
    rw [Database.serialColumns] at hcolumns
    cases hrow : h.working.status.find source with
    | none =>
      rw [hrow] at hcolumns
      intro hnil
      obtain ⟨hentries, htransaction⟩ := hnone hnil
      rw [JournalTable.serials, hadded.ofSource, hentries, List.append_nil]
      exact hcolumns htransaction
    | some row =>
      rw [hrow] at hcolumns
      exact hcolumns
  · by_cases htransaction : h.statusTracker.newSerialsPerSource source = []
    · rw [hadded.newSerials, htransaction, List.append_nil] at hne
      refine hadded.seen source (Or.inr ?_)
      obtain ⟨serial, hserial⟩ := List.exists_mem_of_ne_nil _ hne
      obtain ⟨e, he, -⟩ := List.mem_map.mp (List.mem_reverse.mp hserial)
      obtain ⟨he, hsource⟩ := List.mem_filter.mp he
      exact ⟨e, he, of_decide_eq_true hsource⟩
    · exact hadded.seen source (Or.inl (hinv.seen htransaction))

theorem ColumnsInvariant.recorded (hinv : ColumnsInvariant source h) (hrec : Recorded s h h') :
    ColumnsInvariant source h' := by
  obtain ⟨entries, hadded⟩ := hrec.entries
  exact hinv.entries hadded

/-- Operations that add no serials and delete no status row. -/
theorem ColumnsInvariant.congr (hinv : ColumnsInvariant source h)
    (hcommitted : h'.committed = h.committed)
    (hrow : h'.working.serialColumns source = h.working.serialColumns source)
    (hjournal : h.working.journal.serials source = [] → h'.working.journal.serials source = [])
    (hserials : h'.statusTracker.newSerialsPerSource source =
      h.statusTracker.newSerialsPerSource source)
    (hseen : ∀ other ∈ h.statusTracker.sourcesSeen, other ∈ h'.statusTracker.sourcesSeen) :
    ColumnsInvariant source h' :=
  ⟨hcommitted ▸ hinv.committed,
    hinv.working.congr hcommitted hrow hjournal (fun hnil ↦ hserials ▸ hnil),
    fun hne ↦ hseen source (hinv.seen (hserials ▸ hne))⟩

/-- A flush adds a serial for every source with a pending entry. -/
theorem flush_pendingEntry {entries : List RPSLDatabaseJournal}
    (hadded : EntriesAdded s h h' entries)
    (hkept : ∀ b ∈ h.rpslUpsertBuffer, b.columns.isVisible →
      (h.journalingEnabled && s.keepJournal b.columns.source) = true →
      ∃ e ∈ entries, e.source = b.columns.source)
    (hpending : pendingEntry s source h) : h'.statusTracker.newSerialsPerSource source ≠ [] := by
  obtain ⟨hjournaling, hkeep, b, hb, hsource, hvisible⟩ := hpending
  obtain ⟨e, he, hesource⟩ := hkept b hb hvisible (by simp [hjournaling, hsource, hkeep])
  rw [hadded.newSerials]
  have hmem : e ∈ entries.filter (fun e ↦ e.source = source) :=
    List.mem_filter.mpr ⟨he, decide_eq_true (hesource.trans hsource)⟩
  intro hnil
  obtain ⟨hentries, -⟩ := List.append_eq_nil_iff.mp hnil
  rw [List.reverse_eq_nil_iff, List.map_eq_nil_iff] at hentries
  exact List.ne_nil_of_mem hmem hentries

/-- A full reload removes the status row and the journal. -/
theorem ColumnsInvariant.reload {other : String} {guaranteed : Bool}
    (hinv : ColumnsInvariant source h)
    (hguaranteed : other = source → guaranteed = true →
      (h.statusTracker.newSerialsPerSource source ≠ [] ∨ pendingEntry s source h) ∨
        h.working.journal.serials source = [])
    (hreload : h.deleteAllRpslObjectsWithJournal s other guaranteed = some h') :
    ColumnsInvariant source h' := by
  obtain ⟨h₁, hflush, hreload⟩ := Option.bind_eq_some_iff.mp hreload
  cases hreload
  obtain ⟨entries, hadded, -, hkept⟩ := flush_entries hflush
  have hinv₁ := hinv.entries hadded
  refine ⟨hinv₁.committed, ?_, hinv₁.seen⟩
  have hrow : (h₁.working.status.filter (fun row ↦ !(row.source = other))).find source =
      if source = other then none else h₁.working.status.find source :=
    h₁.working.status.find_filter_ne_key source other
  by_cases hother : source = other
  · subst hother
    -- The row is gone: what is left of the journal are entries of this transaction.
    unfold TransactionColumns Database.serialColumns
    simp only [DatabaseHandler.removeObjects, hrow, if_pos, Option.map_none]
    intro hnil
    have hnil' := hnil
    rw [hadded.newSerials] at hnil'
    obtain ⟨hentries, htransaction⟩ := List.append_eq_nil_iff.mp hnil'
    rw [List.reverse_eq_nil_iff, List.map_eq_nil_iff] at hentries
    split
    · next hg =>
      rcases hguaranteed rfl hg with (hne | hpending) | hempty
      · exact absurd htransaction hne
      · exact absurd hnil (flush_pendingEntry hadded hkept hpending)
      · rw [JournalTable.serials, hadded.ofSource, hentries, List.append_nil]
        exact hempty
    · simp [JournalTable.serials, JournalTable.ofSource, KeyedTable.filter, List.filter_filter]
  · refine hinv₁.working.congr rfl ?_ (fun hempty ↦ ?_) id
    · simp only [Database.serialColumns, DatabaseHandler.removeObjects, hrow, if_neg hother]
    · have hfilter := serials_filter_of_ne (Ne.symm hother) h₁.working.journal (fun _ ↦ true)
      simp only [Bool.and_true] at hfilter
      dsimp only
      split
      · exact hempty
      · exact hfilter.trans hempty

/-- A forced reload leaves the journal columns. -/
theorem ColumnsInvariant.setForceReload (hinv : ColumnsInvariant source h) (other : String) :
    ColumnsInvariant source (h.setForceReload s other) := by
  refine ⟨hinv.committed, ?_, hinv.seen⟩
  have hcolumns := hinv.working
  unfold TransactionColumns Database.serialColumns at *
  unfold DatabaseHandler.setForceReload DatabaseHandler.updateStatus
  rw [KeyedTable.find_map]
  cases hfind : h.working.status.find source with
  | none =>
    rw [hfind] at hcolumns
    exact hcolumns
  | some row =>
    rw [hfind] at hcolumns
    simp only [Option.map_some]
    split <;> exact hcolumns

/-- Finalising makes the journal columns exact, where the transaction has serials of the source
or the journal has the same ends as the committed one. -/
theorem ColumnsInvariant.finalise (hinv : ColumnsInvariant source h)
    (hends : h.statusTracker.newSerialsPerSource source ≠ [] ∨
      h.working.status.find source = none ∨ SameEnds source h) :
    ExactColumns (h.finaliseTransaction s).working source := by
  obtain ⟨hframe, -, hcolumns⟩ := finaliseTransaction_spec (s := s) h
  have hknown := hinv.working
  unfold ExactColumns
  unfold TransactionColumns at hknown
  rw [hcolumns, hframe.journal]
  by_cases htransaction : h.statusTracker.newSerialsPerSource source = []
  · have hsame (c : SerialColumns) : c.finalise (h.working.journal.serials source)
        (h.statusTracker.newSerialsPerSource source) = c := by
      rw [htransaction]
      rfl
    simp only [hsame, Option.map_id']
    cases hrow : h.working.serialColumns source with
    | none =>
      rw [hrow] at hknown
      have hempty := hknown htransaction
      by_cases hseen : source ∈ h.statusTracker.sourcesSeen <;>
        simp [hseen, hempty, SerialColumns.unset]
    | some c =>
      rw [hrow] at hknown
      have hfind : h.working.status.find source ≠ none := by
        rw [Ne, ← Database.serialColumns_eq_none_iff, hrow]
        exact Option.some_ne_none c
      obtain ⟨hmin, hmax⟩ := (hends.resolve_left (fun hne ↦ hne htransaction)).resolve_left hfind
      have hexact := And.intro (hknown.1.trans hmin.symm) (hknown.2.trans hmax.symm)
      by_cases hseen : source ∈ h.statusTracker.sourcesSeen <;> simpa [hseen] using hexact
  · rw [if_pos (hinv.seen htransaction)]
    simp [SerialColumns.finalise, htransaction]

/-- The evaluation of route preferences before a commit adds entries of the objects that change
and are visible otherwise. -/
theorem preCommit_entries (hempty : h.rpslUpsertBuffer = [])
    (hpre : h.preCommit s = some h') : ∃ entries, EntriesAdded s h h' entries ∧
      ∀ e ∈ entries, ∃ changed ∈ changedRoutes s h.working.objects.rows
        h.changedObjectsTracker.filterPrefixes, ∃ row ∈ changed.1 ++ changed.2,
          row.source = e.source ∧ DatabaseHandler.otherwiseVisible row.toDict ∧
            h.changedObjectsTracker.filterPrefixes ≠ [] := by
  have hnothing : ∃ entries, EntriesAdded s h h entries ∧
      ∀ e ∈ entries, ∃ changed ∈ changedRoutes s h.working.objects.rows
        h.changedObjectsTracker.filterPrefixes, ∃ row ∈ changed.1 ++ changed.2,
          row.source = e.source ∧ DatabaseHandler.otherwiseVisible row.toDict ∧
            h.changedObjectsTracker.filterPrefixes ≠ [] :=
    ⟨[], .refl, fun e he ↦ (List.not_mem_nil he).elim⟩
  unfold DatabaseHandler.preCommit at hpre
  dsimp only at hpre
  split at hpre
  · cases hpre
    exact hnothing
  · next hprefixes =>
    unfold DatabaseHandler.evaluateRoutePreference DatabaseHandler.flushRpslObjectWritingBuffer
      at hpre
    rw [if_pos hempty] at hpre
    split at hpre
    · cases hpre
      exact hnothing
    · simp only [Option.bind_eq_bind, Option.bind_some] at hpre
      split at hpre
      · cases hpre
        exact hnothing
      · next nowVisible nowSuppressed hchanged =>
        obtain ⟨h₁, hvisible, hpre⟩ := Option.bind_eq_some_iff.mp hpre
        obtain ⟨h₂, hsuppressed, hpre⟩ := Option.bind_eq_some_iff.mp hpre
        cases hpre
        obtain ⟨first, hfirst, hfirstItems⟩ := recordDicts_entries hvisible
        obtain ⟨second, hsecond, hsecondItems⟩ := recordDicts_entries hsuppressed
        refine ⟨first ++ second, (hfirst.trans hsecond).same ⟨rfl, rfl, rfl, rfl, rfl, rfl, rfl⟩,
          fun e he ↦ ⟨(nowVisible, nowSuppressed), hchanged, ?_⟩⟩
        rcases List.mem_append.mp he with he | he
        · obtain ⟨d, hd, hqualifies, hsource⟩ := hfirstItems e he
          obtain ⟨row, hrow, rfl⟩ := List.mem_map.mp hd
          exact ⟨row, List.mem_append_left _ hrow, hsource, hqualifies, hprefixes⟩
        · obtain ⟨d, hd, hqualifies, hsource⟩ := hsecondItems e he
          obtain ⟨row, hrow, rfl⟩ := List.mem_map.mp hd
          exact ⟨row, List.mem_append_right _ hrow, hsource, hqualifies, hprefixes⟩

/-- Where no change of the route preference is journaled, the evaluation before a commit adds no
entry of the source. -/
theorem JournalsNoRoutePreference.entries {h₃ h₄ : DatabaseHandler}
    {entries : List RPSLDatabaseJournal} (hquiet : JournalsNoRoutePreference s source h)
    (hempty : h₃.rpslUpsertBuffer = []) (hflushed : flushedObjects h = some h₃.working.objects)
    (hchanged : h₃.changedObjectsTracker = h.changedObjectsTracker)
    (hjournaling : h₃.journalingEnabled = h.journalingEnabled) (hpre : h₃.preCommit s = some h₄)
    (hadded : EntriesAdded s h₃ h₄ entries) :
    entries.filter (fun e ↦ e.source = source) = [] := by
  obtain ⟨more, hmore, hrows⟩ := preCommit_entries hempty hpre
  have hsame : entries = more := List.append_cancel_left (hadded.journal.symm.trans hmore.journal)
  subst hsame
  rw [List.filter_eq_nil_iff]
  intro e he hsource
  have hsource := of_decide_eq_true hsource
  obtain ⟨hkept, hkeep⟩ := hadded.kept e he
  obtain ⟨changed, hroutes, row, hrow, hrsource, hvisible, hprefixes⟩ := hrows e he
  rw [hchanged] at hroutes hprefixes
  have hhidden := hquiet (hjournaling ▸ hkept) (hsource ▸ hkeep) hprefixes _ hflushed
    changed hroutes
    row hrow (hrsource.trans hsource)
  rw [hhidden] at hvisible
  cases hvisible

/-- Exact columns are what the next transaction knows of them. -/
theorem ExactColumns.transactionColumns (hexact : ExactColumns h.committed source)
    (hworking : h.working = h.committed) : TransactionColumns h source := by
  unfold ExactColumns at hexact
  unfold TransactionColumns
  rw [hworking]
  cases hrow : h.committed.serialColumns source with
  | none =>
    rw [hrow] at hexact
    exact fun _ ↦ hexact
  | some c =>
    rw [hrow] at hexact
    exact hexact

/-- Committing makes the journal columns exact. -/
theorem ColumnsInvariant.commit (hinv : ColumnsInvariant source h)
    (hquiet : JournalsNoRoutePreference s source h)
    (hends : (h.statusTracker.newSerialsPerSource source ≠ [] ∨ pendingEntry s source h) ∨
      h.working.status.find source = none ∨ SameEnds source h)
    (hcommit : h.commit s = some h') : ColumnsInvariant source h' := by
  obtain ⟨h₁, hflush, hcommit⟩ := Option.bind_eq_some_iff.mp hcommit
  obtain ⟨h₂, hroa, hcommit⟩ := Option.bind_eq_some_iff.mp hcommit
  obtain ⟨h₄, hpre, hcommit⟩ := Option.bind_eq_some_iff.mp hcommit
  cases hcommit
  obtain ⟨entries, hadded₁, -, hkept⟩ := flush_entries hflush
  obtain ⟨hobjects, hbuffer, hchanged⟩ := flush_objects hflush
  have hadded : EntriesAdded s h h₂ entries := by
    obtain ⟨roas, rfl⟩ := DatabaseHandler.flushRoaWritingBuffer_eq_some hroa
    exact hadded₁.same ⟨rfl, rfl, rfl, rfl, rfl, rfl, rfl⟩
  have hroa₂ : h₂.rpslUpsertBuffer = [] ∧ flushedObjects h = some h₂.working.objects ∧
      h₂.changedObjectsTracker = h.changedObjectsTracker := by
    obtain ⟨roas, rfl⟩ := DatabaseHandler.flushRoaWritingBuffer_eq_some hroa
    exact ⟨hbuffer, hobjects, hchanged⟩
  have hends₂ : h₂.statusTracker.newSerialsPerSource source ≠ [] ∨
      h₂.working.status.find source = none ∨ SameEnds source h₂ := by
    by_cases hnil : h₂.statusTracker.newSerialsPerSource source = []
    · -- Without new serials the flush added no entry of the source.
      have hnil' := hnil
      rw [hadded.newSerials] at hnil'
      obtain ⟨hentries, htransaction⟩ := List.append_eq_nil_iff.mp hnil'
      rw [List.reverse_eq_nil_iff, List.map_eq_nil_iff] at hentries
      rcases hends with (hne | hpending) | hrow | hsame
      · exact absurd htransaction hne
      · exact absurd hnil (flush_pendingEntry hadded hkept hpending)
      · exact Or.inr (Or.inl (hadded.status ▸ hrow))
      · refine Or.inr (Or.inr ?_)
        have hserials : h₂.working.journal.serials source = h.working.journal.serials source := by
          rw [JournalTable.serials, hadded.ofSource, hentries, List.append_nil]
          rfl
        unfold SameEnds
        rw [hserials, hadded.committed]
        exact hsame
    · exact Or.inl hnil
  have hexact := (hinv.entries hadded).finalise (s := s) hends₂
  obtain ⟨hframe, -⟩ := finaliseTransaction_spec (s := s) h₂
  let h₃ := if (h₂.finaliseTransaction s).journalingEnabled then h₂.finaliseTransaction s
    else { h₂.finaliseTransaction s with committed := (h₂.finaliseTransaction s).working }
  have hpre' : h₃.preCommit s = some h₄ := hpre
  have hsame₃ : h₃.working = (h₂.finaliseTransaction s).working ∧
      h₃.journalingEnabled = (h₂.finaliseTransaction s).journalingEnabled ∧
      h₃.rpslUpsertBuffer = (h₂.finaliseTransaction s).rpslUpsertBuffer ∧
      h₃.changedObjectsTracker = (h₂.finaliseTransaction s).changedObjectsTracker := by
    unfold h₃
    split <;> exact ⟨rfl, rfl, rfl, rfl⟩
  obtain ⟨hworking₃, hjournaling₃, hbuffer₃, hchanged₃⟩ := hsame₃
  have hempty₃ : h₃.rpslUpsertBuffer = [] := by
    rw [hbuffer₃, hframe.buffer]
    exact hroa₂.1
  obtain ⟨more, hmore, -⟩ := preCommit_entries hempty₃ hpre'
  have hnone : more.filter (fun e ↦ e.source = source) = [] := by
    refine hquiet.entries hempty₃ ?_ ?_ ?_ hpre' hmore
    · rw [hworking₃, hframe.objects]
      exact hroa₂.2.1
    · rw [hchanged₃, hframe.changed, hroa₂.2.2]
    · rw [hjournaling₃, hframe.journalingEnabled, hadded.journalingEnabled]
  have hexact₄ : ExactColumns h₄.working source := by
    have hjournal : h₄.working.journal.serials source = h₃.working.journal.serials source := by
      rw [JournalTable.serials, hmore.ofSource, hnone, List.append_nil]
      rfl
    have hcolumns : h₄.working.serialColumns source = h₃.working.serialColumns source := by
      rw [Database.serialColumns, Database.serialColumns, hmore.status]
    unfold ExactColumns at *
    rw [hcolumns, hjournal, hworking₃]
    exact hexact
  exact ⟨hexact₄, ExactColumns.transactionColumns hexact₄ rfl, fun hne ↦ absurd rfl hne⟩

/-- Every operation that keeps the journal columns exact preserves the invariant. -/
theorem ColumnsInvariant.perform {op : HandlerOperation} (hinv : ColumnsInvariant source h)
    (hkeeps : KeepsColumns s source h ⟨h.now, op⟩) (hperform : h.perform s op = some h') :
    ColumnsInvariant source h' := by
  have hseen {t : DatabaseStatusTracker} (other : String)
      (hserials : t.newSerialsPerSource = h.statusTracker.newSerialsPerSource)
      (hseen : t.sourcesSeen = h.statusTracker.sourcesSeen) :
      ColumnsInvariant source (h.seen other t) :=
    hinv.congr rfl rfl id (congrFun hserials source)
      (fun _ hmem ↦ List.mem_insert_of_mem (hseen ▸ hmem))
  cases op with
  | upsertRpslObject o origin guaranteed sourceSerial created =>
    exact hinv.recorded (recorded_upsert hperform)
  | updateRpkiStatus nowValid nowInvalid nowNotFound =>
    exact hinv.recorded (recorded_updateRpkiStatus hperform)
  | updateScopefilterStatus nowInScope nowOutScopeAs nowOutScopePrefix =>
    exact hinv.recorded (recorded_updateScopefilterStatus hperform)
  | updateRoutePreferenceStatus nowVisible nowSuppressed =>
    exact hinv.recorded (recorded_updateRoutePreferenceStatus hperform)
  | evaluateRoutePreference filterPrefixes =>
    exact hinv.recorded (recorded_evaluateRoutePreference hperform)
  | deleteRpslObject origin a sourceSerial protect =>
    exact hinv.recorded (recorded_delete hperform)
  | suspendRpslObject pk => exact hinv.recorded (recorded_suspend hperform)
  | deleteSuspendedRpslObjects pks => exact hinv.recorded (recorded_deleteSuspended hperform)
  | executeQuery => exact hinv.recorded (recorded_flush hperform)
  | deleteJournalEntriesBeforeDate timestamp other =>
    obtain ⟨h₁, hflush, hexpire⟩ := Option.bind_eq_some_iff.mp hperform
    cases hexpire
    refine (hinv.recorded (recorded_flush hflush)).congr rfl rfl ?_ rfl (fun _ ↦ id)
    intro hempty
    rw [JournalTable.serials, List.map_eq_nil_iff, JournalTable.ofSource,
      List.filter_eq_nil_iff] at hempty ⊢
    exact fun e he ↦ hempty e (List.mem_filter.mp he).1
  | deleteAllRpslObjectsWithJournal other guaranteed => exact hinv.reload hkeeps hperform
  | setForceReload other =>
    cases hperform
    exact hinv.setForceReload other
  | recordSerialSeen other serial =>
    cases hperform
    refine ⟨hinv.committed, hinv.working.congr rfl rfl id ?_, fun hne ↦ ?_⟩ <;>
      by_cases hother : source = other
    · subst hother
      simp [DatabaseHandler.recordSerialSeen, DatabaseHandler.seen]
    · simp [DatabaseHandler.recordSerialSeen, DatabaseHandler.seen, Function.update_of_ne hother]
    · exact hother ▸ List.mem_insert_self
    · refine List.mem_insert_of_mem (hinv.seen ?_)
      simpa [DatabaseHandler.recordSerialSeen, DatabaseHandler.seen, hother] using hne
  | recordSerialNewestMirror other serial =>
    cases hperform
    exact hseen other rfl rfl
  | recordMirrorError other error =>
    cases hperform
    exact hseen other rfl rfl
  | recordSerialExported other serial =>
    cases hperform
    exact hseen other rfl rfl
  | recordNrtm4ClientStatus other status =>
    cases hperform
    exact hseen other rfl rfl
  | recordNrtm4ServerStatus other status =>
    cases hperform
    exact hseen other rfl rfl
  | insertRoaObject roa | deleteAllRoaObjects | disableJournaling | enableJournaling =>
    cases hperform
    exact hinv.congr rfl rfl id rfl (fun _ ↦ id)
  | commit => exact hinv.commit hkeeps.1 hkeeps.2 hperform
  | rollback =>
    cases hperform
    exact ⟨hinv.committed, ExactColumns.transactionColumns (h := h.rollback) hinv.committed rfl,
      fun hne ↦ absurd rfl hne⟩

end Operations

/-- A handler before its first operation, on a database without status row and journal of the
source. -/
structure InitialColumns (source : String) (h : DatabaseHandler) : Prop where
  tracker : h.statusTracker = .reset
  working : h.working = h.committed
  status : h.committed.status.find source = none
  journal : h.committed.journal.serials source = []

theorem InitialColumns.invariant {source : String} {h : DatabaseHandler}
    (hinitial : InitialColumns source h) : ColumnsInvariant source h := by
  have hexact : ExactColumns h.committed source := by
    unfold ExactColumns
    rw [(Database.serialColumns_eq_none_iff _ _).mpr hinitial.status]
    exact hinitial.journal
  refine ⟨hexact, hexact.transactionColumns hinitial.working, fun hne ↦ ?_⟩
  rw [hinitial.tracker] at hne
  exact absurd rfl hne

/-- In every run whose steps keep the columns of a source, they are exact in the committed
database of every state. -/
theorem exactColumns_of_reaches {s : Settings} {source : String} {h h' : DatabaseHandler}
    (hinitial : InitialColumns source h)
    (hreach : Reaches (DatabaseHandler.step s) (KeepsColumns s source) h h') :
    ExactColumns h'.committed source := by
  have hinv : ColumnsInvariant source h' := hreach.invariant (P := ColumnsInvariant source) (by
    intro h h' a hinv hkeeps hstep
    have hnow : ColumnsInvariant source { h with now := a.now } :=
      hinv.congr rfl rfl id rfl (fun _ ↦ id)
    exact hnow.perform hkeeps hstep) hinitial.invariant
  exact hinv.committed

end Irrd.Storage
