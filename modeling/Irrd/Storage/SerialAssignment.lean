import Irrd.Storage.RecordedOperations

/-!
# Assignment of local serials

Which serials the journal entries of a source in local serial mode get. The highest serial
since the last full reload is kept beside a run of the handler, for this transaction and for
the committed ones; no operation reads it.
-/

namespace Irrd.Storage

open Irrd.Base Irrd.Conf

/-- A handler, with the highest serial that was assigned to a source or recorded as seen since
the last full reload of the source: including this transaction, and committed. -/
structure SerialRun where
  handler : DatabaseHandler
  highest : Nat
  committedHighest : Nat

/-- The serials of the entries of a source that were written between two states. -/
def newSerials (source : String) (h h' : DatabaseHandler) : List Nat :=
  ((h'.written.drop h.written.length).filter (fun e ↦ e.source = source)).map
    RPSLDatabaseJournal.serialNrtm

/-- The highest serial of a source after an operation that leads to an assigned serial. -/
def highestAfter (source : String) (committedHighest assigned : Nat) : HandlerOperation → Nat
  | .deleteAllRpslObjectsWithJournal other _ => if other = source then 0 else assigned
  | .recordSerialSeen other serial => if other = source then max assigned serial else assigned
  | .rollback => committedHighest
  | _ => assigned

/-- One action, with what it means for the highest serial of a source. -/
def serialStep (s : Settings) (source : String) (t : SerialRun) (a : HandlerAction) :
    Option SerialRun :=
  (t.handler.step s a).map (fun h ↦
    let assigned := (newSerials source t.handler h).foldl max t.highest
    let highest := highestAfter source t.committedHighest assigned a.operation
    match a.operation with
    | .commit => ⟨h, highest, highest⟩
    | _ => ⟨h, highest, t.committedHighest⟩)

/-- The source is in local serial mode. -/
def LocalSerials (s : Settings) (source : String) (h : DatabaseHandler) : Prop :=
  h.isSerialSynchronised s source = false

/-- There is an upsert of the source in the buffer that the journal will show. -/
def pendingEntry (s : Settings) (source : String) (h : DatabaseHandler) : Prop :=
  h.journalingEnabled ∧ s.keepJournal source ∧
    ∃ b ∈ h.rpslUpsertBuffer, b.columns.source = source ∧ b.columns.isVisible

/-- The newest serial column of a source, or zero. -/
def newestSeen (db : Database) (source : String) : Nat :=
  ((db.serialColumns source).bind SerialColumns.newestSeen).getD 0

/-- Expiry leaves what the next serial follows: the newest entry and, without a status row, the
first one. Or it leaves no entry, and the newest serial is in the status row. -/
def ExpiresOthers (source : String) (db : Database) (timestamp : Nat) : Prop :=
  let newest := (db.journal.serials source).max?
  (∀ e ∈ db.journal.ofSource source, e.timestamp < timestamp → newest ≠ some e.serialNrtm ∧
      (db.status.find source = none → e.serialNrtm ≠ 1)) ∨
    (∀ e ∈ db.journal.ofSource source, e.timestamp < timestamp) ∧
      newest = some (newestSeen db source)

/-- What keeps the newest serial of a source known. Within a transaction its tracker knows the
serials, so expiry and a forced reload only matter before the first one. A commit drops the
tracker, so by then a serial that was recorded as seen is in the journal, or there is no
journal. A full reload starts before the first serial of a transaction, and promises an empty
journal only where it is empty. -/
def KeepsSerials (s : Settings) (source : String) (h : DatabaseHandler) (a : HandlerAction) :
    Prop :=
  let serials := h.working.journal.serials source
  let transaction := h.statusTracker.newSerialsPerSource source
  match a.operation with
  | .deleteJournalEntriesBeforeDate timestamp other => other = source →
      transaction ≠ [] ∨ pendingEntry s source h ∨ ExpiresOthers source h.working timestamp
  | .setForceReload other => other = source →
      transaction ≠ [] ∨ serials ≠ [] ∨ newestSeen h.working source = 0
  | .recordSerialSeen other serial => other = source →
      transaction ≠ [] ∨ serials.max?.getD (newestSeen h.working source) ≤ serial
  | .deleteAllRpslObjectsWithJournal other guaranteed => other = source →
      transaction = [] ∧ ¬ pendingEntry s source h ∧ (guaranteed = true → serials = [])
  | .commit => transaction = [] ∨ pendingEntry s source h ∨ serials = [] ∨
      serials.max? = transaction.max?
  | _ => True

/-- What the tables say about the highest serial, between transactions. -/
structure Settled (db : Database) (source : String) (highest : Nat) : Prop where
  journal : db.journal.serials source ≠ [] → (db.journal.serials source).max? = some highest
  seen : db.journal.serials source = [] → newestSeen db source = highest
  newest : newestSeen db source ≤ highest
  rowless : db.status.find source = none → db.journal.serials source ≠ [] →
    1 ∈ db.journal.serials source

/-- What a handler's state says about the highest serial, also within a transaction. -/
structure SerialInvariant (source : String) (h : DatabaseHandler) (highest : Nat) : Prop where
  journal : ∀ serial ∈ h.working.journal.serials source, serial ≤ highest
  newest : newestSeen h.working source ≤ highest
  settled : h.statusTracker.newSerialsPerSource source = [] → Settled h.working source highest
  transaction : h.statusTracker.newSerialsPerSource source ≠ [] →
    (h.statusTracker.newSerialsPerSource source).max? = some highest ∧
      source ∈ h.statusTracker.sourcesSeen

section Maxima

theorem max?_cons_of_max? {xs : List Nat} {n m : Nat} (hxs : xs ≠ [] → xs.max? = some n)
    (hle : n ≤ m) : (m :: xs).max? = some m := by
  rw [List.max?_eq_some_iff]
  refine ⟨List.mem_cons_self, fun k hk ↦ ?_⟩
  rcases List.mem_cons.mp hk with rfl | hk
  · exact Nat.le_refl _
  · have hmax := (List.max?_eq_some_iff.mp (hxs (List.ne_nil_of_mem hk))).2 k hk
    omega

theorem max?_concat_of_le {xs : List Nat} {n m : Nat} (hxs : ∀ k ∈ xs, k ≤ n) (hle : n ≤ m) :
    (xs ++ [m]).max? = some m := by
  rw [List.max?_eq_some_iff]
  refine ⟨List.mem_append_right _ List.mem_cons_self, fun k hk ↦ ?_⟩
  rcases List.mem_append.mp hk with hk | hk
  · have hk := hxs k hk
    omega
  · exact Nat.le_of_eq (List.mem_singleton.mp hk)

theorem foldl_max_range' (n k : Nat) : (List.range' (n + 1) k).foldl max n = n + k := by
  induction k generalizing n with
  | zero => rfl
  | succ k ih =>
    rw [List.range'_succ, List.foldl_cons, Nat.max_eq_right (Nat.le_succ n), ih]
    omega

end Maxima

section Invariant

variable {source : String} {db db' : Database} {h h' : DatabaseHandler} {highest : Nat}

theorem newestSeen_congr (hcolumns : db'.serialColumns source = db.serialColumns source) :
    newestSeen db' source = newestSeen db source := by
  rw [newestSeen, newestSeen, hcolumns]

/-- What the tables say depends on the serials and the columns of the source. -/
theorem Settled.congr (hsettled : Settled db source highest)
    (hjournal : db'.journal.serials source = db.journal.serials source)
    (hcolumns : db'.serialColumns source = db.serialColumns source) :
    Settled db' source highest := by
  have hnewest := newestSeen_congr hcolumns
  refine ⟨?_, ?_, ?_, ?_⟩
  · rw [hjournal]
    exact hsettled.journal
  · rw [hjournal, hnewest]
    exact hsettled.seen
  · rw [hnewest]
    exact hsettled.newest
  · rw [hjournal, ← Database.serialColumns_eq_none_iff, hcolumns,
      Database.serialColumns_eq_none_iff]
    exact hsettled.rowless

/-- What the invariant says depends on the serials, the columns and the tracker. -/
theorem SerialInvariant.congr (hinv : SerialInvariant source h highest)
    (hjournal : h'.working.journal.serials source = h.working.journal.serials source)
    (hcolumns : h'.working.serialColumns source = h.working.serialColumns source)
    (hserials : h'.statusTracker.newSerialsPerSource source =
      h.statusTracker.newSerialsPerSource source)
    (hseen : ∀ other ∈ h.statusTracker.sourcesSeen, other ∈ h'.statusTracker.sourcesSeen) :
    SerialInvariant source h' highest := by
  refine ⟨?_, ?_, ?_, ?_⟩
  · rw [hjournal]
    exact hinv.journal
  · rw [newestSeen_congr hcolumns]
    exact hinv.newest
  · rw [hserials]
    exact fun hnil ↦ (hinv.settled hnil).congr hjournal hcolumns
  · rw [hserials]
    intro hne
    obtain ⟨hmax, hmem⟩ := hinv.transaction hne
    exact ⟨hmax, hseen source hmem⟩

theorem Settled.le (hsettled : Settled db source highest) :
    ∀ serial ∈ db.journal.serials source, serial ≤ highest := by
  intro serial hserial
  have hmax := hsettled.journal (List.ne_nil_of_mem hserial)
  exact (List.max?_eq_some_iff.mp hmax).2 serial hserial

end Invariant

section Recording

variable {s : Settings} {source : String} {h h' : DatabaseHandler} {op : Operation}
  {highest : Nat}

/-- In local mode the next serial follows the highest one, or is taken already. -/
theorem SerialInvariant.serialFor (hinv : SerialInvariant source h highest)
    (hlocal : LocalSerials s source h) {sourceSerial : Option Nat} {serial : Nat}
    (hserial : h.serialFor s source sourceSerial = some serial)
    (hfresh : serial ∉ h.working.journal.serials source) : serial = highest + 1 := by
  unfold DatabaseHandler.serialFor at hserial
  rw [if_neg (by rw [hlocal]; exact Bool.false_ne_true)] at hserial
  by_cases htransaction : h.statusTracker.newSerialsPerSource source = []
  · have hsettled := hinv.settled htransaction
    rw [htransaction] at hserial
    have hnext : h.working.nextSerial source = serial := Option.some_inj.mp hserial
    unfold Database.nextSerial at hnext
    split at hnext
    · next hnone =>
      subst hnext
      have hempty : h.working.journal.serials source = [] := by
        by_contra hne
        exact hfresh (hsettled.rowless hnone hne)
      have hseen := hsettled.seen hempty
      rw [newestSeen, Database.serialColumns, hnone] at hseen
      exact congrArg (· + 1) hseen
    · next row hrow =>
      by_cases hempty : h.working.journal.serials source = []
      · have hseen := hsettled.seen hempty
        rw [newestSeen, Database.serialColumns, hrow] at hseen
        rw [hempty] at hnext
        rw [← hnext, ← hseen]
        rfl
      · rw [hsettled.journal hempty] at hnext
        exact hnext.symm
  · rw [(hinv.transaction htransaction).1] at hserial
    exact (Option.some_inj.mp hserial).symm

/-- The handler has gone on to consecutive serials of the source. -/
structure Advanced (s : Settings) (source : String) (highest : Nat) (h h' : DatabaseHandler)
    (count : Nat) : Prop where
  invariant : SerialInvariant source h' (highest + count)
  serials : newSerials source h h' = List.range' (highest + 1) count
  settled : Settled h.working source highest → Settled h'.working source (highest + count)
  written : h.written.IsPrefix h'.written
  localSerials : LocalSerials s source h'

theorem SerialInvariant.advanced (hinv : SerialInvariant source h highest)
    (hlocal : LocalSerials s source h) : Advanced s source highest h h 0 :=
  ⟨hinv, by simp [newSerials], id, List.prefix_rfl, hlocal⟩

/-- What was written in two parts. -/
theorem newSerials_trans {h'' : DatabaseHandler} (hfirst : h.written.IsPrefix h'.written)
    (hsecond : h'.written.IsPrefix h''.written) :
    newSerials source h h'' = newSerials source h h' ++ newSerials source h' h'' := by
  obtain ⟨first, hfirst⟩ := hfirst
  obtain ⟨second, hsecond⟩ := hsecond
  have hboth : h''.written = h.written ++ (first ++ second) := by
    rw [← hsecond, ← hfirst, List.append_assoc]
  unfold newSerials
  rw [hboth, List.drop_left, ← hfirst, List.drop_left,
    ← List.append_assoc h.written first second, List.drop_left, List.filter_append,
    List.map_append]

theorem Advanced.trans {h'' : DatabaseHandler} {n m : Nat}
    (hfirst : Advanced s source highest h h' n)
    (hsecond : Advanced s source (highest + n) h' h'' m) :
    Advanced s source highest h h'' (n + m) := by
  refine ⟨by rw [← Nat.add_assoc]; exact hsecond.invariant, ?_, ?_,
    hfirst.written.trans hsecond.written, hsecond.localSerials⟩
  · have hrange : highest + n + 1 = highest + 1 + n := by omega
    rw [newSerials_trans hfirst.written hsecond.written, hfirst.serials, hsecond.serials, hrange,
      List.range'_append_1]
  · intro hsettled
    rw [← Nat.add_assoc]
    exact hsecond.settled (hfirst.settled hsettled)

/-- Changes that serials do not depend on. -/
theorem Advanced.same {h'' : DatabaseHandler} {n : Nat}
    (hfirst : Advanced s source highest h h' n) (hsame : SameSerials h' h'') :
    Advanced s source highest h h'' n := by
  obtain ⟨-, hjournal, hstatus, -, htracker, -, hwritten⟩ := hsame
  have hserials : h''.working.journal.serials source = h'.working.journal.serials source := by
    rw [hjournal]
  have hcolumns : h''.working.serialColumns source = h'.working.serialColumns source := by
    rw [Database.serialColumns, Database.serialColumns, hstatus]
  refine ⟨hfirst.invariant.congr hserials hcolumns (by rw [htracker]) (by rw [htracker]; simp), ?_,
    fun hs ↦ (hfirst.settled hs).congr hserials hcolumns, hwritten ▸ hfirst.written, ?_⟩
  · rw [← hfirst.serials, newSerials, newSerials, hwritten]
  · have hlocal := hfirst.localSerials
    unfold LocalSerials DatabaseHandler.isSerialSynchronised Database.isSerialSynchronised at *
    rw [htracker, hstatus]
    exact hlocal

/-- Recording an operation uses the next serial, if it is one of the source and there is a
journal. -/
theorem SerialInvariant.record (hinv : SerialInvariant source h highest)
    (hlocal : LocalSerials s source h) (hrecord : h.recordOperation s op = some h') :
    ∃ n, Advanced s source highest h h' n := by
  obtain ⟨hframe, hcases⟩ := recordOperation_eq_some hrecord
  have hlocal' : LocalSerials s source h' := (hframe.synchronised source).trans hlocal
  rcases hcases with ⟨-, rfl⟩ | ⟨-, serial, hserial, hinserted⟩
  · exact ⟨0, hinv.congr rfl rfl rfl (fun _ ↦ List.mem_insert_of_mem), by simp [newSerials,
      DatabaseHandler.seeSource], id, List.prefix_rfl, hlocal'⟩
  · have hserials := hinserted.serials source
    have hcolumns : h'.working.serialColumns source = h.working.serialColumns source := by
      rw [Database.serialColumns, Database.serialColumns, hinserted.status]
    obtain ⟨e, hesource, heserial, -, -, -, -, -, -, -, hwritten⟩ := hinserted.entry
    have hprefix : h.written.IsPrefix h'.written := hwritten ▸ List.prefix_append _ _
    have hnew : newSerials source h h' = if op.source = source then [serial] else [] := by
      rw [newSerials, hwritten, List.drop_left]
      by_cases hop : op.source = source <;> simp [hesource, heserial, hop]
    by_cases hop : op.source = source
    · rw [if_pos hop] at hserials hnew
      rw [hop] at hserial
      have hnext := hinv.serialFor hlocal hserial (hop ▸ hinserted.fresh)
      subst hnext
      have hmax : (h'.working.journal.serials source).max? = some (highest + 1) := by
        rw [hserials]
        exact max?_concat_of_le hinv.journal (Nat.le_succ _)
      have hnewest : newestSeen h'.working source ≤ highest + 1 := by
        rw [newestSeen_congr hcolumns]
        exact Nat.le_succ_of_le hinv.newest
      have hsettled (hs : Settled h.working source highest) :
          Settled h'.working source (highest + 1) := by
        refine ⟨fun _ ↦ hmax, fun hnil ↦ by simp [hserials] at hnil, hnewest, ?_⟩
        intro hnone _
        rw [hinserted.status] at hnone
        rw [hserials]
        by_cases hempty : h.working.journal.serials source = []
        · -- The first serial of a source without a status row is 1.
          have hzero := hs.seen hempty
          rw [newestSeen, Database.serialColumns, hnone] at hzero
          simp [← hzero]
        · exact List.mem_append_left _ (hs.rowless hnone hempty)
      have hnewSerials : h'.statusTracker.newSerialsPerSource source =
          (highest + 1) :: h.statusTracker.newSerialsPerSource source := by
        rw [hinserted.newSerials, hop, Function.update_self]
      refine ⟨1, ⟨(List.max?_eq_some_iff.mp hmax).2, hnewest, ?_, ?_⟩, hnew, hsettled, hprefix,
        hlocal'⟩
      · intro hnil
        rw [hnewSerials] at hnil
        cases hnil
      · intro _
        refine ⟨?_, ?_⟩
        · rw [hnewSerials]
          exact max?_cons_of_max? (fun h ↦ (hinv.transaction h).1) (Nat.le_succ _)
        · rw [hframe.seen, hop]
          exact List.mem_insert_self
    · rw [if_neg hop, List.append_nil] at hserials
      rw [if_neg hop] at hnew
      have hnewSerials : h'.statusTracker.newSerialsPerSource source =
          h.statusTracker.newSerialsPerSource source := by
        rw [hinserted.newSerials, Function.update_of_ne (Ne.symm hop)]
      refine ⟨0, hinv.congr hserials hcolumns hnewSerials ?_, hnew,
        fun hs ↦ hs.congr hserials hcolumns, hprefix, hlocal'⟩
      intro other hother
      rw [hframe.seen]
      exact List.mem_insert_of_mem hother

/-- An operation that only records keeps to consecutive serials. -/
theorem SerialInvariant.recorded (hinv : SerialInvariant source h highest)
    (hlocal : LocalSerials s source h) (hrecorded : Recorded s h h') :
    ∃ n, Advanced s source highest h h' n := by
  refine hrecorded.invariant (P := fun h' ↦ ∃ n, Advanced s source highest h h' n) ?_ ?_
    ⟨0, hinv.advanced hlocal⟩
  · rintro a b ⟨n, ha⟩ hsame
    exact ⟨n, ha.same hsame⟩
  · rintro a b op ⟨n, ha⟩ hop
    obtain ⟨m, hb⟩ := ha.invariant.record ha.localSerials hop
    exact ⟨n + m, ha.trans hb⟩

/-- A source in local mode with a status row, or without entries, numbers its entries above those
of its journal. -/
theorem SerialInvariant.numbersEntries (hinv : SerialInvariant source h highest)
    (hlocal : LocalSerials s source h)
    (hstatus : h.working.status.find source = none → h.working.journal.serials source = []) :
    NumbersEntries s source h := by
  refine ⟨hlocal, fun serial hserial n hn ↦ ?_⟩
  have hle := hinv.journal n hn
  suffices hnext : serial = highest + 1 by omega
  unfold DatabaseHandler.serialFor at hserial
  rw [if_neg (by rw [hlocal]; exact Bool.false_ne_true)] at hserial
  by_cases htransaction : h.statusTracker.newSerialsPerSource source = []
  · rw [htransaction] at hserial
    have hnext : h.working.nextSerial source = serial := Option.some_inj.mp hserial
    unfold Database.nextSerial at hnext
    split at hnext
    · next hnone =>
      rw [hstatus hnone] at hn
      cases hn
    · rw [(hinv.settled htransaction).journal (List.ne_nil_of_mem hn)] at hnext
      exact hnext.symm
  · rw [(hinv.transaction htransaction).1] at hserial
    exact (Option.some_inj.mp hserial).symm

end Recording

section Operations

variable {s : Settings} {source : String} {h h' : DatabaseHandler} {highest : Nat}

/-- Finalising makes the tables agree with the highest serial, if the journal is empty or has
it. -/
theorem SerialInvariant.finalise (hinv : SerialInvariant source h highest)
    (hlocal : LocalSerials s source h)
    (hjournal : h.working.journal.serials source ≠ [] →
      (h.working.journal.serials source).max? = some highest) :
    Advanced s source highest h (h.finaliseTransaction s) 0 ∧
      Settled (h.finaliseTransaction s).working source highest := by
  obtain ⟨hframe, hsync, hcolumns⟩ := finaliseTransaction_spec (s := s) h
  have hcolumns := hcolumns source
  have hsettled : Settled (h.finaliseTransaction s).working source highest := by
    by_cases htransaction : h.statusTracker.newSerialsPerSource source = []
    · -- Without new serials at most a row without serials is added.
      obtain ⟨hsJournal, hsSeen, hsNewest, hsRowless⟩ := hinv.settled htransaction
      have hsame (c : SerialColumns) : c.finalise (h.working.journal.serials source)
          (h.statusTracker.newSerialsPerSource source) = c := by
        rw [htransaction]
        rfl
      simp only [hsame, Option.map_id'] at hcolumns
      have hnewest : newestSeen (h.finaliseTransaction s).working source =
          newestSeen h.working source := by
        rw [newestSeen, newestSeen, hcolumns]
        split
        · cases h.working.serialColumns source <;> rfl
        · rfl
      refine ⟨?_, ?_, ?_, ?_⟩
      · rw [hframe.journal]
        exact hsJournal
      · rw [hframe.journal, hnewest]
        exact hsSeen
      · rw [hnewest]
        exact hsNewest
      · rw [hframe.journal, ← Database.serialColumns_eq_none_iff, hcolumns]
        split
        · intro hnone
          cases hnone
        · rw [Database.serialColumns_eq_none_iff]
          exact hsRowless
    · obtain ⟨hmax, hmem⟩ := hinv.transaction htransaction
      rw [if_pos hmem] at hcolumns
      -- The newest of the old column, the journal and the transaction is the highest serial.
      have hnewest : newestSeen (h.finaliseTransaction s).working source = highest := by
        have hle := hinv.newest
        rw [newestSeen] at hle
        have hgreatest (seen : Option Nat) (hseen : seen.getD 0 ≤ highest) :
            (greatest [seen, (h.working.journal.serials source).max?, some highest]).getD 0 =
              highest := by
          by_cases hempty : h.working.journal.serials source = []
          · cases seen with
            | none => simp [greatest, hempty]
            | some seen => simpa [greatest, hempty] using Nat.max_eq_right hseen
          · cases seen with
            | none => simp [greatest, hjournal hempty]
            | some seen => simpa [greatest, hjournal hempty] using Nat.max_eq_right hseen
        rw [newestSeen, hcolumns]
        simp only [Option.map_some, Option.bind_some, SerialColumns.finalise, htransaction, hmax,
          if_false]
        apply hgreatest
        cases hc : h.working.serialColumns source with
        | none => exact Nat.zero_le _
        | some c =>
          rw [hc] at hle
          exact hle
      refine ⟨?_, fun _ ↦ hnewest, Nat.le_of_eq hnewest, ?_⟩
      · rw [hframe.journal]
        exact hjournal
      · rw [← Database.serialColumns_eq_none_iff, hcolumns]
        intro hnone
        cases hnone
  refine ⟨⟨⟨hframe.journal ▸ hinv.journal, hsettled.newest, fun _ ↦ hsettled, ?_⟩, ?_,
    fun _ ↦ hsettled, ?_, (hsync source).trans hlocal⟩, hsettled⟩
  · rw [hframe.newSerials, hframe.seen]
    exact hinv.transaction
  · simp [newSerials, hframe.written]
  · exact hframe.written ▸ List.prefix_rfl

/-- Serials of a source after entries are added. -/
theorem EntriesAdded.ofSource {entries : List RPSLDatabaseJournal}
    (hadded : EntriesAdded s h h' entries) (source : String) :
    h'.working.journal.ofSource source =
      h.working.journal.ofSource source ++ entries.filter (fun e ↦ e.source = source) := by
  rw [JournalTable.ofSource, hadded.journal, List.filter_append]
  rfl

/-- What a flush adds for a source, together with the entries themselves. -/
theorem SerialInvariant.flush (hinv : SerialInvariant source h highest)
    (hlocal : LocalSerials s source h) (hflush : h.flushRpslObjectWritingBuffer s = some h') :
    ∃ n entries, Advanced s source highest h h' n ∧ EntriesAdded s h h' entries ∧
      (entries.filter (fun e ↦ e.source = source)).map RPSLDatabaseJournal.serialNrtm =
        List.range' (highest + 1) n ∧
      (n ≠ 0 ↔ pendingEntry s source h) := by
  obtain ⟨n, hadvanced⟩ := hinv.recorded hlocal (recorded_flush hflush)
  obtain ⟨entries, hadded, hsources, hkept⟩ := flush_entries hflush
  have hserials : (entries.filter (fun e ↦ e.source = source)).map RPSLDatabaseJournal.serialNrtm =
      List.range' (highest + 1) n := by
    rw [← hadvanced.serials, newSerials, hadded.written, List.drop_left]
  have hzero : n = 0 ↔ entries.filter (fun e ↦ e.source = source) = [] := by
    rw [← List.map_eq_nil_iff, hserials, List.range'_eq_nil_iff]
  refine ⟨n, entries, hadvanced, hadded, hserials, ?_⟩
  rw [Ne, hzero, List.filter_eq_nil_iff]
  constructor
  · intro hsome
    push Not at hsome
    obtain ⟨e, he, hsource⟩ := hsome
    have hsource := of_decide_eq_true hsource
    obtain ⟨hjournaling, hkeep⟩ := hadded.kept e he
    obtain ⟨b, hb, hbsource, hvisible⟩ := hsources e he
    exact ⟨hjournaling, hsource ▸ hkeep, b, hb, hbsource.trans hsource, hvisible⟩
  · rintro ⟨hjournaling, hkeep, b, hb, hsource, hvisible⟩ hnone
    obtain ⟨e, he, hesource⟩ := hkept b hb hvisible (by simp [hjournaling, hsource, hkeep])
    exact hnone e he (decide_eq_true (hesource.trans hsource))

/-- Committing: the serials that its parts assign are consecutive, and the tables agree. -/
theorem SerialInvariant.commit (hinv : SerialInvariant source h highest)
    (hlocal : LocalSerials s source h)
    (hkeeps : h.statusTracker.newSerialsPerSource source = [] ∨ pendingEntry s source h ∨
      h.working.journal.serials source = [] ∨ (h.working.journal.serials source).max? =
        (h.statusTracker.newSerialsPerSource source).max?)
    (hcommit : h.commit s = some h') :
    ∃ n, newSerials source h h' = List.range' (highest + 1) n ∧
      SerialInvariant source h' (highest + n) ∧ h'.committed = h'.working ∧
      Settled h'.working source (highest + n) := by
  obtain ⟨h₁, hflush, hcommit⟩ := Option.bind_eq_some_iff.mp hcommit
  obtain ⟨h₂, hroa, hcommit⟩ := Option.bind_eq_some_iff.mp hcommit
  obtain ⟨h₄, hpre, hcommit⟩ := Option.bind_eq_some_iff.mp hcommit
  cases hcommit
  obtain ⟨n, entries, hadvanced₁, hadded, hserials, hpending⟩ := hinv.flush hlocal hflush
  -- After the flush the journal has the highest serial, or no entry.
  have hjournal₁ : h₁.working.journal.serials source ≠ [] →
      (h₁.working.journal.serials source).max? = some (highest + n) := by
    rw [JournalTable.serials, hadded.ofSource, List.map_append, hserials]
    cases n with
    | zero =>
      rw [List.range'_zero, List.append_nil]
      intro hne
      rcases hkeeps with hnil | hpend | hempty | hmax
      · exact (hinv.settled hnil).journal hne
      · exact absurd rfl (hpending.mpr hpend)
      · exact absurd hempty hne
      · by_cases hnil : h.statusTracker.newSerialsPerSource source = []
        · exact (hinv.settled hnil).journal hne
        · exact hmax.trans (hinv.transaction hnil).1
    | succ n =>
      rw [List.range'_concat, ← List.append_assoc]
      intro _
      have hlast : highest + 1 + 1 * n = highest + (n + 1) := by omega
      rw [hlast]
      refine max?_concat_of_le (n := highest + n) ?_ (by omega)
      intro serial hserial
      rcases List.mem_append.mp hserial with hserial | hserial
      · exact Nat.le_add_right_of_le (hinv.journal serial hserial)
      · have hrange := (List.mem_range'_1.mp hserial).2
        omega
  have hadvanced₂ : Advanced s source highest h h₂ n := by
    obtain ⟨roas, rfl⟩ := DatabaseHandler.flushRoaWritingBuffer_eq_some hroa
    exact hadvanced₁.same ⟨rfl, rfl, rfl, rfl, rfl, rfl, rfl⟩
  have hjournal₂ : h₂.working.journal.serials source ≠ [] →
      (h₂.working.journal.serials source).max? = some (highest + n) := by
    obtain ⟨roas, rfl⟩ := DatabaseHandler.flushRoaWritingBuffer_eq_some hroa
    exact hjournal₁
  obtain ⟨hadvanced₃, hsettled⟩ :=
    hadvanced₂.invariant.finalise hadvanced₂.localSerials hjournal₂
  let h₃ := if (h₂.finaliseTransaction s).journalingEnabled then h₂.finaliseTransaction s
    else { h₂.finaliseTransaction s with committed := (h₂.finaliseTransaction s).working }
  have hpre' : h₃.preCommit s = some h₄ := hpre
  -- The intermediate commit changes nothing in the transaction.
  have hadvanced : Advanced s source (highest + n) h₂ h₃ 0 := by
    refine ⟨?_, ?_, fun _ ↦ ?_, ?_, ?_⟩ <;> unfold h₃ <;> split
    · exact hadvanced₃.invariant
    · exact hadvanced₃.invariant.congr rfl rfl rfl fun _ ↦ id
    · exact hadvanced₃.serials
    · exact hadvanced₃.serials
    · exact hsettled
    · exact hsettled
    · exact hadvanced₃.written
    · exact hadvanced₃.written
    · exact hadvanced₃.localSerials
    · exact hadvanced₃.localSerials
  have hsettled₃ : Settled h₃.working source (highest + n) := by
    unfold h₃
    split
    · exact hsettled
    · exact hsettled
  have hrecorded : Recorded s h₃ h₄ := by
    unfold DatabaseHandler.preCommit at hpre'
    dsimp only at hpre'
    split at hpre'
    · rw [← Option.some_inj.mp hpre']
      exact .refl
    · exact recorded_evaluateRoutePreference hpre'
  obtain ⟨m, hadvanced₄⟩ := hadvanced.invariant.recorded hadvanced.localSerials hrecorded
  have hall := (hadvanced₂.trans hadvanced).trans hadvanced₄
  have hsettled₄ : Settled h₄.working source (highest + (n + 0 + m)) := by
    have h₄ := hadvanced₄.settled hsettled₃
    rwa [← Nat.add_assoc]
  refine ⟨n + 0 + m, hall.serials, ⟨hsettled₄.le, hsettled₄.newest, fun _ ↦ hsettled₄, ?_⟩, rfl,
    hsettled₄⟩
  intro hne
  exact absurd rfl hne

/-- Expiry that leaves what the next serial follows keeps the tables in agreement with the
highest serial. -/
theorem Settled.expire {db db' : Database} {timestamp : Nat}
    (hsettled : Settled db source highest) (hothers : ExpiresOthers source db timestamp)
    (hjournal : db'.journal.ofSource source = (db.journal.ofSource source).filter
      (fun e ↦ timestamp ≤ e.timestamp))
    (hstatus : db'.status = db.status) : Settled db' source highest := by
  have hcolumns : db'.serialColumns source = db.serialColumns source := by
    rw [Database.serialColumns, Database.serialColumns, hstatus]
  have hsubset : ∀ serial ∈ db'.journal.serials source, serial ∈ db.journal.serials source := by
    intro serial hserial
    rw [JournalTable.serials, hjournal] at hserial
    exact List.map_subset _ (List.filter_subset_self _) hserial
  have hne : db'.journal.serials source ≠ [] → db.journal.serials source ≠ [] := by
    intro hne
    obtain ⟨serial, hmem⟩ := List.exists_mem_of_ne_nil _ hne
    exact List.ne_nil_of_mem (hsubset serial hmem)
  rcases hothers with hothers | ⟨hall, hnewest⟩
  · -- The newest entry survives.
    have hkeptNewest : db.journal.serials source ≠ [] →
        highest ∈ db'.journal.serials source := by
      intro hne
      have hmax := hsettled.journal hne
      obtain ⟨e, he, hserial⟩ := List.mem_map.mp (List.max?_eq_some_iff.mp hmax).1
      rw [JournalTable.serials, hjournal]
      refine List.mem_map.mpr ⟨e, List.mem_filter.mpr ⟨he, decide_eq_true ?_⟩, hserial⟩
      by_contra hold
      exact (hothers e he (by omega)).1 (hserial ▸ hmax)
    refine ⟨?_, ?_, ?_, ?_⟩
    · intro hne'
      refine List.max?_eq_some_iff.mpr ⟨hkeptNewest (hne hne'), fun serial hserial ↦ ?_⟩
      exact hsettled.le serial (hsubset serial hserial)
    · intro hempty
      rw [newestSeen_congr hcolumns]
      apply hsettled.seen
      by_contra hne'
      exact List.ne_nil_of_mem (hkeptNewest hne') hempty
    · rw [newestSeen_congr hcolumns]
      exact hsettled.newest
    · intro hnone hne'
      rw [hstatus] at hnone
      obtain ⟨e, he, hserial⟩ := List.mem_map.mp (hsettled.rowless hnone (hne hne'))
      rw [JournalTable.serials, hjournal]
      refine List.mem_map.mpr ⟨e, List.mem_filter.mpr ⟨he, decide_eq_true ?_⟩, hserial⟩
      by_contra hold
      exact (hothers e he (by omega)).2 hnone hserial
  · -- No entry survives, and the status row has the highest serial.
    have hempty : db'.journal.serials source = [] := by
      rw [JournalTable.serials, hjournal, List.filter_eq_nil_iff.mpr]
      · rfl
      · intro e he hkept
        have hkept := of_decide_eq_true hkept
        have hexpired := hall e he
        omega
    have hserials : db.journal.serials source ≠ [] := by
      intro hnil
      rw [hnil] at hnewest
      cases hnewest
    have hhighest : newestSeen db source = highest :=
      Option.some_inj.mp (hnewest.symm.trans (hsettled.journal hserials))
    refine ⟨fun hne ↦ absurd hempty hne, ?_, ?_, fun _ hne ↦ absurd hempty hne⟩
    · rw [newestSeen_congr hcolumns]
      exact fun _ ↦ hhighest
    · rw [newestSeen_congr hcolumns]
      exact hsettled.newest

/-- Expiry within a transaction, or of other entries than the newest. -/
theorem SerialInvariant.expire {timestamp : Nat} (hinv : SerialInvariant source h highest)
    (hlocal : LocalSerials s source h)
    (hkeeps : h.statusTracker.newSerialsPerSource source ≠ [] ∨ pendingEntry s source h ∨
      ExpiresOthers source h.working timestamp)
    (hexpire : h.deleteJournalEntriesBeforeDate s timestamp source = some h') :
    ∃ n, newSerials source h h' = List.range' (highest + 1) n ∧
      SerialInvariant source h' (highest + n) ∧ h'.committed = h.committed := by
  obtain ⟨h₁, hflush, hexpire⟩ := Option.bind_eq_some_iff.mp hexpire
  cases hexpire
  obtain ⟨n, entries, hadvanced, hadded, hserials, hpending⟩ := hinv.flush hlocal hflush
  let journal : JournalTable :=
    h₁.working.journal.filter (fun e ↦ !(e.source = source ∧ e.timestamp < timestamp))
  have hjournal : journal.ofSource source = (h₁.working.journal.ofSource source).filter
      (fun e ↦ timestamp ≤ e.timestamp) := by
    unfold JournalTable.ofSource journal KeyedTable.filter
    rw [List.filter_filter, List.filter_filter]
    apply List.filter_congr
    intro e _
    rw [Bool.eq_iff_iff]
    by_cases he : e.source = source <;> simp [he]
  refine ⟨n, hadvanced.serials, ⟨?_, hadvanced.invariant.newest, ?_,
    hadvanced.invariant.transaction⟩, hadded.committed⟩
  · intro serial hserial
    have hserial : serial ∈ journal.serials source := hserial
    rw [JournalTable.serials, hjournal] at hserial
    exact hadvanced.invariant.journal serial
      (List.map_subset _ (List.filter_subset_self _) hserial)
  · intro hnil
    have hnew := hadded.newSerials source
    rw [hnil, hserials] at hnew
    obtain ⟨hrange, htransaction⟩ := List.append_eq_nil_iff.mp hnew.symm
    have hzero : n = 0 := by simpa using hrange
    have hnone : ¬ pendingEntry s source h := fun hp ↦ hpending.mpr hp hzero
    have hothers := (hkeeps.resolve_left (fun hne ↦ hne htransaction)).resolve_left hnone
    have hentries : entries.filter (fun e ↦ e.source = source) = [] := by
      rw [← List.map_eq_nil_iff, hserials, hzero]
      rfl
    rw [hadded.ofSource, hentries, List.append_nil] at hjournal
    subst hzero
    exact (hinv.settled htransaction).expire hothers hjournal hadded.status

/-- A full reload in a transaction without serials of the source. -/
theorem SerialInvariant.reload {guaranteed : Bool} (hinv : SerialInvariant source h highest)
    (hlocal : LocalSerials s source h)
    (htransaction : h.statusTracker.newSerialsPerSource source = [])
    (hpending : ¬ pendingEntry s source h)
    (hguaranteed : guaranteed = true → h.working.journal.serials source = [])
    (hreload : h.deleteAllRpslObjectsWithJournal s source guaranteed = some h') :
    ∃ n, newSerials source h h' = List.range' (highest + 1) n ∧
      SerialInvariant source h' 0 ∧ h'.committed = h.committed := by
  obtain ⟨h₁, hflush, hreload⟩ := Option.bind_eq_some_iff.mp hreload
  cases hreload
  obtain ⟨n, entries, hadvanced, hadded, hentries, hnone⟩ := hinv.flush hlocal hflush
  have hzero : n = 0 := by
    by_contra hne
    exact hpending (hnone.mp hne)
  subst hzero
  have hnone : entries.filter (fun e ↦ e.source = source) = [] := List.map_eq_nil_iff.mp hentries
  have hnil : h₁.statusTracker.newSerialsPerSource source = [] := by
    rw [hadded.newSerials, hnone, htransaction]
    rfl
  have hserials : JournalTable.serials (if guaranteed then h₁.working.journal
      else h₁.working.journal.filter (fun e ↦ !(e.source = source))) source = [] := by
    split
    · next hg =>
      have hold := hguaranteed hg
      rw [JournalTable.serials] at hold ⊢
      rw [hadded.ofSource, hnone, List.append_nil]
      exact hold
    · simp [JournalTable.serials, JournalTable.ofSource, KeyedTable.filter, List.filter_filter]
  have hfind : (h₁.working.status.filter (fun row ↦ !(row.source = source))).find source =
      none := by
    rw [KeyedTable.find_eq_none_iff]
    intro row hrow
    simpa using (List.mem_filter.mp hrow).2
  have hsettled : Settled { h₁.working with
      objects := (h₁.removeObjects (fun row ↦ row.source = source)).working.objects
      journal := if guaranteed then h₁.working.journal
        else h₁.working.journal.filter (fun e ↦ !(e.source = source))
      status := h₁.working.status.filter (fun row ↦ !(row.source = source)) } source 0 := by
    refine ⟨fun hne ↦ absurd hserials hne, fun _ ↦ ?_, ?_, fun _ hne ↦ absurd hserials hne⟩ <;>
      simp [newestSeen, Database.serialColumns, hfind]
  exact ⟨0, hadvanced.serials, ⟨hsettled.le, hsettled.newest, fun _ ↦ hsettled,
    fun hne ↦ absurd hnil hne⟩, hadded.committed⟩

/-- Operations on another source keep the columns of this one. -/
theorem serialColumns_of_ne {set : RPSLDatabaseStatus → RPSLDatabaseStatus}
    (hset : ∀ row, (set row).source = row.source)
    (hother : ∀ row, row.source = source → (set row).serialColumns = row.serialColumns) :
    (h.updateStatus set hset).working.serialColumns source =
      h.working.serialColumns source := by
  unfold Database.serialColumns DatabaseHandler.updateStatus
  rw [KeyedTable.find_map]
  cases hfind : h.working.status.find source with
  | none => rfl
  | some row => exact congrArg some (hother row (KeyedTable.find_key hfind))

/-- A forced reload clears the columns that the journal or the transaction can replace. -/
theorem SerialInvariant.setForceReload (hinv : SerialInvariant source h highest) (other : String)
    (hkeeps : other = source → h.statusTracker.newSerialsPerSource source ≠ [] ∨
      h.working.journal.serials source ≠ [] ∨ newestSeen h.working source = 0) :
    SerialInvariant source (h.setForceReload s other) highest := by
  by_cases hother : other = source
  · subst hother
    have hrow : (h.setForceReload s other).working.status.find other = none ↔
        h.working.status.find other = none := by
      unfold DatabaseHandler.setForceReload DatabaseHandler.updateStatus
      rw [KeyedTable.find_map, Option.map_eq_none_iff]
    have hnewest : newestSeen (h.setForceReload s other).working other = 0 := by
      unfold newestSeen Database.serialColumns DatabaseHandler.setForceReload
        DatabaseHandler.updateStatus
      rw [KeyedTable.find_map]
      cases hfind : h.working.status.find other with
      | none => rfl
      | some row =>
        have hsource : row.source = other := KeyedTable.find_key hfind
        simp [hsource, RPSLDatabaseStatus.serialColumns]
    have hle : newestSeen (h.setForceReload s other).working other ≤ highest := by
      rw [hnewest]
      exact Nat.zero_le _
    refine ⟨hinv.journal, hle, fun hnil ↦ ?_, hinv.transaction⟩
    obtain ⟨hsJournal, hsSeen, -, hsRowless⟩ := hinv.settled hnil
    refine ⟨hsJournal, fun hempty ↦ ?_, hle, fun hnone ↦ hsRowless (hrow.mp hnone)⟩
    rcases hkeeps rfl with htransaction | hserials | hzero
    · exact absurd hnil htransaction
    · exact absurd hempty hserials
    · rw [hnewest, ← hzero]
      exact hsSeen hempty
  · refine hinv.congr rfl (serialColumns_of_ne _ ?_) rfl (fun _ ↦ id)
    intro row hrow
    have hne : row.source ≠ other := fun he ↦ hother (he.symm.trans hrow)
    rw [if_neg hne]

/-- Recording a serial as seen that is not below the newest. -/
theorem SerialInvariant.recordSerialSeen (hinv : SerialInvariant source h highest)
    (other : String) (serial : Nat)
    (hkeeps : other = source → h.statusTracker.newSerialsPerSource source ≠ [] ∨
      (h.working.journal.serials source).max?.getD (newestSeen h.working source) ≤ serial) :
    SerialInvariant source (h.recordSerialSeen other serial)
      (if other = source then max highest serial else highest) := by
  by_cases hother : other = source
  · subst hother
    have hserials : (h.recordSerialSeen other serial).statusTracker.newSerialsPerSource other =
        serial :: h.statusTracker.newSerialsPerSource other := Function.update_self ..
    have hle : highest ≤ max highest serial := Nat.le_max_left _ _
    rw [if_pos rfl]
    refine ⟨fun n hn ↦ Nat.le_trans (hinv.journal n hn) hle, Nat.le_trans hinv.newest hle,
      fun hnil ↦ ?_, fun _ ↦ ⟨?_, List.mem_insert_self⟩⟩
    · rw [hserials] at hnil
      cases hnil
    · rw [hserials]
      by_cases htransaction : h.statusTracker.newSerialsPerSource other = []
      · have hsettled := hinv.settled htransaction
        have hhighest : (h.working.journal.serials other).max?.getD (newestSeen h.working other) =
            highest := by
          by_cases hempty : h.working.journal.serials other = []
          · rw [hempty]
            exact hsettled.seen hempty
          · rw [hsettled.journal hempty]
            rfl
        have hserial := (hkeeps rfl).resolve_left (fun hne ↦ hne htransaction)
        rw [htransaction, Nat.max_eq_right (by omega)]
        rfl
      · rw [List.max?_cons, (hinv.transaction htransaction).1, Nat.max_comm]
        rfl
  · rw [if_neg hother]
    refine hinv.congr rfl rfl (Function.update_of_ne (Ne.symm hother) ..) ?_
    exact fun _ hmem ↦ List.mem_insert_of_mem hmem

/-- Deleting entries of another source keeps the serials of this one. -/
theorem serials_filter_of_ne {other : String} (hother : other ≠ source) (t : JournalTable)
    (deleted : RPSLDatabaseJournal → Bool) :
    JournalTable.serials (t.filter (fun e ↦ !(decide (e.source = other) && deleted e))) source =
      t.serials source := by
  unfold JournalTable.serials JournalTable.ofSource KeyedTable.filter
  rw [List.filter_filter]
  congr 1
  apply List.filter_congr
  intro e _
  by_cases he : e.source = source
  · simp [he, Ne.symm hother]
  · simp [he]

/-- What an operation leaves committed: a commit settles the serials up to the highest one. -/
def Commits (source : String) (h h' : DatabaseHandler) (highest : Nat) : HandlerOperation → Prop
  | .commit => Settled h'.committed source highest
  | _ => h'.committed = h.committed

/-- Every operation assigns consecutive serials from the highest one on, as long as it keeps
serials. -/
theorem SerialInvariant.perform {committedHighest : Nat} {op : HandlerOperation}
    (hinv : SerialInvariant source h highest) (hlocal : LocalSerials s source h)
    (hcommitted : Settled h.committed source committedHighest)
    (hkeeps : KeepsSerials s source h ⟨h.now, op⟩) (hperform : h.perform s op = some h') :
    ∃ n, newSerials source h h' = List.range' (highest + 1) n ∧
      SerialInvariant source h' (highestAfter source committedHighest (highest + n) op) ∧
      Commits source h h' (highest + n) op := by
  have hrecorded (hrec : Recorded s h h') : ∃ n,
      newSerials source h h' = List.range' (highest + 1) n ∧
        SerialInvariant source h' (highest + n) ∧ h'.committed = h.committed := by
    obtain ⟨n, hadvanced⟩ := hinv.recorded hlocal hrec
    obtain ⟨entries, hadded⟩ := hrec.entries
    exact ⟨n, hadvanced.serials, hadvanced.invariant, hadded.committed⟩
  have hnothing (hinv' : SerialInvariant source h' highest) (hwritten : h'.written = h.written)
      (hsame : h'.committed = h.committed) : ∃ n,
      newSerials source h h' = List.range' (highest + 1) n ∧
        SerialInvariant source h' (highest + n) ∧ h'.committed = h.committed :=
    ⟨0, by simp [newSerials, hwritten], hinv', hsame⟩
  have htracker {t : DatabaseStatusTracker} (other : String)
      (hserials : t.newSerialsPerSource = h.statusTracker.newSerialsPerSource)
      (hseen : t.sourcesSeen = h.statusTracker.sourcesSeen) :
      SerialInvariant source (h.seen other t) highest :=
    hinv.congr rfl rfl (congrFun hserials source)
      (fun _ hmem ↦ List.mem_insert_of_mem (hseen ▸ hmem))
  cases op with
  | upsertRpslObject o origin guaranteed sourceSerial created =>
    exact hrecorded (recorded_upsert hperform)
  | updateRpkiStatus nowValid nowInvalid nowNotFound =>
    exact hrecorded (recorded_updateRpkiStatus hperform)
  | updateScopefilterStatus nowInScope nowOutScopeAs nowOutScopePrefix =>
    exact hrecorded (recorded_updateScopefilterStatus hperform)
  | updateRoutePreferenceStatus nowVisible nowSuppressed =>
    exact hrecorded (recorded_updateRoutePreferenceStatus hperform)
  | evaluateRoutePreference filterPrefixes =>
    exact hrecorded (recorded_evaluateRoutePreference hperform)
  | deleteRpslObject origin a sourceSerial protect =>
    exact hrecorded (recorded_delete hperform)
  | suspendRpslObject pk => exact hrecorded (recorded_suspend hperform)
  | deleteSuspendedRpslObjects pks => exact hrecorded (recorded_deleteSuspended hperform)
  | executeQuery => exact hrecorded (recorded_flush hperform)
  | deleteJournalEntriesBeforeDate timestamp other =>
    by_cases hother : other = source
    · subst hother
      exact hinv.expire hlocal (hkeeps rfl) hperform
    · obtain ⟨h₁, hflush, hexpire⟩ := Option.bind_eq_some_iff.mp hperform
      cases hexpire
      obtain ⟨n, hadvanced⟩ := hinv.recorded hlocal (recorded_flush hflush)
      obtain ⟨entries, hadded, -⟩ := flush_entries hflush
      refine ⟨n, hadvanced.serials, hadvanced.invariant.congr ?_ rfl rfl (fun _ ↦ id),
        hadded.committed⟩
      have hfilter := serials_filter_of_ne hother h₁.working.journal
        (fun e ↦ decide (e.timestamp < timestamp))
      simpa only [← Bool.decide_and] using hfilter
  | deleteAllRpslObjectsWithJournal other guaranteed =>
    by_cases hother : other = source
    · subst hother
      obtain ⟨htransaction, hpending, hguaranteed⟩ := hkeeps rfl
      obtain ⟨n, hserials, hinv', hcommitted'⟩ :=
        hinv.reload hlocal htransaction hpending hguaranteed hperform
      exact ⟨n, hserials, by rw [highestAfter, if_pos rfl]; exact hinv', hcommitted'⟩
    · obtain ⟨h₁, hflush, hreload⟩ := Option.bind_eq_some_iff.mp hperform
      cases hreload
      obtain ⟨n, hadvanced⟩ := hinv.recorded hlocal (recorded_flush hflush)
      obtain ⟨entries, hadded, -⟩ := flush_entries hflush
      refine ⟨n, hadvanced.serials, ?_, hadded.committed⟩
      rw [highestAfter, if_neg hother]
      refine hadvanced.invariant.congr ?_ ?_ rfl (fun _ ↦ id)
      · have hfilter := serials_filter_of_ne hother h₁.working.journal (fun _ ↦ true)
        simp only [Bool.and_true] at hfilter
        dsimp only
        split
        · rfl
        · exact hfilter
      · unfold Database.serialColumns
        rw [KeyedTable.find_filter]
        have hstatus : (h₁.removeObjects (fun row ↦ row.source = other)).working.status.find source
            = h₁.working.status.find source := rfl
        rw [hstatus]
        cases hfind : h₁.working.status.find source with
        | none => rfl
        | some row =>
          have hne : row.source ≠ other :=
            fun he ↦ hother (he.symm.trans (KeyedTable.find_key hfind))
          simp [Option.filter, hne]
  | setForceReload other =>
    cases hperform
    exact hnothing (hinv.setForceReload other hkeeps) rfl rfl
  | recordSerialSeen other serial =>
    cases hperform
    exact ⟨0, by simp [newSerials, DatabaseHandler.recordSerialSeen, DatabaseHandler.seen],
      hinv.recordSerialSeen other serial hkeeps, rfl⟩
  | recordSerialNewestMirror other serial =>
    cases hperform
    exact hnothing (htracker other rfl rfl) rfl rfl
  | recordMirrorError other error =>
    cases hperform
    exact hnothing (htracker other rfl rfl) rfl rfl
  | recordSerialExported other serial =>
    cases hperform
    exact hnothing (htracker other rfl rfl) rfl rfl
  | recordNrtm4ClientStatus other status =>
    cases hperform
    exact hnothing (htracker other rfl rfl) rfl rfl
  | recordNrtm4ServerStatus other status =>
    cases hperform
    exact hnothing (htracker other rfl rfl) rfl rfl
  | insertRoaObject roa | deleteAllRoaObjects | disableJournaling | enableJournaling =>
    cases hperform
    exact hnothing (hinv.congr rfl rfl rfl (fun _ ↦ id)) rfl rfl
  | commit =>
    obtain ⟨n, hserials, hinv', hsame, hsettled⟩ := hinv.commit hlocal hkeeps hperform
    exact ⟨n, hserials, hinv', (congrArg (Settled · source _) hsame).mpr hsettled⟩
  | rollback =>
    cases hperform
    refine ⟨0, by simp [newSerials, DatabaseHandler.rollback, DatabaseHandler.startTransaction],
      ⟨hcommitted.le, hcommitted.newest, fun _ ↦ hcommitted, fun hne ↦ absurd rfl hne⟩, rfl⟩

end Operations

/-- What holds between the steps of a run. -/
structure SerialRunInvariant (source : String) (t : SerialRun) : Prop where
  handler : SerialInvariant source t.handler t.highest
  committed : Settled t.handler.committed source t.committedHighest

/-- A handler before its first operation, on a database without status or journal of the
source. -/
structure InitialSerials (source : String) (t : SerialRun) : Prop where
  tracker : t.handler.statusTracker = .reset
  working : t.handler.working = t.handler.committed
  status : t.handler.committed.status.find source = none
  journal : t.handler.committed.journal.serials source = []
  highest : t.highest = 0
  committedHighest : t.committedHighest = 0

theorem InitialSerials.invariant {source : String} {t : SerialRun} (h : InitialSerials source t) :
    SerialRunInvariant source t := by
  have hsettled : Settled t.handler.committed source 0 := by
    refine ⟨fun hne ↦ absurd h.journal hne, fun _ ↦ ?_, ?_, fun _ hne ↦ absurd h.journal hne⟩ <;>
      simp [newestSeen, Database.serialColumns, h.status]
  have hworking : Settled t.handler.working source t.highest := by
    rw [h.working, h.highest]
    exact hsettled
  refine ⟨⟨hworking.le, hworking.newest, fun _ ↦ hworking, fun hne ↦ ?_⟩,
    h.committedHighest ▸ hsettled⟩
  rw [h.tracker] at hne
  exact absurd rfl hne

section Run

variable {s : Settings} {source : String} {t t' : SerialRun} {a : HandlerAction}

/-- A step in local mode that keeps serials assigns consecutive serials, and keeps the
invariant. -/
theorem SerialRunInvariant.step (hinv : SerialRunInvariant source t)
    (hlocal : LocalSerials s source t.handler) (hkeeps : KeepsSerials s source t.handler a)
    (hstep : serialStep s source t a = some t') :
    (∃ n, newSerials source t.handler t'.handler = List.range' (t.highest + 1) n) ∧
      SerialRunInvariant source t' := by
  obtain ⟨h', hperform, rfl⟩ := Option.map_eq_some_iff.mp hstep
  obtain ⟨now, op⟩ := a
  have hinvNow : SerialInvariant source { t.handler with now } t.highest :=
    hinv.handler.congr rfl rfl rfl (fun _ ↦ id)
  obtain ⟨n, hserials, hinv', hcommits⟩ :=
    hinvNow.perform hlocal hinv.committed hkeeps hperform
  have hserials : newSerials source t.handler h' = List.range' (t.highest + 1) n := hserials
  have hassigned : (newSerials source t.handler h').foldl max t.highest = t.highest + n := by
    rw [hserials, foldl_max_range']
  rw [hassigned]
  cases op with
  | commit => exact ⟨⟨n, hserials⟩, hinv', hcommits⟩
  | _ =>
    exact ⟨⟨n, hserials⟩, hinv', (congrArg (Settled · source _) hcommits).mpr hinv.committed⟩

/-- In every run whose steps keep serials, each step gives the new journal entries of a source in
local mode the serials after the highest one so far, without gaps. -/
theorem serials_consecutive {initial : SerialRun} (hinitial : InitialSerials source initial)
    (hreach : Reaches (serialStep s source)
      (fun t a ↦ LocalSerials s source t.handler ∧ KeepsSerials s source t.handler a) initial t)
    (hlocal : LocalSerials s source t.handler) (hkeeps : KeepsSerials s source t.handler a)
    (hstep : serialStep s source t a = some t') :
    ∃ n, newSerials source t.handler t'.handler = List.range' (t.highest + 1) n := by
  have hinv : SerialRunInvariant source t := hreach.invariant
    (fun h hguard hstep ↦ (h.step hguard.1 hguard.2 hstep).2) hinitial.invariant
  exact (hinv.step hlocal hkeeps hstep).1

end Run

section Examples

instance (s : Settings) (source : String) (h : DatabaseHandler) :
    Decidable (LocalSerials s source h) :=
  inferInstanceAs (Decidable (h.isSerialSynchronised s source = false))

/-- A handler without operations, on a database without rows. -/
def newSerialRun : SerialRun := ⟨newHandler, 0, 0⟩

theorem newSerialRun_initial : InitialSerials "TEST" newSerialRun :=
  ⟨rfl, rfl, rfl, rfl, rfl, rfl⟩

/-- Actions of a source in local mode. -/
def localRun (actions : List HandlerAction) : Option SerialRun :=
  actions.foldlM (fun t a ↦ if LocalSerials localSettings "TEST" t.handler then
    serialStep localSettings "TEST" t a else none) newSerialRun

/-- The handler after one more action. -/
def SerialRun.next (t : SerialRun) (a : HandlerAction)
    (hstep : (serialStep localSettings "TEST" t a).isSome) : SerialRun :=
  (serialStep localSettings "TEST" t a).get hstep

theorem SerialRun.step_next (t : SerialRun) (a : HandlerAction)
    (hstep : (serialStep localSettings "TEST" t a).isSome) :
    serialStep localSettings "TEST" t a = some (t.next a hstep) := (Option.some_get hstep).symm

/-- The handler with one object in its buffer. -/
def firstObjectRun : SerialRun := newSerialRun.next (upsertAction 0 (personObject "A")) rfl

/-- The handler with one committed object. -/
def firstCommitRun : SerialRun := firstObjectRun.next ⟨1, .commit⟩ rfl

/-- The handler with one committed object, and another one in its buffer. -/
def secondObjectRun : SerialRun := firstCommitRun.next (upsertAction 2 (personObject "B")) rfl

/-- The second object gets serial 2. -/
theorem serials_consecutive_secondObject :
    ∃ n, newSerials "TEST" secondObjectRun.handler
      (secondObjectRun.next ⟨3, .commit⟩ rfl).handler = List.range' 2 n := by
  have hreach : Reaches (serialStep localSettings "TEST")
      (fun t a ↦ LocalSerials localSettings "TEST" t.handler ∧
        KeepsSerials localSettings "TEST" t.handler a) newSerialRun secondObjectRun := by
    refine Reaches.tail (t := firstCommitRun) ?_ ?_ (SerialRun.step_next _ _ rfl)
    · refine Reaches.tail (t := firstObjectRun) ?_ ?_ (SerialRun.step_next _ _ rfl)
      · refine (Reaches.refl newSerialRun).tail ?_ (SerialRun.step_next _ _ rfl)
        exact ⟨rfl, trivial⟩
      · exact ⟨rfl, Or.inl rfl⟩
    · exact ⟨rfl, trivial⟩
  refine serials_consecutive newSerialRun_initial hreach rfl ?_
    (secondObjectRun.step_next ⟨3, .commit⟩ rfl)
  exact Or.inl rfl

/-- The journal expires after a forced reload has cleared the columns, before a second object is
submitted. -/
def reusedSerialRun : SerialRun :=
  (localRun [upsertAction 0 (personObject "A"), ⟨1, .commit⟩, ⟨2, .setForceReload "TEST"⟩,
    ⟨3, .deleteJournalEntriesBeforeDate 3 "TEST"⟩, ⟨4, .commit⟩,
    upsertAction 5 (personObject "B")]).get rfl

/-- The second object gets the serial of the first. -/
theorem serials_reused_after_forceReload :
    InitialSerials "TEST" newSerialRun ∧
      ∃ t t', Reaches (serialStep localSettings "TEST")
          (fun t _ ↦ LocalSerials localSettings "TEST" t.handler) newSerialRun t ∧
        LocalSerials localSettings "TEST" t.handler ∧
        serialStep localSettings "TEST" t ⟨6, .commit⟩ = some t' ∧
        ∀ n, newSerials "TEST" t.handler t'.handler ≠ List.range' (t.highest + 1) n := by
  refine ⟨newSerialRun_initial, reusedSerialRun, reusedSerialRun.next ⟨6, .commit⟩ rfl,
    Reaches.of_foldlM _ (Option.some_get _).symm, rfl, (Option.some_get _).symm, ?_⟩
  intro n
  have hserials : newSerials "TEST" reusedSerialRun.handler
      (reusedSerialRun.next ⟨6, .commit⟩ rfl).handler = [1] := rfl
  have hhighest : reusedSerialRun.highest = 1 := rfl
  rw [hserials, hhighest]
  cases n <;> simp [List.range']

end Examples

end Irrd.Storage
