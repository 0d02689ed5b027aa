import Irrd.Storage.RecordedOperations
import Irrd.Storage.SerialColumns

/-!
# Serial modes

A source takes the serials of its journal from its NRTM source, or numbers its entries itself.
Once it has numbered an entry, it must not go back before the next full reload. The journal is
kept beside a run, with the mode of each serial; settings change between transactions.
-/

namespace Irrd.Storage

open Irrd.Base Irrd.Conf Irrd.Rpsl Irrd.Utils

/-- Where the serial of a journal entry comes from. -/
inductive SerialMode
  | synchronised
  | ownSerials
  deriving DecidableEq

/-- The mode in which an operation records the entries of a source. -/
def DatabaseHandler.serialMode (s : Settings) (h : DatabaseHandler) (source : String) :
    SerialMode :=
  if h.isSerialSynchronised s source then .synchronised else .ownSerials

/-- The journal entries of a source that an operation wrote. -/
def newEntries (source : String) (h h' : DatabaseHandler) : List RPSLDatabaseJournal :=
  (h'.written.drop h.written.length).filter (fun e ↦ e.source = source)

/-- The settings and a handler, with the journal entries of a source since its last full reload
and their modes: including this transaction, and committed. -/
structure ModeRun where
  settings : Settings
  handler : DatabaseHandler
  numbered : List (RPSLDatabaseJournal × SerialMode)
  committedNumbered : List (RPSLDatabaseJournal × SerialMode)

/-- A change of the settings, or an operation of the handler. -/
inductive ModeAction
  | configure (s : Settings)
  | perform (a : HandlerAction)

/-- The entries of a source after an operation that leads to some. -/
def numberedAfter (source : String) (committed numbered : List (RPSLDatabaseJournal × SerialMode)) :
    HandlerOperation → List (RPSLDatabaseJournal × SerialMode)
  | .deleteAllRpslObjectsWithJournal other _ => if other = source then [] else numbered
  | .rollback => committed
  | _ => numbered

/-- One action, with the entries that it gives to a source. -/
def modeStep (source : String) (t : ModeRun) : ModeAction → Option ModeRun
  | .configure s => some { t with settings := s }
  | .perform a => (t.handler.step t.settings a).map (fun h ↦
    let mode := t.handler.serialMode t.settings source
    let written := t.numbered ++ (newEntries source t.handler h).map (·, mode)
    let numbered := numberedAfter source t.committedNumbered written a.operation
    match a.operation with
    | .commit => ⟨t.settings, h, numbered, numbered⟩
    | _ => ⟨t.settings, h, numbered, t.committedNumbered⟩)

/-- The status row of the source asks for a full reload. -/
def AwaitsReload (source : String) (h : DatabaseHandler) : Prop :=
  ∃ row ∈ h.working.status.find source, row.forceReload = true

/-- How the runners use a handler: settings change between transactions, an import does not take
operations of the NRTM source while a reload is asked for, and a reload is asked for in a
transaction of its own. Only a journal without entries is guaranteed to be empty. -/
def RunsTransactions (source : String) (t : ModeRun) : ModeAction → Prop
  | .configure _ => t.handler.rpslUpsertBuffer = [] ∧ t.handler.statusTracker = .reset
  | .perform a =>
    match a.operation with
    | .upsertRpslObject o _ _ sourceSerial _ => o.source = source → sourceSerial ≠ none →
      ¬ AwaitsReload source t.handler
    | .deleteRpslObject _ arguments sourceSerial _ =>
      arguments.key.any (fun key ↦ key.source = source) = true → sourceSerial ≠ none →
        ¬ AwaitsReload source t.handler
    | .setForceReload other => other = source →
      t.handler.rpslUpsertBuffer = [] ∧ source ∉ t.handler.statusTracker.sourcesSeen
    | .deleteAllRpslObjectsWithJournal other guaranteed => other = source → guaranteed = true →
      t.handler.working.journal.ofSource source = [] ∧
        ¬ pendingEntry t.settings source t.handler
    | _ => True

/-- A commit sees the source: the transaction recorded something about it, or will when the buffer
is flushed. -/
def SeenByCommit (source : String) (h : DatabaseHandler) : Prop :=
  source ∈ h.statusTracker.sourcesSeen ∨
    ∃ b ∈ h.rpslUpsertBuffer, b.columns.source = source ∧ b.columns.isVisible = true

/-- The status row of the source keeps it from going back to the serials of its NRTM source. -/
def LatchedRow (source : String) (db : Database) : Prop :=
  ∃ row ∈ db.status.find source, row.synchronisedSerials = false ∨ row.forceReload = true

/-- What keeps modes apart at a commit. Route preferences evaluated before it give an entry to the
source only where the transaction sees the source or its row does not permit synchronised
serials. And where a reload of a source with entries of its own is asked for, a transaction that
sees the source with synchronised serials, and so takes the request back, is not committed. -/
def KeepsModes (source : String) (t : ModeRun) : ModeAction → Prop
  | .configure _ => True
  | .perform a =>
    match a.operation with
    | .commit =>
      (SeenByCommit source t.handler ∨ LatchedRow source t.handler.working ∨
        JournalsNoRoutePreference t.settings source { t.handler with now := a.now }) ∧
      (AwaitsReload source t.handler → SeenByCommit source t.handler →
        t.handler.isSerialSynchronised t.settings source = true →
        ∀ e ∈ t.numbered, e.2 ≠ .ownSerials)
    | _ => True

/-- What holds of the entries of a source between the actions of a run. -/
structure ModeInvariant (s : Settings) (source : String) (h : DatabaseHandler)
    (numbered : List (RPSLDatabaseJournal × SerialMode)) : Prop where
  journal : (h.working.journal.ofSource source).Sublist (numbered.map Prod.fst)
  ordered : numbered.Pairwise (fun e e' ↦ e.2 = .ownSerials → e'.2 = .ownSerials)
  cached : h.statusTracker.synchronisedCache source ≠ none →
    source ∈ h.statusTracker.sourcesSeen
  unsynchronised : ∀ row ∈ h.working.status.find source, row.synchronisedSerials = false →
    h.isSerialSynchronised s source = false
  latched : (∃ e ∈ numbered, e.2 = .ownSerials) → LatchedRow source h.working ∨
    source ∈ h.statusTracker.sourcesSeen ∧ h.isSerialSynchronised s source = false
  pending : AwaitsReload source h → ∀ b ∈ h.rpslUpsertBuffer, b.columns.source = source →
    b.sourceSerial = none

/-- What holds of the committed entries of a source. -/
structure CommittedModes (source : String) (db : Database)
    (numbered : List (RPSLDatabaseJournal × SerialMode)) : Prop where
  journal : (db.journal.ofSource source).Sublist (numbered.map Prod.fst)
  ordered : numbered.Pairwise (fun e e' ↦ e.2 = .ownSerials → e'.2 = .ownSerials)
  latched : (∃ e ∈ numbered, e.2 = .ownSerials) → LatchedRow source db

section Recording

variable {s : Settings} {source : String} {h h' : DatabaseHandler} {ops : List Operation}

/-- Answers are cached for sources that are seen. -/
theorem recordOperation_cache {op : Operation} (hrecord : h.recordOperation s op = some h')
    (other : String) : h'.statusTracker.synchronisedCache other ≠ none →
      h.statusTracker.synchronisedCache other ≠ none ∨ other ∈ h'.statusTracker.sourcesSeen := by
  have hseen := (recordOperation_eq_some hrecord).1.seen
  unfold DatabaseHandler.recordOperation at hrecord
  dsimp only at hrecord
  split at hrecord
  · split at hrecord
    · cases hrecord
    · obtain ⟨journal, -, rfl⟩ := Option.map_eq_some_iff.mp hrecord
      by_cases hother : other = op.source
      · exact fun _ ↦ Or.inr (hseen ▸ hother ▸ List.mem_insert_self)
      · intro hcached
        refine Or.inl ?_
        simpa [DatabaseHandler.cacheSynchronised, DatabaseHandler.seeSource,
          Function.update_of_ne hother] using hcached
  · cases hrecord
    exact Or.inl

/-- What recording operations does to the entries of a source. -/
structure RecordedEffect (s : Settings) (source : String) (h h' : DatabaseHandler)
    (ops : List Operation) : Prop where
  entries : ∃ entries, EntriesAdded s h h' entries
  synchronised : h'.isSerialSynchronised s source = h.isSerialSynchronised s source
  cached : h'.statusTracker.synchronisedCache source ≠ none →
    h.statusTracker.synchronisedCache source ≠ none ∨ source ∈ h'.statusTracker.sourcesSeen
  seen : source ∈ h'.statusTracker.sourcesSeen ↔
    source ∈ h.statusTracker.sourcesSeen ∨ ∃ op ∈ ops, op.source = source
  recorded : newEntries source h h' ≠ [] → ∃ op ∈ ops, op.source = source ∧
    (h.isSerialSynchronised s source = true → op.sourceSerial ≠ none)

/-- The new entries are those added. -/
theorem EntriesAdded.newEntries_eq {entries : List RPSLDatabaseJournal}
    (hadded : EntriesAdded s h h' entries) (source : String) :
    Storage.newEntries source h h' =
      entries.filter (fun e ↦ e.source = source) := by
  rw [Storage.newEntries, hadded.written, List.drop_left]

/-- Entries that stay in the journal. -/
theorem ofSource_filter_sublist (t : JournalTable) (keep : RPSLDatabaseJournal → Bool) :
    (JournalTable.ofSource (t.filter keep) source).Sublist (t.ofSource source) :=
  List.Sublist.filter _ List.filter_sublist

/-- What was written in two parts. -/
theorem newEntries_trans {h'' : DatabaseHandler} (hfirst : h.written.IsPrefix h'.written)
    (hsecond : h'.written.IsPrefix h''.written) :
    newEntries source h h'' = newEntries source h h' ++ newEntries source h' h'' := by
  obtain ⟨first, hfirst⟩ := hfirst
  obtain ⟨second, hsecond⟩ := hsecond
  have hboth : h''.written = h.written ++ (first ++ second) := by
    rw [← hsecond, ← hfirst, List.append_assoc]
  unfold newEntries
  rw [hboth, List.drop_left, ← hfirst, List.drop_left,
    ← List.append_assoc h.written first second, List.drop_left, List.filter_append]

theorem RecordedOperations.effect (hrecorded : RecordedOperations s h ops h') (source : String) :
    RecordedEffect s source h h' ops := by
  induction hrecorded with
  | refl => exact ⟨⟨[], .refl⟩, rfl, Or.inl, by simp, fun hne ↦ absurd (by simp [newEntries]) hne⟩
  | @same ops h₁ h₂ _ hsame ih =>
    obtain ⟨⟨entries, hadded⟩, hsync, hcached, hseen, hrecorded⟩ := ih
    refine ⟨⟨entries, hadded.same hsame⟩, ?_, ?_, ?_, ?_⟩
    · unfold DatabaseHandler.isSerialSynchronised Database.isSerialSynchronised at hsync ⊢
      rw [hsame.tracker, hsame.status]
      exact hsync
    · rw [hsame.tracker]
      exact hcached
    · rw [hsame.tracker]
      exact hseen
    · rw [(hadded.same hsame).newEntries_eq, ← hadded.newEntries_eq]
      exact hrecorded
  | @record ops h₁ h₂ op _ hop ih =>
    obtain ⟨⟨entries, hadded⟩, hsync, hcached, hseen, hrecorded⟩ := ih
    obtain ⟨hframe, hcases⟩ := recordOperation_eq_some hop
    obtain ⟨more, hmore, hsource, -⟩ := recordOperation_entries hop
    refine ⟨⟨entries ++ more, hadded.trans hmore⟩, (hframe.synchronised source).trans hsync,
      fun hcache ↦ ?_, ?_, fun hne ↦ ?_⟩
    · rcases recordOperation_cache hop source hcache with hcache | hseen
      · rcases hcached hcache with hcache | hseen
        · exact Or.inl hcache
        · exact Or.inr (hframe.seen ▸ List.mem_insert_of_mem hseen)
      · exact Or.inr hseen
    · have hlast : (∃ o ∈ ops ++ [op], o.source = source) ↔
          (∃ o ∈ ops, o.source = source) ∨ op.source = source := by
        simp [or_and_right, exists_or]
      rw [hframe.seen, List.mem_insert_iff, hseen, hlast, eq_comm, or_comm, or_assoc]
    · rw [(hadded.trans hmore).newEntries_eq, List.filter_append] at hne
      by_cases hold : newEntries source h h₁ = []
      · rw [← hadded.newEntries_eq, hold, List.nil_append, Ne, List.filter_eq_nil_iff] at hne
        push Not at hne
        obtain ⟨e, he, hesource⟩ := hne
        have hopSource : op.source = source :=
          (hsource e he).symm.trans (of_decide_eq_true hesource)
        refine ⟨op, by simp, hopSource, fun hsynced hnone ↦ ?_⟩
        rcases hcases with ⟨-, rfl⟩ | ⟨-, serial, hserial, -⟩
        · have hjournal := hmore.journal
          have hnil : more = [] := by simpa [DatabaseHandler.seeSource] using hjournal
          rw [hnil] at he
          cases he
        · unfold DatabaseHandler.serialFor at hserial
          rw [hopSource, if_pos (hsync.trans hsynced), hnone] at hserial
          cases hserial
      · obtain ⟨op', hop', hrest⟩ := hrecorded hold
        exact ⟨op', List.mem_append_left _ hop', hrest⟩

/-- Entries keep their order of modes when more of one mode come. -/
theorem ordered_append {numbered : List (RPSLDatabaseJournal × SerialMode)}
    {entries : List RPSLDatabaseJournal} {mode : SerialMode}
    (hordered : numbered.Pairwise (fun e e' ↦ e.2 = .ownSerials → e'.2 = .ownSerials))
    (hmode : entries ≠ [] → mode = .synchronised → ∀ e ∈ numbered, e.2 ≠ .ownSerials) :
    (numbered ++ entries.map (·, mode)).Pairwise
      (fun e e' ↦ e.2 = .ownSerials → e'.2 = .ownSerials) := by
  rw [List.pairwise_append]
  refine ⟨hordered, List.pairwise_map.mpr (List.pairwise_of_forall (fun _ _ ↦ id)), ?_⟩
  intro e he e' he' hown
  obtain ⟨entry, hentry, rfl⟩ := List.mem_map.mp he'
  cases mode with
  | synchronised => exact absurd hown (hmode (List.ne_nil_of_mem hentry) rfl e he)
  | ownSerials => rfl

/-- Recording operations keeps the modes apart. Where a reload is asked for, nothing comes from the
NRTM source. -/
theorem ModeInvariant.recorded {numbered : List (RPSLDatabaseJournal × SerialMode)}
    (hinv : ModeInvariant s source h numbered) (hrecorded : RecordedOperations s h ops h')
    (hops : AwaitsReload source h → ∀ op ∈ ops, op.source = source → op.sourceSerial = none)
    (hbuffer : AwaitsReload source h → ∀ b ∈ h'.rpslUpsertBuffer, b.columns.source = source →
      b.sourceSerial = none) :
    ModeInvariant s source h'
      (numbered ++ (newEntries source h h').map (·, h.serialMode s source)) := by
  obtain ⟨⟨entries, hadded⟩, hsync, hcached, hseen, hserials⟩ := hrecorded.effect source
  have hstatus : h'.working.status = h.working.status := hadded.status
  have hsub : source ∈ h.statusTracker.sourcesSeen → source ∈ h'.statusTracker.sourcesSeen :=
    fun hmem ↦ hseen.mpr (Or.inl hmem)
  have hrow : LatchedRow source h.working → LatchedRow source h'.working := by
    unfold LatchedRow
    rw [hstatus]
    exact id
  -- With synchronised serials, an entry of the source comes from its NRTM source.
  have hmode : newEntries source h h' ≠ [] → h.serialMode s source = .synchronised →
      ∀ e ∈ numbered, e.2 ≠ .ownSerials := by
    intro hne hmode e he hown
    have hsynced : h.isSerialSynchronised s source = true := by
      unfold DatabaseHandler.serialMode at hmode
      split at hmode
      · assumption
      · cases hmode
    obtain ⟨op, hop, hopSource, hserial⟩ := hserials hne
    rcases hinv.latched ⟨e, he, hown⟩ with ⟨row, hrow, hflag⟩ | ⟨-, hunsynced⟩
    · rcases hflag with hflag | hflag
      · rw [hinv.unsynchronised row hrow hflag] at hsynced
        cases hsynced
      · exact hserial hsynced (hops ⟨row, hrow, hflag⟩ op hop hopSource)
    · rw [hsynced] at hunsynced
      cases hunsynced
  refine ⟨?_, ordered_append hinv.ordered hmode, fun hcache ↦ ?_, ?_, ?_, ?_⟩
  · have hnew : ((newEntries source h h').map (·, h.serialMode s source)).map Prod.fst =
        entries.filter (fun e ↦ e.source = source) := by
      rw [hadded.newEntries_eq]
      simp [Function.comp_def]
    rw [List.map_append, hadded.ofSource, hnew]
    exact List.Sublist.append_right hinv.journal _
  · rcases hcached hcache with hcache | hmem
    · exact hsub (hinv.cached hcache)
    · exact hmem
  · rw [hstatus, hsync]
    exact hinv.unsynchronised
  · rintro ⟨e, he, hown⟩
    rcases List.mem_append.mp he with he | he
    · rcases hinv.latched ⟨e, he, hown⟩ with hlatched | ⟨hmem, hunsynced⟩
      · exact Or.inl (hrow hlatched)
      · exact Or.inr ⟨hsub hmem, hsync.trans hunsynced⟩
    · obtain ⟨entry, hentry, rfl⟩ := List.mem_map.mp he
      obtain ⟨op, hop, hopSource, -⟩ := hserials (List.ne_nil_of_mem hentry)
      refine Or.inr ⟨hseen.mpr (Or.inr ⟨op, hop, hopSource⟩), hsync.trans ?_⟩
      unfold DatabaseHandler.serialMode at hown
      dsimp only at hown
      split at hown
      · cases hown
      · next hunsynced => exact (Bool.not_eq_true _).mp hunsynced
  · unfold AwaitsReload
    rw [hstatus]
    exact hbuffer

/-- Operations of pending upserts come with the serials of these. -/
theorem flushedOperations_sourceSerial {buffer : List BufferedUpsert}
    (hbuffer : ∀ b ∈ buffer, b.columns.source = source → b.sourceSerial = none) :
    ∀ op ∈ flushedOperations buffer, op.source = source → op.sourceSerial = none := by
  intro op hop hsource
  obtain ⟨b, hb, rfl⟩ := List.mem_map.mp hop
  exact hbuffer b (List.mem_filter.mp hb).1 hsource

theorem dictOperations_sourceSerial {A : Type} {operation : DatabaseOperation}
    {origin : JournalEntryOrigin} {dict : A → RPSLObjectDict} {items : List A} :
    ∀ op ∈ items.map (fun item ↦ dictOperation operation origin (dict item)),
      op.sourceSerial = none := by
  intro op hop
  obtain ⟨item, -, rfl⟩ := List.mem_map.mp hop
  rfl

/-- A flush. -/
theorem ModeInvariant.flush {numbered : List (RPSLDatabaseJournal × SerialMode)}
    (hinv : ModeInvariant s source h numbered)
    (hflush : h.flushRpslObjectWritingBuffer s = some h') :
    ModeInvariant s source h'
      (numbered ++ (newEntries source h h').map (·, h.serialMode s source)) := by
  refine hinv.recorded (recordedOperations_flush hflush)
    (fun hawaits ↦ flushedOperations_sourceSerial (hinv.pending hawaits)) (fun _ ↦ ?_)
  rw [(flush_objects hflush).2.1]
  exact fun b hb ↦ (List.not_mem_nil hb).elim

end Recording

section Operations

variable {s : Settings} {source : String} {h h' : DatabaseHandler}
  {numbered : List (RPSLDatabaseJournal × SerialMode)}

/-- Changes of the handler that serials do not depend on. -/
theorem ModeInvariant.congr (hinv : ModeInvariant s source h numbered)
    (hjournal : (h'.working.journal.ofSource source).Sublist (h.working.journal.ofSource source))
    (hfind : h'.working.status.find source = h.working.status.find source)
    (hcache : h'.statusTracker.synchronisedCache = h.statusTracker.synchronisedCache)
    (hseen : source ∈ h.statusTracker.sourcesSeen → source ∈ h'.statusTracker.sourcesSeen)
    (hbuffer : ∀ b ∈ h'.rpslUpsertBuffer, b ∈ h.rpslUpsertBuffer) :
    ModeInvariant s source h' numbered := by
  have hsync : h'.isSerialSynchronised s source = h.isSerialSynchronised s source := by
    unfold DatabaseHandler.isSerialSynchronised Database.isSerialSynchronised
    rw [hcache, hfind]
  refine ⟨hjournal.trans hinv.journal, hinv.ordered, ?_, ?_, ?_, ?_⟩
  · rw [hcache]
    exact fun hcached ↦ hseen (hinv.cached hcached)
  · rw [hfind, hsync]
    exact hinv.unsynchronised
  · unfold LatchedRow
    rw [hfind, hsync]
    exact fun hown ↦ (hinv.latched hown).imp id (fun ⟨hmem, hunsynced⟩ ↦ ⟨hseen hmem, hunsynced⟩)
  · unfold AwaitsReload
    rw [hfind]
    exact fun hawaits b hb ↦ hinv.pending hawaits b (hbuffer b hb)

/-- An upsert. -/
theorem ModeInvariant.upsert {o : RPSLObject} {origin : JournalEntryOrigin} {guaranteed : Bool}
    {sourceSerial created : Option Nat} (hinv : ModeInvariant s source h numbered)
    (hserial : o.source = source → sourceSerial ≠ none → ¬ AwaitsReload source h)
    (hupsert : h.upsertRpslObject s o origin guaranteed sourceSerial created = some h') :
    ModeInvariant s source h'
      (numbered ++ (newEntries source h h').map (·, h.serialMode s source)) := by
  obtain ⟨ops, hrecorded, hops, hbuffer⟩ := recordedOperations_upsert hupsert
  have hnone (hawaits : AwaitsReload source h) (b : BufferedUpsert)
      (hb : b ∈ h.rpslUpsertBuffer ++ [⟨h.objectColumns o, created, origin, sourceSerial⟩])
      (hsource : b.columns.source = source) : b.sourceSerial = none := by
    rcases List.mem_append.mp hb with hb | hb
    · exact hinv.pending hawaits b hb hsource
    · rw [List.mem_singleton.mp hb] at hsource ⊢
      by_contra hne
      exact hserial hsource hne hawaits
  refine hinv.recorded hrecorded (fun hawaits op hop hsource ↦ ?_)
    (fun hawaits b hb ↦ hnone hawaits b (hbuffer b hb))
  obtain ⟨b, hb, rfl⟩ := hops op hop
  exact hnone hawaits b hb hsource

/-- Removing rows. -/
theorem ModeInvariant.removed {h₁ : DatabaseHandler} {rows : List RPSLDatabaseObject}
    {origin : JournalEntryOrigin} {sourceSerial : Option Nat}
    (hinv : ModeInvariant s source h numbered)
    (hremoved : RowsRemoved s h h₁ h' rows origin sourceSerial)
    (hserial : AwaitsReload source h → ∀ row ∈ rows, row.source = source → sourceSerial = none) :
    ModeInvariant s source h'
      (numbered ++ (newEntries source h h').map (·, h.serialMode s source)) := by
  refine hinv.recorded hremoved.all (fun hawaits op hop hsource ↦ ?_) (fun _ b hb ↦ ?_)
  · rcases List.mem_append.mp hop with hop | hop
    · exact flushedOperations_sourceSerial (hinv.pending hawaits) op hop hsource
    · obtain ⟨row, hrow, rfl⟩ := List.mem_map.mp hop
      exact hserial hawaits row hrow hsource
  · rw [hremoved.buffer] at hb
    cases hb

/-- A deletion. -/
theorem ModeInvariant.delete {origin : JournalEntryOrigin} {a : DatabaseHandler.DeleteArguments}
    {sourceSerial : Option Nat} {protect : Bool} (hinv : ModeInvariant s source h numbered)
    (hserial : a.key.any (fun key ↦ key.source = source) = true → sourceSerial ≠ none →
      ¬ AwaitsReload source h)
    (hdelete : h.deleteRpslObject s origin a sourceSerial protect = some h') :
    ModeInvariant s source h'
      (numbered ++ (newEntries source h h').map (·, h.serialMode s source)) := by
  obtain ⟨h₁, hremoved, -⟩ := rowsRemoved_delete hdelete
  refine hinv.removed hremoved (fun hawaits row hrow hsource ↦ ?_)
  obtain ⟨key, hkey, hfind⟩ := Option.bind_eq_some_iff.mp (Option.mem_toList.mp hrow)
  have hkeySource : key.source = source := by
    rw [← KeyedTable.find_key hfind]
    exact hsource
  by_contra hne
  exact hserial (by simp [hkey, hkeySource]) hne hawaits

/-- Operations that only record dicts. -/
theorem ModeInvariant.dicts {A B : Type} {operation operation' : DatabaseOperation}
    {origin origin' : JournalEntryOrigin} {dict : A → RPSLObjectDict} {dict' : B → RPSLObjectDict}
    {qualifies : A → Bool} {qualifies' : B → Bool} {items : List A} {items' : List B}
    {h₀ h₁ h₂ : DatabaseHandler} (hinv : ModeInvariant s source h numbered)
    (hfirst : SameSerials h h₀) (hbuffer : h₀.rpslUpsertBuffer = h.rpslUpsertBuffer)
    (hdicts : h₀.recordDicts s operation origin dict qualifies items = some h₁)
    (hdicts' : h₁.recordDicts s operation' origin' dict' qualifies' items' = some h₂)
    (hlast : SameSerials h₂ h') (hbuffer' : h'.rpslUpsertBuffer = h₂.rpslUpsertBuffer) :
    ModeInvariant s source h'
      (numbered ++ (newEntries source h h').map (·, h.serialMode s source)) := by
  have hrecorded := ((recordedOperations_dicts hdicts).trans
    (recordedOperations_dicts hdicts')).after hfirst
  refine hinv.recorded (.same hrecorded hlast) (fun _ op hop _ ↦ ?_) (fun hawaits ↦ ?_)
  · rcases List.mem_append.mp hop with hop | hop
    · exact dictOperations_sourceSerial op hop
    · exact dictOperations_sourceSerial op hop
  · rw [hbuffer', (recordDicts_frame hdicts').1, (recordDicts_frame hdicts).1, hbuffer]
    exact hinv.pending hawaits

/-- An update of route preference statuses. -/
theorem ModeInvariant.updateRoutePreferenceStatus {nowVisible nowSuppressed : List RPSLObjectDict}
    (hinv : ModeInvariant s source h numbered)
    (hupdate : h.updateRoutePreferenceStatus s nowVisible nowSuppressed = some h') :
    ModeInvariant s source h'
      (numbered ++ (newEntries source h h').map (·, h.serialMode s source)) := by
  obtain ⟨h₁, hvisible, hupdate⟩ := Option.bind_eq_some_iff.mp hupdate
  obtain ⟨h₂, hsuppressed, hupdate⟩ := Option.bind_eq_some_iff.mp hupdate
  cases hupdate
  exact hinv.dicts ⟨rfl, rfl, rfl, rfl, rfl, rfl, rfl⟩ rfl hvisible hsuppressed
    ⟨rfl, rfl, rfl, rfl, rfl, rfl, rfl⟩ rfl

/-- One part after the other. -/
theorem ModeInvariant.trans {h₁ : DatabaseHandler} {ops more : List Operation}
    (hfirst : RecordedOperations s h ops h₁) (hsecond : RecordedOperations s h₁ more h')
    (hinv : ModeInvariant s source h' ((numbered ++
      (newEntries source h h₁).map (·, h.serialMode s source)) ++
        (newEntries source h₁ h').map (·, h₁.serialMode s source))) :
    ModeInvariant s source h'
      (numbered ++ (newEntries source h h').map (·, h.serialMode s source)) := by
  obtain ⟨⟨entries, hadded⟩, hsync, -, -, -⟩ := hfirst.effect source
  obtain ⟨⟨entries', hadded'⟩, -, -, -, -⟩ := hsecond.effect source
  have hmode : h₁.serialMode s source = h.serialMode s source := by
    unfold DatabaseHandler.serialMode
    rw [hsync]
  rw [newEntries_trans ⟨entries, hadded.written.symm⟩ ⟨entries', hadded'.written.symm⟩,
    List.map_append, ← List.append_assoc]
  rwa [hmode] at hinv

/-- An evaluation of route preferences. -/
theorem ModeInvariant.evaluateRoutePreference {prefixes : List IP}
    (hinv : ModeInvariant s source h numbered)
    (heval : h.evaluateRoutePreference s prefixes = some h') :
    ModeInvariant s source h'
      (numbered ++ (newEntries source h h').map (·, h.serialMode s source)) := by
  unfold DatabaseHandler.evaluateRoutePreference at heval
  split at heval
  · cases heval
    simpa [newEntries] using hinv
  · obtain ⟨h₁, hflush, heval⟩ := Option.bind_eq_some_iff.mp heval
    have hinv₁ := hinv.flush hflush
    split at heval
    · cases heval
      exact hinv₁
    · exact ModeInvariant.trans (recordedOperations_flush hflush)
        (recordedOperations_updateRoutePreferenceStatus heval)
        (hinv₁.updateRoutePreferenceStatus heval)

end Operations

section Transactions

variable {s : Settings} {source : String} {h h' : DatabaseHandler}
  {numbered : List (RPSLDatabaseJournal × SerialMode)}

theorem latchedRow_iff (db : Database) : LatchedRow source db ↔
    ∃ flags ∈ db.flags source, flags.1 = false ∨ flags.2 = true := by
  unfold LatchedRow Database.flags
  cases db.status.find source with
  | none => simp
  | some row => simp [RPSLDatabaseStatus.flags]

/-- Finalising caches answers for the sources seen. -/
theorem cache_finaliseTransaction (h : DatabaseHandler) (source : String)
    (hcache : (h.finaliseTransaction s).statusTracker.synchronisedCache source ≠ none) :
    h.statusTracker.synchronisedCache source ≠ none ∨ source ∈ h.statusTracker.sourcesSeen := by
  have hfold (sources : List String) (h : DatabaseHandler) :
      (sources.foldl (DatabaseHandler.seeStatusRow s) h).statusTracker.synchronisedCache source ≠
        none → h.statusTracker.synchronisedCache source ≠ none ∨ source ∈ sources := by
    induction sources generalizing h with
    | nil => exact Or.inl
    | cons first sources ih =>
      intro hcache
      rcases ih _ hcache with hcache | hmem
      · by_cases hfirst : source = first
        · exact Or.inr (hfirst ▸ List.mem_cons_self)
        · refine Or.inl ?_
          simpa [DatabaseHandler.seeStatusRow, DatabaseHandler.cacheSynchronised,
            Function.update_of_ne hfirst] using hcache
      · exact Or.inr (List.mem_cons_of_mem _ hmem)
  exact hfold _ h hcache

/-- The mode of a source is read from its cached answer or its status row. -/
theorem serialMode_congr (hsync : h'.isSerialSynchronised s source =
    h.isSerialSynchronised s source) : h'.serialMode s source = h.serialMode s source := by
  unfold DatabaseHandler.serialMode
  rw [hsync]

theorem serialMode_eq_ownSerials (h : DatabaseHandler) :
    h.serialMode s source = .ownSerials ↔ h.isSerialSynchronised s source = false := by
  unfold DatabaseHandler.serialMode
  cases h.isSerialSynchronised s source <;> simp

/-- The flush sees what the commit will have seen. -/
theorem seen_flush {h₁ : DatabaseHandler} (source : String)
    (hflush : h.flushRpslObjectWritingBuffer s = some h₁) :
    source ∈ h₁.statusTracker.sourcesSeen ↔ SeenByCommit source h := by
  have hops : (∃ op ∈ flushedOperations h.rpslUpsertBuffer, op.source = source) ↔
      ∃ b ∈ h.rpslUpsertBuffer, b.columns.source = source ∧ b.columns.isVisible = true := by
    simp only [flushedOperations, List.mem_map, List.mem_filter]
    constructor
    · rintro ⟨op, ⟨b, ⟨hb, hvisible⟩, rfl⟩, hsource⟩
      exact ⟨b, hb, hsource, hvisible⟩
    · rintro ⟨b, hb, hsource, hvisible⟩
      exact ⟨b.toOperation, ⟨b, ⟨hb, hvisible⟩, rfl⟩, hsource⟩
  rw [((recordedOperations_flush hflush).effect source).seen, hops]
  rfl

/-- What a commit knows of a source when its status row is finalised, before route preferences are
evaluated. -/
structure FinalisedSource (s : Settings) (source : String) (h h₁ h₃ : DatabaseHandler) : Prop where
  seen : source ∈ h₃.statusTracker.sourcesSeen ↔ SeenByCommit source h
  synchronised : h₃.isSerialSynchronised s source = h.isSerialSynchronised s source
  flags : SeenByCommit source h ∧
      h₃.working.flags source = some (h.isSerialSynchronised s source, false) ∨
    ¬ SeenByCommit source h ∧ h₃.working.flags source = h.working.flags source
  journal : h₃.working.journal = h₁.working.journal
  buffer : h₃.rpslUpsertBuffer = []
  cached : h₃.statusTracker.synchronisedCache source ≠ none →
    h₁.statusTracker.synchronisedCache source ≠ none ∨ source ∈ h₃.statusTracker.sourcesSeen
  written : h₃.written = h₁.written
  objects : flushedObjects h = some h₃.working.objects
  changed : h₃.changedObjectsTracker = h.changedObjectsTracker
  journalingEnabled : h₃.journalingEnabled = h.journalingEnabled

theorem finalisedSource {h₁ h₂ h₃ h₄ : DatabaseHandler} (source : String)
    (hparts : CommitParts s h h₁ h₂ h₃ h₄ h') : FinalisedSource s source h h₁ h₃ := by
  obtain ⟨⟨entries, hadded⟩, hsync₁, -, -, -⟩ :=
    (recordedOperations_flush hparts.flush).effect source
  obtain ⟨hframe, hsync, -⟩ := finaliseTransaction_spec (s := s) h₂
  have hflags := flags_finaliseTransaction (s := s) h₂ source
  have hcache := cache_finaliseTransaction (s := s) h₂ source
  have hworking : h₃.working = (h₂.finaliseTransaction s).working := by rw [hparts.finalise]
  have htracker : h₃.statusTracker = (h₂.finaliseTransaction s).statusTracker := by
    rw [hparts.finalise]
  have hsync₂ : h₂.isSerialSynchronised s source = h.isSerialSynchronised s source := by
    rw [← hsync₁]
    unfold DatabaseHandler.isSerialSynchronised Database.isSerialSynchronised
    rw [hparts.roas.tracker, hparts.roas.status]
  have hflags₂ : h₂.working.flags source = h.working.flags source := by
    unfold Database.flags
    rw [hparts.roas.status, hadded.status]
  have hsees : source ∈ h₂.statusTracker.sourcesSeen ↔ SeenByCommit source h := by
    rw [hparts.roas.tracker]
    exact seen_flush source hparts.flush
  obtain ⟨hobjects, -, -⟩ := flush_objects hparts.flush
  refine ⟨?_, ?_, ?_, ?_, ?_, ?_, ?_, ?_, ?_, ?_⟩
  · rw [htracker, hframe.seen, hsees]
  · rw [← hsync₂, ← hsync source]
    unfold DatabaseHandler.isSerialSynchronised
    rw [hworking, htracker]
  · rw [hsync₂, hflags₂] at hflags
    rw [hworking, hflags, ← hsees]
    by_cases hmem : source ∈ h₂.statusTracker.sourcesSeen
    · exact Or.inl ⟨hmem, if_pos hmem⟩
    · exact Or.inr ⟨hmem, if_neg hmem⟩
  · rw [hworking, hframe.journal, hparts.roas.journal]
  · rw [hparts.finalise]
    exact hframe.buffer.trans hparts.buffer
  · rw [htracker, hframe.seen, ← hparts.roas.tracker]
    exact hcache
  · rw [hparts.finalise]
    exact hframe.written.trans hparts.roas.written
  · rw [hworking, hframe.objects, hparts.objects]
    exact hobjects
  · rw [hparts.finalise]
    exact hframe.changed.trans hparts.changed
  · rw [hparts.finalise]
    exact hframe.journalingEnabled.trans
      (hparts.roas.journalingEnabled.trans hadded.journalingEnabled)

/-- The flush and the finalised status row: the row of a source with an entry of its own shows
it. -/
theorem ModeInvariant.finalise {h₁ h₃ : DatabaseHandler} (hinv : ModeInvariant s source h numbered)
    (hreload : AwaitsReload source h → SeenByCommit source h →
      h.isSerialSynchronised s source = true → ∀ e ∈ numbered, e.2 ≠ .ownSerials)
    (hflush : h.flushRpslObjectWritingBuffer s = some h₁)
    (hfinal : FinalisedSource s source h h₁ h₃) :
    ModeInvariant s source h₃
        (numbered ++ (newEntries source h h₁).map (·, h.serialMode s source)) ∧
      ((∃ e ∈ numbered ++ (newEntries source h h₁).map (·, h.serialMode s source),
        e.2 = .ownSerials) → LatchedRow source h₃.working) := by
  have hinv₁ := hinv.flush hflush
  obtain ⟨⟨entries, hadded⟩, hsync₁, -, -, -⟩ := (recordedOperations_flush hflush).effect source
  have hseen := seen_flush source hflush
  have hlatched : (∃ e ∈ numbered ++ (newEntries source h h₁).map (·, h.serialMode s source),
      e.2 = .ownSerials) → LatchedRow source h₃.working := by
    intro hown
    rw [latchedRow_iff]
    rcases hfinal.flags with ⟨hsees, hflags⟩ | ⟨hunseen, hflags⟩
    · -- The row takes the mode of the transaction, which is not synchronised.
      rw [hflags]
      cases hsynced : h.isSerialSynchronised s source with
      | false => exact ⟨_, rfl, Or.inl rfl⟩
      | true =>
        obtain ⟨e, he, hown⟩ := hown
        rcases List.mem_append.mp he with he | he
        · rcases hinv.latched ⟨e, he, hown⟩ with ⟨row, hrow, hfalse | hforce⟩ | ⟨-, hunsynced⟩
          · rw [hinv.unsynchronised row hrow hfalse] at hsynced
            cases hsynced
          · exact absurd hown (hreload ⟨row, hrow, hforce⟩ hsees hsynced e he)
          · rw [hunsynced] at hsynced
            cases hsynced
        · obtain ⟨entry, -, rfl⟩ := List.mem_map.mp he
          rw [(serialMode_eq_ownSerials h).mp hown] at hsynced
          cases hsynced
    · have hstatus : h₁.working.flags source = h.working.flags source := by
        unfold Database.flags
        rw [hadded.status]
      rw [hflags, ← hstatus, ← latchedRow_iff]
      exact (hinv₁.latched hown).resolve_right (fun hsees ↦ hunseen (hseen.mp hsees.1))
  refine ⟨⟨?_, hinv₁.ordered, ?_, ?_, fun hown ↦ Or.inl (hlatched hown), ?_⟩, hlatched⟩
  · rw [hfinal.journal]
    exact hinv₁.journal
  · intro hcache
    rcases hfinal.cached hcache with hcache | hmem
    · exact hfinal.seen.mpr (hseen.mp (hinv₁.cached hcache))
    · exact hmem
  · intro row hrow hfalse
    rw [hfinal.synchronised]
    have hrowFlags : h₃.working.flags source = some row.flags := by
      rw [Database.flags, hrow]
      rfl
    rcases hfinal.flags with ⟨-, hflags⟩ | ⟨-, hflags⟩
    · have hsame : row.flags = (h.isSerialSynchronised s source, false) :=
        Option.some_inj.mp (hrowFlags.symm.trans hflags)
      exact (congrArg Prod.fst hsame).symm.trans hfalse
    · obtain ⟨before, hbefore, hsame⟩ := Option.map_eq_some_iff.mp (hflags.symm.trans hrowFlags)
      exact hinv.unsynchronised before hbefore ((congrArg Prod.fst hsame).trans hfalse)
  · rw [hfinal.buffer]
    exact fun _ b hb ↦ (List.not_mem_nil hb).elim

/-- A transaction starts with what is committed, whatever the settings are. -/
theorem CommittedModes.invariant (hmodes : CommittedModes source h.working numbered)
    (htracker : h.statusTracker = .reset) (hbuffer : h.rpslUpsertBuffer = []) :
    ModeInvariant s source h numbered := by
  have hcache : h.statusTracker.synchronisedCache source = none := by rw [htracker]; rfl
  refine ⟨hmodes.journal, hmodes.ordered, fun hcached ↦ absurd hcache hcached, ?_,
    fun hown ↦ Or.inl (hmodes.latched hown), ?_⟩
  · intro row hrow hfalse
    have hfind : h.working.status.find source = some row := hrow
    simp [DatabaseHandler.isSerialSynchronised, hcache, Database.isSerialSynchronised, hfind,
      hfalse]
  · rw [hbuffer]
    exact fun _ b hb ↦ (List.not_mem_nil hb).elim

/-- Between transactions, what holds of the serials does not depend on the settings. -/
theorem ModeInvariant.committedModes (hinv : ModeInvariant s source h numbered)
    (htracker : h.statusTracker = .reset) : CommittedModes source h.working numbered := by
  refine ⟨hinv.journal, hinv.ordered, fun hown ↦ (hinv.latched hown).resolve_right ?_⟩
  rintro ⟨hmem, -⟩
  rw [htracker] at hmem
  cases hmem

/-- The evaluation of route preferences before a commit. -/
theorem ModeInvariant.preCommit (hinv : ModeInvariant s source h numbered)
    (hpre : h.preCommit s = some h') :
    ModeInvariant s source h'
      (numbered ++ (newEntries source h h').map (·, h.serialMode s source)) := by
  unfold DatabaseHandler.preCommit at hpre
  dsimp only at hpre
  split at hpre
  · cases hpre
    simpa [newEntries] using hinv
  · exact hinv.evaluateRoutePreference hpre

/-- A commit: in the end the status row shows that the source numbered an entry itself. -/
theorem ModeInvariant.commit (hinv : ModeInvariant s source h numbered)
    (hquiet : SeenByCommit source h ∨ LatchedRow source h.working ∨
      JournalsNoRoutePreference s source h)
    (hreload : AwaitsReload source h → SeenByCommit source h →
      h.isSerialSynchronised s source = true → ∀ e ∈ numbered, e.2 ≠ .ownSerials)
    (hcommit : h.commit s = some h') :
    ModeInvariant s source h'
        (numbered ++ (newEntries source h h').map (·, h.serialMode s source)) ∧
      CommittedModes source h'.committed
        (numbered ++ (newEntries source h h').map (·, h.serialMode s source)) := by
  obtain ⟨h₁, h₂, h₃, h₄, hparts⟩ := commit_parts hcommit
  have hfinal := finalisedSource source hparts
  obtain ⟨hinv₃, hlatched⟩ := hinv.finalise hreload hparts.flush hfinal
  obtain ⟨more, hpre⟩ := recordedOperations_preCommit hparts.preCommit
  obtain ⟨⟨entries, hadded⟩, hsync₄, -, -, -⟩ := hpre.effect source
  obtain ⟨⟨flushed, hflushed⟩, -, -, -, -⟩ :=
    (recordedOperations_flush hparts.flush).effect source
  have hmode : h₃.serialMode s source = h.serialMode s source :=
    serialMode_congr hfinal.synchronised
  have hinv₄ := hinv₃.preCommit hparts.preCommit
  have hwritten : h'.written = h₄.written := by rw [hparts.result]; rfl
  have hsplit : newEntries source h h' = newEntries source h h₁ ++ newEntries source h₃ h₄ := by
    have hboth : newEntries source h h₄ = newEntries source h h₁ ++ newEntries source h₁ h₄ :=
      newEntries_trans ⟨flushed, hflushed.written.symm⟩
        ⟨entries, (hadded.written.trans (congrArg (· ++ entries) hfinal.written)).symm⟩
    unfold newEntries at *
    rw [hwritten, hboth, hfinal.written]
  -- Route preferences give an entry of its own only to a source whose row shows it.
  have hquiet₃ : newEntries source h₃ h₄ ≠ [] → h.serialMode s source = .ownSerials →
      LatchedRow source h₃.working := by
    intro hne hown
    rw [latchedRow_iff]
    rcases hfinal.flags with ⟨-, hflags⟩ | ⟨hunseen, hflags⟩
    · rw [hflags, (serialMode_eq_ownSerials h).mp hown]
      exact ⟨_, rfl, Or.inl rfl⟩
    · rw [hflags, ← latchedRow_iff]
      rcases hquiet with hsees | hrow | hquiet
      · exact absurd hsees hunseen
      · exact hrow
      · have hnone := hquiet.entries hfinal.buffer hfinal.objects hfinal.changed
          hfinal.journalingEnabled hparts.preCommit hadded
        rw [hadded.newEntries_eq, hnone] at hne
        exact absurd rfl hne
  have hlatched₄ : (∃ e ∈ numbered ++ (newEntries source h h').map (·, h.serialMode s source),
      e.2 = .ownSerials) → LatchedRow source h₄.working := by
    rintro ⟨e, he, hown⟩
    unfold LatchedRow
    rw [hadded.status]
    rw [hsplit, List.map_append, ← List.append_assoc] at he
    rcases List.mem_append.mp he with he | he
    · exact hlatched ⟨e, he, hown⟩
    · obtain ⟨entry, hentry, rfl⟩ := List.mem_map.mp he
      exact hquiet₃ (List.ne_nil_of_mem hentry) hown
  rw [hmode, List.append_assoc, ← List.map_append, ← hsplit] at hinv₄
  have hmodes : CommittedModes source h₄.working
      (numbered ++ (newEntries source h h').map (·, h.serialMode s source)) :=
    ⟨hinv₄.journal, hinv₄.ordered, hlatched₄⟩
  have hcommitted : h'.committed = h₄.working := by rw [hparts.result]; rfl
  have hworking : h'.working = h₄.working := by rw [hparts.result]; rfl
  exact ⟨CommittedModes.invariant (hworking ▸ hmodes) (by rw [hparts.result]; rfl)
    (by rw [hparts.result]; rfl), hcommitted ▸ hmodes⟩

/-- A full reload, after which the source has no entry and no status row. -/
theorem ModeInvariant.reload {other : String} {guaranteed : Bool}
    (hinv : ModeInvariant s source h numbered)
    (hguaranteed : other = source → guaranteed = true →
      h.working.journal.ofSource source = [] ∧ ¬ pendingEntry s source h)
    (hreload : h.deleteAllRpslObjectsWithJournal s other guaranteed = some h') :
    ModeInvariant s source h' (if other = source then []
      else numbered ++ (newEntries source h h').map (·, h.serialMode s source)) := by
  obtain ⟨h₁, hflush, hreload⟩ := Option.bind_eq_some_iff.mp hreload
  have hinv₁ := hinv.flush hflush
  obtain ⟨entries, hadded, hbuffered, -⟩ := flush_entries hflush
  have hnew : newEntries source h h' = newEntries source h h₁ := by
    cases hreload
    rfl
  cases hreload
  have hrow : (h₁.working.status.filter (fun row ↦ !(row.source = other))).find source =
      if source = other then none else h₁.working.status.find source :=
    h₁.working.status.find_filter_ne_key source other
  by_cases hother : other = source
  · subst hother
    rw [if_pos rfl] at hrow ⊢
    refine ⟨?_, List.Pairwise.nil, hinv₁.cached, fun row hfind ↦ ?_, by simp, ?_⟩
    · rw [List.map_nil, List.sublist_nil]
      dsimp only
      split
      · next hg =>
        obtain ⟨hempty, hpending⟩ := hguaranteed rfl hg
        have hnone : entries.filter (fun e ↦ e.source = other) = [] := by
          rw [List.filter_eq_nil_iff]
          intro e he hsource
          have hsource := of_decide_eq_true hsource
          obtain ⟨hkept, hkeep⟩ := hadded.kept e he
          obtain ⟨b, hb, hbsource, hvisible⟩ := hbuffered e he
          exact hpending ⟨hkept, hsource ▸ hkeep, b, hb, hbsource.trans hsource, hvisible⟩
        exact (hadded.ofSource other).trans (by rw [hempty, hnone]; rfl)
      · simp [JournalTable.ofSource, KeyedTable.filter, DatabaseHandler.removeObjects]
    · exact absurd (hrow.symm.trans hfind) (Option.some_ne_none row).symm
    · rintro ⟨row, hfind, -⟩
      exact absurd (hrow.symm.trans hfind) (Option.some_ne_none row).symm
  · rw [if_neg (Ne.symm hother)] at hrow
    rw [if_neg hother, hnew]
    refine hinv₁.congr ?_ hrow rfl id (fun _ ↦ id)
    dsimp only
    split
    · exact List.Sublist.refl _
    · exact ofSource_filter_sublist _ _

/-- A full reload is asked for. -/
theorem ModeInvariant.setForceReload {other : String} (hinv : ModeInvariant s source h numbered)
    (halone : other = source →
      h.rpslUpsertBuffer = [] ∧ source ∉ h.statusTracker.sourcesSeen) :
    ModeInvariant s source (h.setForceReload s other) numbered := by
  have hfind : (h.setForceReload s other).working.status.find source =
      (h.working.status.find source).map (fun row ↦ if row.source = other then { row with
        forceReload := true
        synchronisedSerials := h.working.isSerialSynchronised s other true
        serialOldestSeen := none
        serialNewestSeen := none } else row) := by
    unfold DatabaseHandler.setForceReload DatabaseHandler.updateStatus
    rw [KeyedTable.find_map]
  by_cases hother : other = source
  · subst hother
    obtain ⟨hbuffer, hunseen⟩ := halone rfl
    have hcache : h.statusTracker.synchronisedCache other = none := by
      by_contra hcached
      exact hunseen (hinv.cached hcached)
    refine ⟨hinv.journal, hinv.ordered, hinv.cached, ?_, fun hown ↦ ?_, fun _ b hb ↦ ?_⟩
    · intro row hrow hfalse
      rw [hfind] at hrow
      obtain ⟨before, hbefore, rfl⟩ := Option.map_eq_some_iff.mp hrow
      rw [if_pos (KeyedTable.find_key hbefore)] at hfalse
      have hpermits : s.permitsSynchronisedSerials other = false := hfalse
      have hcache' : (h.setForceReload s other).statusTracker.synchronisedCache other = none :=
        hcache
      unfold DatabaseHandler.isSerialSynchronised Database.isSerialSynchronised
      rw [hcache', hpermits]
      simp
    · refine Or.inl ?_
      obtain ⟨row, hrow, -⟩ := (hinv.latched hown).resolve_right (fun hsees ↦ hunseen hsees.1)
      unfold LatchedRow
      rw [hfind, show h.working.status.find other = some row from hrow, Option.map_some,
        if_pos (KeyedTable.find_key hrow)]
      exact ⟨_, rfl, Or.inr rfl⟩
    · exact (List.not_mem_nil ((congrArg (b ∈ ·) hbuffer).mp hb)).elim
  · refine hinv.congr (List.Sublist.refl _) ?_ rfl id (fun _ ↦ id)
    rw [hfind]
    cases hrow : h.working.status.find source with
    | none => rfl
    | some row =>
      have hkey : row.source = source := KeyedTable.find_key hrow
      rw [Option.map_some, if_neg (fun heq ↦ hother (heq.symm.trans hkey))]

/-- An operation that writes no entry, and leaves the status row of the source and its cached
answer as they were. -/
theorem ModeInvariant.unchanged (hinv : ModeInvariant s source h numbered)
    (hwritten : h'.written = h.written)
    (hjournal : h'.working.journal = h.working.journal)
    (hfind : h'.working.status.find source = h.working.status.find source)
    (hcache : h'.statusTracker.synchronisedCache = h.statusTracker.synchronisedCache)
    (hseen : source ∈ h.statusTracker.sourcesSeen → source ∈ h'.statusTracker.sourcesSeen)
    (hbuffer : h'.rpslUpsertBuffer = h.rpslUpsertBuffer) :
    ModeInvariant s source h'
      (numbered ++ (newEntries source h h').map (·, h.serialMode s source)) := by
  have hnone : newEntries source h h' = [] := by simp [newEntries, hwritten]
  rw [hnone, List.map_nil, List.append_nil]
  refine hinv.congr ?_ hfind hcache hseen (fun b hb ↦ hbuffer ▸ hb)
  rw [hjournal]

/-- Every operation keeps the modes apart, as long as its guards hold. -/
theorem ModeInvariant.perform {op : HandlerOperation}
    {committed : List (RPSLDatabaseJournal × SerialMode)}
    (hinv : ModeInvariant s source h numbered)
    (hcommitted : CommittedModes source h.committed committed)
    (hruns : RunsTransactions source ⟨s, h, numbered, committed⟩ (.perform ⟨h.now, op⟩))
    (hkeeps : KeepsModes source ⟨s, h, numbered, committed⟩ (.perform ⟨h.now, op⟩))
    (hperform : h.perform s op = some h') :
    ModeInvariant s source h' (numberedAfter source committed
      (numbered ++ (newEntries source h h').map (·, h.serialMode s source)) op) := by
  have hsees {t : DatabaseStatusTracker} (other : String)
      (hcache : t.synchronisedCache = h.statusTracker.synchronisedCache)
      (hseen : t.sourcesSeen = h.statusTracker.sourcesSeen) :
      ModeInvariant s source (h.seen other t)
        (numbered ++ (newEntries source h (h.seen other t)).map (·, h.serialMode s source)) :=
    hinv.unchanged rfl rfl rfl hcache (fun hmem ↦ List.mem_insert_of_mem (hseen ▸ hmem)) rfl
  cases op with
  | upsertRpslObject o origin guaranteed sourceSerial created => exact hinv.upsert hruns hperform
  | updateRpkiStatus nowValid nowInvalid nowNotFound =>
    obtain ⟨h₁, hvisible, hinvisible⟩ := Option.bind_eq_some_iff.mp hperform
    refine hinv.dicts ?_ ?_ hvisible hinvisible ⟨rfl, rfl, rfl, rfl, rfl, rfl, rfl⟩ rfl
    · exact ⟨rfl, rfl, rfl, rfl, rfl, rfl, rfl⟩
    · rfl
  | updateScopefilterStatus nowInScope nowOutScopeAs nowOutScopePrefix =>
    obtain ⟨h₁, hvisible, hinvisible⟩ := Option.bind_eq_some_iff.mp hperform
    refine hinv.dicts ?_ ?_ hvisible hinvisible ⟨rfl, rfl, rfl, rfl, rfl, rfl, rfl⟩ rfl
    · exact ⟨rfl, rfl, rfl, rfl, rfl, rfl, rfl⟩
    · rfl
  | updateRoutePreferenceStatus nowVisible nowSuppressed =>
    exact hinv.updateRoutePreferenceStatus hperform
  | evaluateRoutePreference filterPrefixes => exact hinv.evaluateRoutePreference hperform
  | deleteRpslObject origin a sourceSerial protect => exact hinv.delete hruns hperform
  | suspendRpslObject pk =>
    obtain ⟨h₁, hremoved, -⟩ := rowsRemoved_suspend hperform
    exact hinv.removed hremoved (fun _ _ _ _ ↦ rfl)
  | deleteSuspendedRpslObjects pks =>
    obtain ⟨h₁, hflush, hdelete⟩ := Option.bind_eq_some_iff.mp hperform
    cases hdelete
    exact (hinv.flush hflush).congr (List.Sublist.refl _) rfl rfl id (fun _ ↦ id)
  | executeQuery => exact hinv.flush hperform
  | deleteJournalEntriesBeforeDate timestamp other =>
    obtain ⟨h₁, hflush, hexpire⟩ := Option.bind_eq_some_iff.mp hperform
    cases hexpire
    exact (hinv.flush hflush).congr (ofSource_filter_sublist _ _) rfl rfl id (fun _ ↦ id)
  | deleteAllRpslObjectsWithJournal other guaranteed => exact hinv.reload hruns hperform
  | setForceReload other =>
    cases hperform
    have hnone : newEntries source h (h.setForceReload s other) = [] := by
      simp [newEntries, DatabaseHandler.setForceReload, DatabaseHandler.updateStatus]
    show ModeInvariant s source _ (numbered ++ _)
    rw [hnone, List.map_nil, List.append_nil]
    exact hinv.setForceReload hruns
  | recordSerialSeen other serial | recordSerialNewestMirror other serial
  | recordMirrorError other error | recordSerialExported other serial
  | recordNrtm4ClientStatus other status | recordNrtm4ServerStatus other status =>
    cases hperform
    exact hsees other rfl rfl
  | insertRoaObject roa | deleteAllRoaObjects | disableJournaling | enableJournaling =>
    cases hperform
    exact hinv.unchanged rfl rfl rfl rfl id rfl
  | commit => exact (hinv.commit hkeeps.1 hkeeps.2 hperform).1
  | rollback =>
    cases hperform
    exact CommittedModes.invariant (h := h.rollback) hcommitted rfl rfl

end Transactions

/-- What holds between the actions of a run. -/
structure ModeRunInvariant (source : String) (t : ModeRun) : Prop where
  working : ModeInvariant t.settings source t.handler t.numbered
  committed : CommittedModes source t.handler.committed t.committedNumbered

/-- A new handler on a database without journal entries of the source. -/
structure InitialModes (source : String) (t : ModeRun) : Prop where
  tracker : t.handler.statusTracker = .reset
  buffer : t.handler.rpslUpsertBuffer = []
  working : t.handler.working = t.handler.committed
  journal : t.handler.committed.journal.ofSource source = []
  numbered : t.numbered = []
  committedNumbered : t.committedNumbered = []

theorem InitialModes.invariant {source : String} {t : ModeRun} (h : InitialModes source t) :
    ModeRunInvariant source t := by
  have hmodes : CommittedModes source t.handler.committed [] :=
    ⟨by rw [h.journal]; exact List.nil_sublist _, List.Pairwise.nil, by simp⟩
  refine ⟨?_, h.committedNumbered ▸ hmodes⟩
  rw [h.numbered]
  exact CommittedModes.invariant (h.working ▸ hmodes) h.tracker h.buffer

section Run

variable {source : String} {t t' : ModeRun}

theorem ModeRunInvariant.step {a : ModeAction} (hinv : ModeRunInvariant source t)
    (hruns : RunsTransactions source t a) (hkeeps : KeepsModes source t a)
    (hstep : modeStep source t a = some t') : ModeRunInvariant source t' := by
  cases a with
  | configure s =>
    cases hstep
    exact ⟨(hinv.working.committedModes hruns.2).invariant hruns.2 hruns.1, hinv.committed⟩
  | perform a =>
    obtain ⟨h', hperform, rfl⟩ := Option.map_eq_some_iff.mp hstep
    obtain ⟨now, op⟩ := a
    have hnow : ModeInvariant t.settings source { t.handler with now } t.numbered :=
      hinv.working.congr (List.Sublist.refl _) rfl rfl id (fun _ ↦ id)
    have hworking := hnow.perform hinv.committed hruns hkeeps hperform
    have hsame (hop : op ≠ .commit) : h'.committed = t.handler.committed :=
      committed_perform (h := { t.handler with now }) hop hperform
    cases op with
    | commit => exact ⟨hworking, (hnow.commit hkeeps.1 hkeeps.2 hperform).2⟩
    | _ => exact ⟨hworking, (hsame (by simp)).symm ▸ hinv.committed⟩

/-- In every run whose steps keep the modes apart, no entry of a source since its last full reload
that it numbered itself comes before one with the serial of its NRTM source, and no two entries of
its journal have the same serial. -/
theorem modes_of_reaches (hinitial : InitialModes source t)
    (hreach : Reaches (modeStep source)
      (fun t a ↦ RunsTransactions source t a ∧ KeepsModes source t a) t t') :
    (t'.handler.working.journal.ofSource source).Sublist (t'.numbered.map Prod.fst) ∧
      t'.numbered.Pairwise (fun e e' ↦ e.2 = .ownSerials → e'.2 = .ownSerials) ∧
      (t'.handler.working.journal.serials source).Nodup := by
  have hinv : ModeRunInvariant source t' := hreach.invariant (P := ModeRunInvariant source)
    (fun hinv hguard hstep ↦ hinv.step hguard.1 hguard.2 hstep) hinitial.invariant
  exact ⟨hinv.working.journal, hinv.working.ordered, nodup_serials _ source⟩

end Run

section Examples

/-- A source with an NRTM source, with or without a scope filter. -/
def mirrorSettings (scopefilter : Bool) : Settings :=
  ⟨scopefilter, none, [("TEST", ⟨true, false, false, none, some "192.0.2.1"⟩)]⟩

/-- A new handler, with a scope filter. -/
def newModeRun : ModeRun := ⟨mirrorSettings true, newHandler, [], []⟩

theorem newModeRun_initial : InitialModes "TEST" newModeRun := ⟨rfl, rfl, rfl, rfl, rfl, rfl⟩

/-- Receive an object from the NRTM source. -/
def nrtmAction (now : Nat) (nicHdl : String) (serial : Nat) : ModeAction :=
  .perform ⟨now, .upsertRpslObject (personObject nicHdl) .mirror false (some serial) none⟩

/-- The run after one more action. -/
def ModeRun.next (t : ModeRun) (a : ModeAction) (hstep : (modeStep "TEST" t a).isSome) : ModeRun :=
  (modeStep "TEST" t a).get hstep

theorem ModeRun.step_next (t : ModeRun) (a : ModeAction) (hstep : (modeStep "TEST" t a).isSome) :
    modeStep "TEST" t a = some (t.next a hstep) := (Option.some_get hstep).symm

/-- One object from the NRTM source, which gets a serial of its own. -/
def ownSerialRun : ModeRun :=
  (newModeRun.next (nrtmAction 0 "A" 10) rfl).next (.perform ⟨1, .commit⟩) rfl

theorem not_awaitsReload {source : String} {h : DatabaseHandler}
    (hrow : (h.working.status.find source).any RPSLDatabaseStatus.forceReload = false) :
    ¬ AwaitsReload source h := by
  rintro ⟨row, hfind, hforce⟩
  have hfind : h.working.status.find source = some row := hfind
  simp [hfind, hforce] at hrow

/-- The first entry is followed by a full reload without the scope filter, two objects from the NRTM
source in one transaction, and another one after the scope filter is set again. -/
def reloadedModeRun : ModeRun :=
  (((((((((((ownSerialRun.next (.configure (mirrorSettings false)) rfl).next
    (.perform ⟨2, .setForceReload "TEST"⟩) rfl).next (.perform ⟨3, .commit⟩) rfl).next
    (.perform ⟨4, .deleteAllRpslObjectsWithJournal "TEST" false⟩) rfl).next
    (.perform ⟨5, .recordSerialNewestMirror "TEST" 19⟩) rfl).next (.perform ⟨6, .commit⟩) rfl).next
    (nrtmAction 7 "B" 20) rfl).next (nrtmAction 8 "C" 21) rfl).next
    (.perform ⟨9, .commit⟩) rfl).next
    (.configure (mirrorSettings true)) rfl).next (nrtmAction 10 "D" 22) rfl).next
    (.perform ⟨11, .commit⟩) rfl

/-- The entries since the reload are apart: the last one has a serial of its own. -/
theorem modes_reloadedModeRun :
    reloadedModeRun.numbered.map Prod.snd = [.synchronised, .synchronised, .ownSerials] ∧
      (reloadedModeRun.handler.working.journal.ofSource "TEST").Sublist
        (reloadedModeRun.numbered.map Prod.fst) ∧
      reloadedModeRun.numbered.Pairwise (fun e e' ↦ e.2 = .ownSerials → e'.2 = .ownSerials) ∧
      (reloadedModeRun.handler.working.journal.serials "TEST").Nodup := by
  refine ⟨rfl, modes_of_reaches newModeRun_initial ?_⟩
  have hpending {b : BufferedUpsert} {bs : List BufferedUpsert}
      (hsource : b.columns.source = "TEST")
      (hvisible : b.columns.isVisible = true) :
      ∃ b' ∈ b :: bs, b'.columns.source = "TEST" ∧ b'.columns.isVisible = true :=
    ⟨b, List.mem_cons_self, hsource, hvisible⟩
  refine Reaches.tail (a := .perform ⟨11, .commit⟩) ?_
    ⟨trivial, Or.inl (Or.inr (hpending rfl rfl)), fun h ↦ absurd h (not_awaitsReload rfl)⟩
    (ModeRun.step_next _ _ rfl)
  refine Reaches.tail (a := nrtmAction 10 "D" 22) ?_ ⟨fun _ _ ↦ not_awaitsReload rfl, trivial⟩
    (ModeRun.step_next _ _ rfl)
  refine Reaches.tail (a := .configure (mirrorSettings true)) ?_ ⟨⟨rfl, rfl⟩, trivial⟩
    (ModeRun.step_next _ _ rfl)
  refine Reaches.tail (a := .perform ⟨9, .commit⟩) ?_
    ⟨trivial, Or.inl (Or.inr (hpending rfl rfl)), fun h ↦ absurd h (not_awaitsReload rfl)⟩
    (ModeRun.step_next _ _ rfl)
  refine Reaches.tail (a := nrtmAction 8 "C" 21) ?_ ⟨fun _ _ ↦ not_awaitsReload rfl, trivial⟩
    (ModeRun.step_next _ _ rfl)
  refine Reaches.tail (a := nrtmAction 7 "B" 20) ?_ ⟨fun _ _ ↦ not_awaitsReload rfl, trivial⟩
    (ModeRun.step_next _ _ rfl)
  -- The reload has emptied the journal, so the source may go back to the serials of the mirror.
  refine Reaches.tail (a := .perform ⟨6, .commit⟩) ?_
    ⟨trivial, Or.inl (Or.inl (by decide)), fun _ _ _ e he ↦ absurd he List.not_mem_nil⟩
    (ModeRun.step_next _ _ rfl)
  refine Reaches.tail (a := .perform ⟨5, .recordSerialNewestMirror "TEST" 19⟩) ?_
    ⟨trivial, trivial⟩ (ModeRun.step_next _ _ rfl)
  refine Reaches.tail (a := .perform ⟨4, .deleteAllRpslObjectsWithJournal "TEST" false⟩) ?_
    ⟨fun _ h ↦ absurd h Bool.false_ne_true, trivial⟩ (ModeRun.step_next _ _ rfl)
  refine Reaches.tail (a := .perform ⟨3, .commit⟩) ?_
    ⟨trivial, Or.inr (Or.inl ⟨_, rfl, Or.inr rfl⟩), fun _ hseen ↦ ?_⟩ (ModeRun.step_next _ _ rfl)
  · refine Reaches.tail (a := .perform ⟨2, .setForceReload "TEST"⟩) ?_
      ⟨fun _ ↦ ⟨rfl, List.not_mem_nil⟩, trivial⟩ (ModeRun.step_next _ _ rfl)
    refine Reaches.tail (a := .configure (mirrorSettings false)) ?_ ⟨⟨rfl, rfl⟩, trivial⟩
      (ModeRun.step_next _ _ rfl)
    refine Reaches.tail (a := .perform ⟨1, .commit⟩) ?_
      ⟨trivial, Or.inl (Or.inr (hpending rfl rfl)), fun h ↦ absurd h (not_awaitsReload rfl)⟩
      (ModeRun.step_next _ _ rfl)
    exact (Reaches.refl newModeRun).tail (a := nrtmAction 0 "A" 10)
      ⟨fun _ _ ↦ not_awaitsReload rfl, trivial⟩ (ModeRun.step_next _ _ rfl)
  · rcases hseen with hseen | ⟨b, hb, -⟩
    · exact absurd hseen (by decide)
    · exact absurd hb List.not_mem_nil

/-- Without the scope filter, a full reload is asked for. Before it happens, an export is
recorded. -/
def exportedModeRun : ModeRun :=
  ((((ownSerialRun.next (.configure (mirrorSettings false)) rfl).next
    (.perform ⟨2, .setForceReload "TEST"⟩) rfl).next (.perform ⟨3, .commit⟩) rfl).next
    (.perform ⟨4, .recordSerialExported "TEST" 1⟩) rfl).next (.perform ⟨5, .commit⟩) rfl

/-- The next object from the NRTM source. -/
def mixedModeRun : ModeRun :=
  (exportedModeRun.next (nrtmAction 6 "B" 11) rfl).next (.perform ⟨7, .commit⟩) rfl

/-- The next entry has a serial of the NRTM source. -/
theorem modes_mixedModeRun :
    InitialModes "TEST" newModeRun ∧
      Reaches (modeStep "TEST") (RunsTransactions "TEST") newModeRun mixedModeRun ∧
      mixedModeRun.handler.committed.journal.ofSource "TEST" = mixedModeRun.numbered.map Prod.fst ∧
      mixedModeRun.numbered.map Prod.snd = [.ownSerials, .synchronised] := by
  refine ⟨newModeRun_initial, ?_, rfl, rfl⟩
  refine Reaches.tail (a := .perform ⟨7, .commit⟩) ?_ trivial (ModeRun.step_next _ _ rfl)
  refine Reaches.tail (a := nrtmAction 6 "B" 11) ?_ (fun _ _ ↦ not_awaitsReload rfl)
    (ModeRun.step_next _ _ rfl)
  refine Reaches.tail (a := .perform ⟨5, .commit⟩) ?_ trivial (ModeRun.step_next _ _ rfl)
  refine Reaches.tail (a := .perform ⟨4, .recordSerialExported "TEST" 1⟩) ?_ trivial
    (ModeRun.step_next _ _ rfl)
  refine Reaches.tail (a := .perform ⟨3, .commit⟩) ?_ trivial (ModeRun.step_next _ _ rfl)
  refine Reaches.tail (a := .perform ⟨2, .setForceReload "TEST"⟩) ?_
    (fun _ ↦ ⟨rfl, List.not_mem_nil⟩) (ModeRun.step_next _ _ rfl)
  refine Reaches.tail (a := .configure (mirrorSettings false)) ?_ ⟨rfl, rfl⟩
    (ModeRun.step_next _ _ rfl)
  refine Reaches.tail (a := .perform ⟨1, .commit⟩) ?_ trivial (ModeRun.step_next _ _ rfl)
  exact (Reaches.refl newModeRun).tail (a := nrtmAction 0 "A" 10)
    (fun _ _ ↦ not_awaitsReload rfl) (ModeRun.step_next _ _ rfl)

end Examples

end Irrd.Storage
