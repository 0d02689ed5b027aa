import Irrd.Mirroring.MirrorImportRunner
import Irrd.Mirroring.Nrtm4ClientVersion
import Irrd.Mirroring.StatusRunners
import Irrd.Rpsl.ParserExceptions

/-!
# Full reload events

A full reload event tells followers of the event stream that the journal of a source is no longer
complete. The NRTMv4 client reports a full reload exactly where it has loaded a snapshot. A run
that is due to import files reports one also where no files are configured, or where the import is
cancelled. Source: `irrd/mirroring/mirror_runners_import.py`.
-/

namespace Irrd.Mirroring

open Irrd.Base Irrd.Conf Irrd.Rpki Irrd.Rpsl Irrd.Scopefilter Irrd.Storage Irrd.Updates Irrd.Utils

/-- A full reload event is published for a source exactly if all its objects and its journal are
replaced. -/
def FullReloadTruthful (source : String) (result : MirrorRunResult) : Prop :=
  source ∈ result.fullReloadEvents ↔ result.replaced = true

/-- A run without NRTMv4 and with nothing to update from a stream. -/
structure FullImportDue (s : Settings) (m : MirrorSettings) (h : DatabaseHandler) : Prop where
  noNotificationFile : nonEmpty m.nrtm4ClientNotificationFileUrl = none
  noStream : (mirrorStatus m h).2 = true ∨ (mirrorStatus m h).1.filter (· ≠ 0) = none ∨
    nonEmpty (s.source m.source).nrtmHost = none

/-- A full import is due, but it has no files, or its serial is not newer than the mirror. -/
structure NothingImported (s : Settings) (m : MirrorSettings) (o : MirrorRemote)
    (h : DatabaseHandler) : Prop where
  due : FullImportDue s m h
  skipped : m.importSource.toList = [] ∨ ∃ serial, retrieveImportSerial m o = .ok serial ∧
    isCancelled (mirrorStatus m h).1 (mirrorStatus m h).2 serial = true

section Deletion

variable {s : Settings} {h h' : DatabaseHandler} {source : String}

/-- Deleting all objects and the journal of a source leaves none of them. -/
theorem deleteAll_clears (hdelete : h.deleteAllRpslObjectsWithJournal s source false = some h') :
    (∀ row ∈ h'.working.objects.rows, row.source ≠ source) ∧
      ∀ e ∈ h'.working.journal.rows, e.source ≠ source := by
  obtain ⟨h₁, -, hdelete⟩ := Option.bind_eq_some_iff.mp hdelete
  cases hdelete
  constructor
  · intro row hrow
    simpa using (List.mem_filter.mp hrow).2
  · intro e he
    simpa using (List.mem_filter.mp he).2

end Deletion

section Unjournaled

variable {s : Settings} {h : DatabaseHandler}

theorem recordDicts_unjournaled {A : Type} (operation : DatabaseOperation)
    (origin : JournalEntryOrigin) (dict : A → RPSLObjectDict) (qualifies : A → Bool)
    (items : List A) (hjournaling : h.journalingEnabled = false) :
    ∃ h', h.recordDicts s operation origin dict qualifies items = some h' ∧
      h'.journalingEnabled = false := by
  unfold DatabaseHandler.recordDicts
  induction items generalizing h with
  | nil => exact ⟨h, rfl, hjournaling⟩
  | cons item items ih =>
    rw [List.foldlM_cons]
    split
    · dsimp only
      rw [recordOperation_unjournaled hjournaling, Option.map_some]
      apply ih
      exact hjournaling
    · exact ih hjournaling

/-- The second part of a commit without journaling cannot fail. -/
theorem preCommit_unjournaled (hjournaling : h.journalingEnabled = false)
    (hempty : h.rpslUpsertBuffer = []) : ∃ h', h.preCommit s = some h' := by
  unfold DatabaseHandler.preCommit
  dsimp only
  split
  · exact ⟨h, rfl⟩
  · unfold DatabaseHandler.evaluateRoutePreference DatabaseHandler.flushRpslObjectWritingBuffer
    rw [if_pos hempty]
    split
    · exact ⟨h, rfl⟩
    · rw [Option.bind_eq_bind, Option.bind_some]
      split
      · exact ⟨h, rfl⟩
      · obtain ⟨h₁, hvisible, hmode⟩ := recordDicts_unjournaled (s := s) .addOrUpdate
          .routePreference id DatabaseHandler.otherwiseVisible _ hjournaling
        obtain ⟨h₂, hsuppressed, -⟩ := recordDicts_unjournaled (s := s) .delete
          .routePreference id DatabaseHandler.otherwiseVisible _ hmode
        unfold DatabaseHandler.updateRoutePreferenceStatus
        rw [hvisible, Option.bind_eq_bind, Option.bind_some, hsuppressed]
        exact ⟨_, rfl⟩

end Unjournaled

section Commit

variable {s : Settings} {m : MirrorSettings} {o : MirrorRemote} {t : MirrorTransaction}
  {fullReload : Bool}

/-- What is committed is what a commit of the handler leaves, and the event needs that and Redis. -/
theorem commitAndPublish_of_finish {h' : DatabaseHandler}
    (hfinish : t.handler.finishTransaction s = some h') :
    commitAndPublish s m o t fullReload = ⟨h'.working, t.replaced,
      if h'.notifications.all (fun n ↦ o.accepts (.notification n)) && fullReload &&
        o.accepts (.fullReload m.source) then [m.source] else []⟩ := by
  unfold DatabaseHandler.finishTransaction at hfinish
  obtain ⟨h₁, hflush, hfinish⟩ := Option.bind_eq_some_iff.mp hfinish
  obtain ⟨h₂, hroas, hfinish⟩ := Option.bind_eq_some_iff.mp hfinish
  unfold commitAndPublish
  simp only [hflush, hroas, Option.bind_eq_bind, Option.bind_some, Option.pure_def]
  rw [hfinish]

/-- A commit that fails changes nothing: the second part of a commit without journaling does not
fail. -/
theorem commitAndPublish_of_fails (hfinish : t.handler.finishTransaction s = none) :
    (commitAndPublish s m o t fullReload).replaced = false ∧
      (commitAndPublish s m o t fullReload).fullReloadEvents = [] := by
  unfold DatabaseHandler.finishTransaction at hfinish
  unfold commitAndPublish
  cases hflush : t.handler.flushRpslObjectWritingBuffer s with
  | none => exact ⟨rfl, rfl⟩
  | some h₁ =>
    cases hroas : h₁.flushRoaWritingBuffer with
    | none => simp [hroas]
    | some h₂ =>
      simp only [hflush, hroas, Option.bind_eq_bind, Option.bind_some, Option.pure_def] at hfinish ⊢
      rw [hfinish]
      refine ⟨?_, rfl⟩
      cases hjournaling : (h₂.finaliseTransaction s).journalingEnabled with
      | true => simp [hjournaling]
      | false =>
        have hempty : (h₂.finaliseTransaction s).rpslUpsertBuffer = [] := by
          obtain ⟨roas, rfl⟩ := DatabaseHandler.flushRoaWritingBuffer_eq_some hroas
          exact (finaliseTransaction_spec _).1.buffer.trans (flush_objects hflush).2.1
        rw [if_neg (by simp [hjournaling])] at hfinish
        obtain ⟨h', hpre⟩ := preCommit_unjournaled (s := s) (h := { h₂.finaliseTransaction s with
          committed := (h₂.finaliseTransaction s).working }) hjournaling hempty
        exact absurd (hfinish.symm.trans hpre) (Option.some_ne_none h').symm

/-- Where Redis accepts all messages, the event is as truthful as what the import reports. -/
theorem commitAndPublish_truthful (haccepts : ∀ message, o.accepts message = true)
    (hreport : fullReload = t.replaced) :
    FullReloadTruthful m.source (commitAndPublish s m o t fullReload) := by
  cases hfinish : t.handler.finishTransaction s with
  | none =>
    have hfails : (commitAndPublish s m o t fullReload).replaced = false ∧
        (commitAndPublish s m o t fullReload).fullReloadEvents = [] :=
      commitAndPublish_of_fails hfinish
    obtain ⟨hreplaced, hevents⟩ := hfails
    unfold FullReloadTruthful
    rw [hreplaced, hevents]
    simp
  | some h' =>
    rw [commitAndPublish_of_finish hfinish]
    unfold FullReloadTruthful
    rw [hreport]
    cases t.replaced <;> simp [haccepts]

end Commit

section Client

open NRTM4Client

variable {c : NRTM4Client} {r : Remote} {unf : NRTM4UpdateNotificationFile}

/-- Loading a snapshot starts with deleting everything. -/
theorem deletes_of_loadSnapshot {load : FileLoad} (hload : c.loadSnapshot r unf = .ok load) :
    .deleteAllRpslObjectsWithJournal ∈ load.calls := by
  unfold loadSnapshot at hload
  obtain ⟨items, -, hload⟩ := bind_eq_ok_iff.mp hload
  cases items with
  | nil => cases hload
  | cons header items =>
    obtain ⟨-, -, hload⟩ := bind_eq_ok_iff.mp hload
    obtain ⟨imports, -, hload⟩ := bind_eq_ok_iff.mp hload
    cases hload
    exact List.mem_cons_self

/-- Loading a delta only saves operations. -/
theorem not_deletes_of_loadDelta {delta : NRTM4FileReference} {load : FileLoad}
    (hload : c.loadDelta r unf delta = .ok load) :
    .deleteAllRpslObjectsWithJournal ∉ load.calls := by
  unfold loadDelta at hload
  obtain ⟨items, -, hload⟩ := bind_eq_ok_iff.mp hload
  cases items with
  | nil => cases hload
  | cons header items =>
    obtain ⟨header, -, hload⟩ := bind_eq_ok_iff.mp hload
    obtain ⟨calls, hcalls, hload⟩ := bind_eq_ok_iff.mp hload
    obtain ⟨-, hload⟩ := ite_error_eq_ok_iff.mp hload
    cases hload
    intro hmem
    obtain ⟨item, -, hitem⟩ := exists_of_mem_mapM hcalls hmem
    unfold processDeltaItem at hitem
    split at hitem
    · next call hcall =>
      cases hitem
      obtain ⟨op, -, hcall⟩ := bind_eq_ok_iff.mp hcall
      obtain ⟨outcome, -, hcall⟩ := bind_eq_ok_iff.mp hcall
      cases hcall
    · cases hitem
    · cases hitem

theorem not_deletes_of_updateFromDeltas {next : Option Nat} {loads : List FileLoad}
    (hloads : c.updateFromDeltas r unf next = .ok loads) :
    .deleteAllRpslObjectsWithJournal ∉ loads.flatMap FileLoad.calls := by
  unfold updateFromDeltas at hloads
  split at hloads
  · cases hloads
  · split at hloads
    · intro hmem
      obtain ⟨load, hload, hcall⟩ := List.mem_flatMap.mp hmem
      obtain ⟨delta, -, hdelta⟩ := exists_of_mem_mapM hloads hload
      exact not_deletes_of_loadDelta hdelta hcall
    · cases hloads
      exact List.not_mem_nil
  · cases hloads
    exact List.not_mem_nil

theorem recordRun_eq_ok {usedKey : String} {snapshot deferred : Bool} {loads : List FileLoad}
    {run : ClientRun} (hrun : c.recordRun unf usedKey snapshot deferred loads = .ok run) :
    run.loads = loads ∧ run.hasLoadedSnapshot = snapshot := by
  obtain ⟨hashes, -, hrun⟩ := bind_eq_ok_iff.mp hrun
  cases hrun
  exact ⟨rfl, rfl⟩

/-- The client reports a full reload exactly if it has deleted all objects. -/
theorem hasLoadedSnapshot_iff {force : Bool} {run : ClientRun}
    (hrun : c.runClient r force = .ok run) :
    run.hasLoadedSnapshot = true ↔
      .deleteAllRpslObjectsWithJournal ∈ run.loads.flatMap FileLoad.calls := by
  have hinner : c.runClientInner r force = .ok run := by
    unfold runClient at hrun
    split at hrun <;> cases hrun
    assumption
  obtain ⟨⟨unf, usedKey⟩, -, hrun⟩ := bind_eq_ok_iff.mp hinner
  obtain ⟨next, -, hrun⟩ := bind_eq_ok_iff.mp hrun
  cases next with
  | some next =>
    obtain ⟨deltas, hdeltas, hrun⟩ := bind_eq_ok_iff.mp hrun
    obtain ⟨hloads, hsnapshot⟩ := recordRun_eq_ok hrun
    rw [hloads, hsnapshot]
    exact iff_of_false Bool.false_ne_true (not_deletes_of_updateFromDeltas hdeltas)
  | none =>
    obtain ⟨snapshot, hload, hrun⟩ := bind_eq_ok_iff.mp hrun
    obtain ⟨next, -, hrun⟩ := bind_eq_ok_iff.mp hrun
    have hfirst (loads : List FileLoad) :
        .deleteAllRpslObjectsWithJournal ∈ (snapshot :: loads).flatMap FileLoad.calls :=
      List.mem_append_left _ (deletes_of_loadSnapshot hload)
    cases force with
    | true =>
      obtain ⟨deltas, -, hrun⟩ := bind_eq_ok_iff.mp hrun
      obtain ⟨hloads, hsnapshot⟩ := recordRun_eq_ok hrun
      rw [hloads, hsnapshot]
      exact iff_of_true rfl (hfirst deltas)
    | false =>
      obtain ⟨hloads, hsnapshot⟩ := recordRun_eq_ok hrun
      rw [hloads, hsnapshot]
      exact iff_of_true rfl (hfirst [])

end Client

section Import

variable {env : Environment} {r : RenderSettings} {s : Settings} {v : ScopeFilterValidator}
  {trie : PrefixItems} {m : MirrorSettings} {o : MirrorRemote} {t t' : MirrorTransaction}
  {b : Bool}

/-- A call replaces everything if it deletes all objects and the journal. -/
theorem replaced_performCall {validators : ImportValidators} {call : HandlerCall}
    (hcall : performCall env r s v m validators t call = .ok t') :
    t'.replaced = true ↔ t.replaced = true ∨ call = .deleteAllRpslObjectsWithJournal := by
  cases call with
  | deleteAllRpslObjectsWithJournal =>
    obtain ⟨h, -, hcall⟩ := bind_eq_ok_iff.mp hcall
    cases hcall
    simp
  | disableJournaling =>
    cases hcall
    simp
  | importObject text rpkiAware =>
    obtain ⟨h, -, hcall⟩ := bind_eq_ok_iff.mp hcall
    cases hcall
    simp
  | enableJournaling =>
    cases hcall
    simp
  | saveOperation operation =>
    obtain ⟨h, -, hcall⟩ := bind_eq_ok_iff.mp hcall
    cases hcall
    simp

theorem replaced_performCalls {validators : ImportValidators} {calls : List HandlerCall}
    (hcalls : calls.foldlM (performCall env r s v m validators) t = .ok t') :
    t'.replaced = true ↔ t.replaced = true ∨ .deleteAllRpslObjectsWithJournal ∈ calls := by
  induction calls generalizing t with
  | nil =>
    cases hcalls
    simp
  | cons call calls ih =>
    rw [List.foldlM_cons] at hcalls
    obtain ⟨t₁, hcall, hcalls⟩ := bind_eq_ok_iff.mp hcalls
    rw [ih hcalls, replaced_performCall hcall, List.mem_cons, or_assoc, eq_comm (a := call)]

/-- What the NRTMv4 client reports is what it does. -/
theorem replaced_runNrtm4Client (hstart : t.replaced = false)
    (hrun : runNrtm4Client env r s v trie m o t = .ok (t', b)) : b = t'.replaced := by
  obtain ⟨run, hclient, hrun⟩ := bind_eq_ok_iff.mp hrun
  obtain ⟨t₁, hcalls, hrun⟩ := bind_eq_ok_iff.mp hrun
  cases hrun
  have hreplaced := replaced_performCalls hcalls
  rw [hstart, or_iff_right Bool.false_ne_true, ← hasLoadedSnapshot_iff hclient] at hreplaced
  exact Bool.eq_iff_iff.mpr hreplaced.symm

theorem replaced_runUpdateStream {serial : Nat}
    (hrun : runUpdateStream env r s v m o serial t = .ok t') : t'.replaced = t.replaced := by
  unfold runUpdateStream at hrun
  split at hrun
  · cases hrun
    rfl
  · obtain ⟨response, -, hrun⟩ := bind_eq_ok_iff.mp hrun
    split at hrun
    · cases hrun
    · obtain ⟨h, -, hrun⟩ := bind_eq_ok_iff.mp hrun
      cases hrun
      rfl

/-- Without files, or where it is cancelled, a full import does nothing. -/
theorem runFullImport_skipped {serialNewestMirror : Option Nat} {forceReload : Bool}
    (hskipped : m.importSource.toList = [] ∨ ∃ serial, retrieveImportSerial m o = .ok serial ∧
      isCancelled serialNewestMirror forceReload serial = true) :
    runFullImport env r s v trie m o serialNewestMirror forceReload t = .ok t := by
  unfold runFullImport
  split
  · rfl
  · next hfiles =>
    obtain ⟨serial, hserial, hcancelled⟩ := hskipped.resolve_left hfiles
    rw [hserial]
    exact if_pos hcancelled

/-- Otherwise, one that succeeds replaces everything. -/
theorem runFullImport_replaced {serialNewestMirror : Option Nat} {forceReload : Bool}
    (himported : ¬ (m.importSource.toList = [] ∨ ∃ serial, retrieveImportSerial m o = .ok serial ∧
      isCancelled serialNewestMirror forceReload serial = true))
    (hrun : runFullImport env r s v trie m o serialNewestMirror forceReload t = .ok t') :
    t'.replaced = true := by
  obtain ⟨hfiles, hnotCancelled⟩ := not_or.mp himported
  unfold runFullImport at hrun
  rw [if_neg hfiles] at hrun
  obtain ⟨serial, hserial, hrun⟩ := bind_eq_ok_iff.mp hrun
  rw [if_neg (fun hcancelled ↦ hnotCancelled ⟨serial, hserial, hcancelled⟩)] at hrun
  obtain ⟨h₁, -, hrun⟩ := bind_eq_ok_iff.mp hrun
  obtain ⟨importData, -, hrun⟩ := bind_eq_ok_iff.mp hrun
  obtain ⟨h₂, -, hrun⟩ := bind_eq_ok_iff.mp hrun
  cases hrun
  rfl

theorem runFullOrNrtm3Import_of_due (hdue : FullImportDue s m t.handler) :
    runFullOrNrtm3Import env r s v trie m o t = do
      let t ← runFullImport env r s v trie m o (mirrorStatus m t.handler).1
        (mirrorStatus m t.handler).2 t
      return (t, true) := by
  obtain ⟨-, hdue⟩ := hdue
  unfold runFullOrNrtm3Import
  dsimp only
  split
  · next hforce hserial hhost =>
    rw [hforce, hserial, hhost] at hdue
    simp at hdue
  · rfl

theorem runFullOrNrtm3Import_of_not_due (hfile : nonEmpty m.nrtm4ClientNotificationFileUrl = none)
    (hdue : ¬ FullImportDue s m t.handler) :
    ∃ serial, runFullOrNrtm3Import env r s v trie m o t = do
      let t ← runUpdateStream env r s v m o serial t
      return (t, false) := by
  unfold runFullOrNrtm3Import
  dsimp only
  split
  · next serial _ _ _ _ => exact ⟨serial, rfl⟩
  · next hother =>
    refine absurd ⟨hfile, ?_⟩ hdue
    by_contra hnone
    push Not at hnone
    obtain ⟨hforce, hserial, hhost⟩ := hnone
    obtain ⟨serial, hserial⟩ := Option.ne_none_iff_exists'.mp hserial
    obtain ⟨host, hhost⟩ := Option.ne_none_iff_exists'.mp hhost
    exact hother serial host (Bool.eq_false_iff.mpr hforce) hserial hhost

/-- Without a full import that is skipped, a full reload is reported exactly if all is replaced. -/
theorem mirrorImport_reports (hstart : t.replaced = false)
    (hskipped : ¬ NothingImported s m o t.handler)
    (hrun : mirrorImport env r s v trie m o t = .ok (t', b)) : b = t'.replaced := by
  unfold mirrorImport at hrun
  split at hrun
  · exact replaced_runNrtm4Client hstart hrun
  · next hfile =>
    rw [Option.not_isSome_iff_eq_none] at hfile
    by_cases hdue : FullImportDue s m t.handler
    · rw [runFullOrNrtm3Import_of_due hdue] at hrun
      obtain ⟨t₁, himport, hresult⟩ := bind_eq_ok_iff.mp hrun
      cases hresult
      exact (runFullImport_replaced (fun h ↦ hskipped ⟨hdue, h⟩) himport).symm
    · obtain ⟨serial, hstream⟩ := runFullOrNrtm3Import_of_not_due hfile hdue
      rw [hstream] at hrun
      obtain ⟨t₁, hstream, hresult⟩ := bind_eq_ok_iff.mp hrun
      cases hresult
      exact ((replaced_runUpdateStream hstream).trans hstart).symm

/-- A full import that is skipped is reported as a full reload. -/
theorem mirrorImport_skipped (hskipped : NothingImported s m o t.handler) :
    mirrorImport env r s v trie m o t = .ok (t, true) := by
  obtain ⟨hdue, hskipped⟩ := hskipped
  unfold mirrorImport
  rw [if_neg (by simp [hdue.noNotificationFile]), runFullOrNrtm3Import_of_due hdue,
    runFullImport_skipped hskipped]
  rfl

end Import

section Run

variable {env : Environment} {r : RenderSettings} {s : Settings} {v : ScopeFilterValidator}
  {trie : PrefixItems} {m : MirrorSettings} {o : MirrorRemote} {h : DatabaseHandler}

/-- The transaction of a new handler has nothing to commit. -/
theorem finishTransaction_connect : (connect h).finishTransaction s = some (connect h) := by
  unfold DatabaseHandler.finishTransaction DatabaseHandler.flushRpslObjectWritingBuffer
  rw [if_pos (show (connect h).rpslUpsertBuffer = [] from rfl), Option.bind_eq_bind,
    Option.bind_some]
  show DatabaseHandler.preCommit s (DatabaseHandler.finaliseTransaction s (connect h)) = _
  rw [finaliseTransaction_reset rfl]
  rfl

/-- A run that imports nothing commits what there was, and publishes an event. -/
theorem mirrorRun_skipped (haccepts : o.accepts (.fullReload m.source) = true)
    (hskipped : NothingImported s m o (connect h)) :
    mirrorRun env r s v trie m o h = ⟨h.committed, false, [m.source]⟩ := by
  unfold mirrorRun
  rw [mirrorImport_skipped (t := ⟨connect h, false⟩) hskipped]
  dsimp only
  rw [commitAndPublish_of_finish (t := ⟨connect h, false⟩) finishTransaction_connect, haccepts]
  rfl

/-- Where Redis accepts all messages, full reload events are truthful exactly in runs other than
those that are due to import files and import none. -/
theorem fullReloadTruthful_iff (haccepts : ∀ message, o.accepts message = true) :
    FullReloadTruthful m.source (mirrorRun env r s v trie m o h) ↔
      ¬ NothingImported s m o (connect h) := by
  constructor
  · intro htruthful hskipped
    rw [mirrorRun_skipped (haccepts _) hskipped] at htruthful
    exact Bool.false_ne_true (htruthful.mp List.mem_cons_self)
  · intro himported
    unfold mirrorRun
    cases hrun : mirrorImport env r s v trie m o ⟨connect h, false⟩ with
    | error e => exact iff_of_false List.not_mem_nil Bool.false_ne_true
    | ok result =>
      exact commitAndPublish_truthful haccepts (mirrorImport_reports rfl himported hrun)

end Run

section Examples

/-- Settings to import a file with a serial, without updates from a stream. -/
def fileMirror : MirrorSettings where
  imports := testImport
  nrtm4ClientNotificationFileUrl := none
  nrtm4ClientInitialPublicKey := none
  importSource := .single "ftp://example.net/test.db"
  importSerialSource := some "ftp://example.net/TEST.CURRENTSERIAL"

/-- A remote with a file of one set at serial 5. -/
def remoteAtSerial5 : MirrorRemote where
  nrtm4 := { NRTM4Client.remoteAt7 [] .snapshot with retrieveContents := fun _ ↦ .ok "5" }
  retrieveLines _ := .ok ["as-set: AS-TEST\n".toList, "source: TEST\n".toList]
  whoisQuery _ _ := .error (.other "OSError")
  accepts _ := true

/-- A handler on a database that has imported a serial. -/
def importedAtSerial (serial : Nat) : DatabaseHandler :=
  { newHandler with
    committed := { emptyDatabase with
      status := ⟨[{ newHandler.newStatusRow localSettings "TEST" with
        serialNewestMirror := some serial }], by simp⟩ } }

/-- A run of that mirror. -/
def fileMirrorRun (serial : Nat) : MirrorRunResult :=
  mirrorRun plainEnvironment mirroredSources localSettings (.loadFilters ⟨[], []⟩) .scan fileMirror
    remoteAtSerial5 (importedAtSerial serial)

/-- The import of serial 5 is cancelled at serial 5. -/
theorem nothingImported_serial5 :
    NothingImported localSettings fileMirror remoteAtSerial5 (connect (importedAtSerial 5)) :=
  ⟨⟨rfl, Or.inr (Or.inr rfl)⟩, Or.inr ⟨some 5, rfl, rfl⟩⟩

/-- A cancelled import publishes a full reload event. -/
theorem cancelledImport_published :
    (fileMirrorRun 5).fullReloadEvents = ["TEST"] ∧
      ¬ FullReloadTruthful "TEST" (fileMirrorRun 5) := by
  have hrun : fileMirrorRun 5 = ⟨(importedAtSerial 5).committed, false, ["TEST"]⟩ :=
    mirrorRun_skipped rfl nothingImported_serial5
  rw [hrun]
  exact ⟨rfl, fun htruthful ↦ Bool.false_ne_true (htruthful.mp List.mem_cons_self)⟩

/-- The import of serial 5 at serial 4 replaces the objects, and is reported truthfully. -/
theorem fullReloadTruthful_newImport :
    (fileMirrorRun 4).committed.objects.rows.map (fun row ↦ row.rpslPk) = ["AS-TEST"] ∧
      FullReloadTruthful "TEST" (fileMirrorRun 4) := by
  refine ⟨by decide +kernel, (fullReloadTruthful_iff (o := remoteAtSerial5) (fun _ ↦ rfl)).mpr ?_⟩
  rintro ⟨-, hempty | ⟨serial, hserial, hcancelled⟩⟩
  · cases hempty
  · cases hserial
    cases hcancelled

end Examples

end Irrd.Mirroring
