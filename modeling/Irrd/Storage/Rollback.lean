import Irrd.Storage.HandlerRun

/-!
# Rolling back

A rollback ends the transaction of a handler, whatever was done in it, and whatever operations that
raised an exception have left behind. Afterwards the handler cannot be told from a new one.
Source: `irrd/storage/database_handler.py`. Row keys and global serials that the transaction has
used stay used.
-/

namespace Irrd.Storage

open Irrd.Base Irrd.Conf

/-- What other processes are told after a commit. -/
inductive Notification
  | signalReload (objectClasses : List String)
  | publishUpdate (source : String)
  deriving DecidableEq

namespace DatabaseHandler

/-- A handler that is created on a database, `irrd/storage/database_handler.py:99–117`, with the
way to read columns, the clock, the generators and the log of another one. -/
def opened (database : Database) (h : DatabaseHandler) : DatabaseHandler :=
  DatabaseHandler.startTransaction {
    committed := database
    working := database
    journalingEnabled := true
    rpslPkSourceSeen := []
    rpslUpsertBuffer := []
    roaInsertBuffer := []
    roaColumnInput := h.roaColumnInput
    rpslGuaranteedNoExisting := true
    statusTracker := .reset
    changedObjectsTracker := ⟨[], []⟩
    now := h.now
    nextPk := h.nextPk
    nextSerialGlobal := h.nextSerialGlobal
    written := h.written }

/-- `disable_journaling` or `enable_journaling`. -/
def withJournaling (h : DatabaseHandler) (enabled : Bool) : DatabaseHandler :=
  if enabled then h.enableJournaling else h.disableJournaling

/-- A commit up to the last commit of its transaction,
`irrd/storage/database_handler.py:168–179`. -/
def finishTransaction (s : Settings) (h : DatabaseHandler) : Option DatabaseHandler := do
  let h ← h.flushRpslObjectWritingBuffer s
  let h ← h.flushRoaWritingBuffer
  let h := h.finaliseTransaction s
  let h := if h.journalingEnabled then h else { h with committed := h.working }
  h.preCommit s

/-- What is sent after the commit of a transaction: `SessionChangedObjectsTracker.commit` and
`publish_event_stream`, `irrd/storage/database_handler.py:1239–1245,1324–1328`. -/
def notifications (h : DatabaseHandler) : List Notification :=
  let t := h.statusTracker
  let classes := h.changedObjectsTracker.objectClasses
  (if classes = [] then [] else [.signalReload classes]) ++
    (t.sourcesSeen.filter (fun source ↦ t.newSerialsPerSource source ≠ [])).map .publishUpdate

/-- What an action sends. -/
def sent (s : Settings) (h : DatabaseHandler) (a : HandlerAction) : List Notification :=
  match a.operation with
  | .commit => (finishTransaction s { h with now := a.now }).elim [] notifications
  | _ => []

theorem commit_eq (s : Settings) (h : DatabaseHandler) :
    h.commit s = (h.finishTransaction s).map (fun h ↦
      { h with committed := h.working, changedObjectsTracker := ⟨[], []⟩ }.startTransaction) := by
  unfold commit finishTransaction
  cases hflush : h.flushRpslObjectWritingBuffer s with
  | none => rfl
  | some h₁ =>
    cases hroas : h₁.flushRoaWritingBuffer with
    | none =>
      simp only [Option.bind_eq_bind, Option.bind_some, hroas]
      rfl
    | some h₂ =>
      simp only [Option.bind_eq_bind, Option.bind_some, hroas]
      exact Option.map_eq_bind.symm

/-- Nothing but the clock, the generators, the way to read columns and whether journaling is enabled
is left of a handler that is rolled back. -/
theorem rollback_eq_opened (h : DatabaseHandler) :
    h.rollback = (opened h.committed h).withJournaling h.journalingEnabled := by
  unfold withJournaling
  cases hjournaling : h.journalingEnabled <;>
    simp [rollback, opened, startTransaction, enableJournaling, disableJournaling, hjournaling]

end DatabaseHandler

/-- A handler with what has been sent. -/
structure HandlerSession where
  handler : DatabaseHandler
  sent : List Notification

/-- One action of a handler, with what it sends. -/
def HandlerSession.step (s : Settings) (p : HandlerSession) (a : HandlerAction) :
    Option HandlerSession :=
  (p.handler.step s a).map (fun h ↦ ⟨h, p.sent ++ p.handler.sent s a⟩)

/-- Operations within a transaction. One that raises an exception may leave anything behind in the
handler and in its transaction, but has not committed anything. -/
inductive TransactionRun (s : Settings) (p : HandlerSession) :
    List HandlerAction → HandlerSession → Prop
  | start : TransactionRun s p [] p
  | performed {actions : List HandlerAction} {p₁ p₂ : HandlerSession} {a : HandlerAction} :
    TransactionRun s p actions p₁ → a.operation ≠ .commit → p₁.step s a = some p₂ →
      TransactionRun s p (actions ++ [a]) p₂
  | raised {actions : List HandlerAction} {p₁ : HandlerSession} {a : HandlerAction}
      {h : DatabaseHandler} :
    TransactionRun s p actions p₁ → a.operation ≠ .commit → p₁.step s a = none →
      h.committed = p₁.handler.committed →
      h.journalingEnabled = p₁.handler.journalingEnabled →
        TransactionRun s p (actions ++ [a]) ⟨h, p₁.sent⟩

/-- Whether journaling is enabled after some actions. -/
def journalingAfter (enabled : Bool) (actions : List HandlerAction) : Bool :=
  actions.foldl (fun enabled a ↦ a.operation.journalingAfter enabled) enabled

section Runs

variable {s : Settings} {p p' : HandlerSession} {actions : List HandlerAction}

/-- Within a transaction nothing is committed or sent. -/
theorem TransactionRun.frame (hrun : TransactionRun s p actions p') :
    p'.handler.committed = p.handler.committed ∧ p'.sent = p.sent ∧
      p'.handler.journalingEnabled = journalingAfter p.handler.journalingEnabled actions := by
  induction hrun with
  | start => exact ⟨rfl, rfl, rfl⟩
  | @performed actions p₁ p₂ a _ hop hstep ih =>
    obtain ⟨hcommitted, hsent, hjournaling⟩ := ih
    obtain ⟨h, hperform, rfl⟩ := Option.map_eq_some_iff.mp hstep
    have hnone : p₁.handler.sent s a = [] := by
      unfold DatabaseHandler.sent
      split
      · next hcommit => exact absurd hcommit hop
      · rfl
    obtain ⟨hsame, hmode⟩ := frame_perform hop hperform
    refine ⟨hsame.trans hcommitted, ?_, ?_⟩
    · rw [hnone, List.append_nil, hsent]
    · rw [journalingAfter, List.foldl_concat, ← journalingAfter, ← hjournaling]
      exact hmode
  | @raised actions p₁ a h _ hop hraised hsame hmode ih =>
    obtain ⟨hcommitted, hsent, hjournaling⟩ := ih
    refine ⟨hsame.trans hcommitted, hsent, ?_⟩
    rw [journalingAfter, List.foldl_concat, ← journalingAfter, ← hjournaling, hmode]
    -- Switching journaling on or off raises nothing.
    unfold HandlerSession.step DatabaseHandler.step at hraised
    cases hoperation : a.operation with
    | enableJournaling =>
      rw [hoperation] at hraised
      cases hraised
    | disableJournaling =>
      rw [hoperation] at hraised
      cases hraised
    | _ => rfl

/-- After a rollback the tables are as last committed, and whatever is done next has the results
that it has with a new handler on the committed database. -/
theorem rollback_transactionRun (hrun : TransactionRun s p actions p') :
    p'.handler.rollback.committed = p.handler.committed ∧
      p'.handler.rollback.working = p.handler.committed ∧
      ∀ later : List HandlerAction,
        later.foldlM (HandlerSession.step s) ⟨p'.handler.rollback, p'.sent⟩ =
          later.foldlM (HandlerSession.step s)
            ⟨(DatabaseHandler.opened p.handler.committed p'.handler).withJournaling
              (journalingAfter p.handler.journalingEnabled actions), p.sent⟩ := by
  obtain ⟨hcommitted, hsent, hjournaling⟩ := hrun.frame
  refine ⟨hcommitted, hcommitted, fun later ↦ ?_⟩
  rw [DatabaseHandler.rollback_eq_opened, hcommitted, hsent, hjournaling]

end Runs

section Examples

/-- A buffered upsert and the error of a mirror. -/
def abortedActions : List HandlerAction :=
  [upsertAction 0 (personObject "A"), ⟨1, .recordMirrorError "TEST" "unreachable"⟩]

/-- The session before it is rolled back. -/
def abortedSession : HandlerSession :=
  (abortedActions.foldlM (HandlerSession.step localSettings) ⟨newHandler, []⟩).get rfl

theorem rollback_transactionRun_aborted :
    abortedSession.handler.rpslUpsertBuffer.length = 1 ∧
      abortedSession.handler.rollback.working = emptyDatabase ∧
      [HandlerAction.mk 2 .commit].foldlM (HandlerSession.step localSettings)
          ⟨abortedSession.handler.rollback, abortedSession.sent⟩ =
        [HandlerAction.mk 2 .commit].foldlM (HandlerSession.step localSettings)
          ⟨(DatabaseHandler.opened emptyDatabase abortedSession.handler).withJournaling true, []⟩ :=
  have hrun : TransactionRun localSettings ⟨newHandler, []⟩ abortedActions abortedSession :=
    .performed (.performed .start HandlerOperation.noConfusion rfl) HandlerOperation.noConfusion rfl
  ⟨rfl, (rollback_transactionRun hrun).2.1, (rollback_transactionRun hrun).2.2 _⟩

end Examples

end Irrd.Storage
