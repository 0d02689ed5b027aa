import Irrd.Storage.BufferedWriting

/-!
# Journal entries of deletions

What deleting and suspending an object writes to the journal and leaves alone. Unlike other changes,
a deletion is recorded whether the row was visible or not. Source:
`irrd/storage/database_handler.py:563–694`.
-/

namespace Irrd.Storage

open Irrd.Base Irrd.Conf Irrd.Rpsl

/-- A call of `delete_rpsl_object` or `suspend_rpsl_object`. -/
inductive Removal
  | delete (origin : JournalEntryOrigin) (arguments : DatabaseHandler.DeleteArguments)
    (sourceSerial : Option Nat) (protectRpslName : Bool)
  | suspend (pk : Nat)

namespace Removal

/-- The call. -/
def perform (s : Settings) (h : DatabaseHandler) : Removal → Option DatabaseHandler
  | .delete origin arguments sourceSerial protectRpslName =>
    h.deleteRpslObject s origin arguments sourceSerial protectRpslName
  | .suspend pk => h.suspendRpslObject s pk

/-- The origin of the entries in the journal. -/
def origin : Removal → JournalEntryOrigin
  | .delete origin .. => origin
  | .suspend _ => .suspension

/-- The rows that match, once pending upserts are written: the one with the key that is named, or
with the row key. -/
def matched (flushed : DatabaseHandler) : Removal → List RPSLDatabaseObject
  | .delete _ arguments .. => (arguments.key.bind flushed.working.objects.find).toList
  | .suspend pk => flushed.working.objects.rows.filter (fun row ↦ row.pk = pk)

end Removal

section Flushing

variable {s : Settings} {h flushed : DatabaseHandler}

end Flushing

section Removals

variable {s : Settings} {h flushed h' : DatabaseHandler} {r : Removal}

/-- What a removal removes and records. -/
theorem Removal.rowsRemoved (hflush : h.flushRpslObjectWritingBuffer s = some flushed)
    (hperform : r.perform s h = some h') :
    ∃ sourceSerial, RowsRemoved s h flushed h' (r.matched flushed) r.origin sourceSerial := by
  cases r with
  | delete origin arguments sourceSerial protect =>
    obtain ⟨h₁, hremoved, -⟩ := rowsRemoved_delete hperform
    cases hremoved.flush.symm.trans hflush
    exact ⟨sourceSerial, hremoved⟩
  | suspend pk =>
    obtain ⟨h₁, hremoved, -⟩ := rowsRemoved_suspend hperform
    cases hremoved.flush.symm.trans hflush
    exact ⟨none, hremoved⟩

/-- The entries that a removal adds: one for each row that matches. -/
theorem Removal.entries (hflush : h.flushRpslObjectWritingBuffer s = some flushed)
    (hjournaling : h.journalingEnabled = true)
    (hkeep : ∀ row ∈ r.matched flushed, s.keepJournal row.source = true)
    (hperform : r.perform s h = some h') :
    ∃ entries, h'.working.journal.rows = flushed.working.journal.rows ++ entries ∧
      entries.map RPSLDatabaseJournal.toOperation =
        (r.matched flushed).map (fun row ↦ deleteOperation row r.origin none) := by
  obtain ⟨sourceSerial, hremoved⟩ := r.rowsRemoved hflush hperform
  obtain ⟨entries, hrows, hops⟩ := hremoved.recorded.journaled.journal
  refine ⟨entries, hrows, hops.trans ?_⟩
  have henabled : flushed.journalingEnabled = true :=
    (recordedOperations_flush hflush).journaled.journalingEnabled.trans hjournaling
  rw [journalOperations, List.filter_eq_self.mpr, List.map_map]
  · rfl
  · intro op hop
    obtain ⟨row, hrow, rfl⟩ := List.mem_map.mp hop
    simp [henabled, deleteOperation, hkeep row hrow]

end Removals

section Examples

end Examples

end Irrd.Storage
