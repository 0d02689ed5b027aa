import Mathlib.Data.List.Perm.Basic
import Mathlib.Order.MinMax

/-!
# Going on from the last item received

A log is read in batches, each with all items after a position, in any order. A reader that stops
inside a batch goes on from a single item. Nothing is lost or repeated exactly where that item
separates what was received from what was not.
-/

namespace Irrd.Base

universe u

variable {α : Type u} [LinearOrder α] {start position bound x : α} {batch log more : List α}
  {received pending : List α}

/-- The items of a log after a position. -/
def itemsAfter (position : α) (log : List α) : List α := log.filter (fun x ↦ position < x)

@[simp] theorem mem_itemsAfter : x ∈ itemsAfter position log ↔ x ∈ log ∧ position < x := by
  simp [itemsAfter]

@[simp] theorem itemsAfter_append :
    itemsAfter position (log ++ more) = itemsAfter position log ++ itemsAfter position more :=
  List.filter_append log more

theorem itemsAfter_eq_nil (h : ∀ x ∈ log, x ≤ position) : itemsAfter position log = [] :=
  List.filter_eq_nil_iff.mpr (fun x hx ↦ by simpa using h x hx)

theorem itemsAfter_eq_self (h : ∀ x ∈ log, position < x) : itemsAfter position log = log :=
  List.filter_eq_self.mpr (fun x hx ↦ by simpa using h x hx)

theorem itemsAfter_itemsAfter (h : start ≤ position) :
    itemsAfter position (itemsAfter start log) = itemsAfter position log := by
  unfold itemsAfter
  rw [List.filter_filter]
  refine List.filter_congr (fun x _ ↦ ?_)
  by_cases hx : position < x
  · simp [hx, h.trans_lt hx]
  · simp [hx]

/-- Where a reader stands that has read a whole batch. -/
def endPosition (position : α) (batch : List α) : α := batch.foldl max position

@[simp] theorem endPosition_nil : endPosition position [] = position := rfl

@[simp] theorem endPosition_cons :
    endPosition position (x :: batch) = endPosition (max position x) batch := rfl

theorem endPosition_le_iff :
    endPosition position batch ≤ bound ↔ position ≤ bound ∧ ∀ x ∈ batch, x ≤ bound := by
  induction batch generalizing position with
  | nil => simp
  | cons y batch ih =>
    rw [endPosition_cons, ih, max_le_iff, List.forall_mem_cons, and_assoc]

theorem le_endPosition : position ≤ endPosition position batch :=
  (endPosition_le_iff.mp le_rfl).1

theorem le_endPosition_of_mem (h : x ∈ batch) : x ≤ endPosition position batch :=
  (endPosition_le_iff.mp le_rfl).2 x h

/-- After a batch of all items after a position, no item is left. -/
theorem itemsAfter_endPosition (hbatch : batch.Perm (itemsAfter position log)) :
    itemsAfter (endPosition position batch) log = [] := by
  refine itemsAfter_eq_nil (fun x hx ↦ ?_)
  by_cases hposition : position < x
  · exact le_endPosition_of_mem (hbatch.mem_iff.mpr (mem_itemsAfter.mpr ⟨hx, hposition⟩))
  · exact (not_lt.mp hposition).trans le_endPosition

/-- A position separates the items received from those that are not. -/
structure Separates (position : α) (received pending : List α) : Prop where
  received_le : ∀ x ∈ received, x ≤ position
  lt_pending : ∀ x ∈ pending, position < x

instance : Decidable (Separates position received pending) :=
  decidable_of_iff ((∀ x ∈ received, x ≤ position) ∧ ∀ x ∈ pending, position < x)
    ⟨fun h ↦ ⟨h.1, h.2⟩, fun h ↦ ⟨h.received_le, h.lt_pending⟩⟩

/-- Going on from a position gives every item once just if the position separates. -/
theorem perm_itemsAfter_iff (hlog : log.Nodup) (hstart : start ≤ position)
    (hperm : (received ++ pending).Perm (itemsAfter start log)) :
    (received ++ itemsAfter position log).Perm (itemsAfter start log) ↔
      Separates position received pending := by
  constructor
  · intro h
    have hpending : pending.Perm (itemsAfter position log) :=
      (List.perm_append_left_iff received).mp (hperm.trans h.symm)
    have hnodup : (received ++ itemsAfter position log).Nodup :=
      h.nodup_iff.mpr (hlog.filter _)
    refine ⟨fun x hx ↦ ?_, fun x hx ↦ (mem_itemsAfter.mp (hpending.mem_iff.mp hx)).2⟩
    by_contra hlt
    have hmem := mem_itemsAfter.mp (hperm.mem_iff.mp (List.mem_append_left pending hx))
    exact (List.nodup_append.mp hnodup).2.2 x hx x
      (mem_itemsAfter.mpr ⟨hmem.1, not_le.mp hlt⟩) rfl
  · intro h
    have hfiltered : (itemsAfter position (received ++ pending)).Perm
        (itemsAfter position (itemsAfter start log)) := hperm.filter _
    rw [itemsAfter_append, itemsAfter_eq_nil h.received_le, itemsAfter_eq_self h.lt_pending,
      List.nil_append, itemsAfter_itemsAfter hstart] at hfiltered
    exact (hfiltered.symm.append_left received).trans hperm

end Irrd.Base
