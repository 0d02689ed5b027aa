import Mathlib.Data.List.Nodup

/-!
# Bulk refreshes of a status

Every row of a table has a status and a target for it. A bulk refresh collects the rows whose
status is not their target, by target, and writes each of these statuses to all rows that share
a key with one collected for it, one status after the other.
-/

namespace Irrd.Base

universe u v w

variable {R : Type u} {K : Type v} {S : Type w}

/-- The status that is left by writes of statuses in order, where each write hits or not. -/
def lastHit (hit : S → Bool) (order : List S) (start : S) : S :=
  order.foldl (fun current s ↦ if hit s then s else current) start

/-- Where a write hits, what was there before does not matter. -/
theorem lastHit_eq_of_hit {hit : S → Bool} {order : List S} (hhit : ∃ s ∈ order, hit s = true)
    (start start' : S) : lastHit hit order start = lastHit hit order start' := by
  induction order generalizing start start' with
  | nil => simp at hhit
  | cons s order ih =>
    unfold lastHit at ih ⊢
    rw [List.foldl_cons, List.foldl_cons]
    by_cases hrest : ∃ s ∈ order, hit s = true
    · exact ih hrest _ _
    · have hs : hit s = true := by
        obtain ⟨s', hs', hhit⟩ := hhit
        rcases List.mem_cons.mp hs' with rfl | hs'
        · exact hhit
        · exact absurd ⟨s', hs', hhit⟩ hrest
      rw [if_pos hs, if_pos hs]

/-- Where only writes of one status hit, the status is left. -/
theorem lastHit_of_unique {hit : S → Bool} {order : List S} {t : S}
    (hunique : ∀ s ∈ order, hit s = true → s = t) : lastHit hit order t = t := by
  induction order with
  | nil => rfl
  | cons s order ih =>
    have hfirst : (if hit s then s else t) = t := by
      split
      · exact hunique s List.mem_cons_self ‹_›
      · rfl
    unfold lastHit at ih ⊢
    rw [List.foldl_cons, hfirst]
    exact ih (fun s' hs' ↦ hunique s' (List.mem_cons_of_mem s hs'))

variable [DecidableEq K] [DecidableEq S] (key : R → K) (status target : R → S)

/-- The rows collected for a status. -/
def collectedFor (rows : List R) (s : S) : List R :=
  rows.filter (fun r ↦ target r ≠ status r ∧ target r = s)

theorem mem_collectedFor {rows : List R} {s : S} {r : R} :
    r ∈ collectedFor status target rows s ↔ r ∈ rows ∧ target r ≠ status r ∧ target r = s := by
  simp [collectedFor]

/-- The status of a row after the refresh. -/
def refreshedStatus (order : List S) (rows : List R) (r : R) : S :=
  lastHit (fun s ↦ decide (key r ∈ (collectedFor status target rows s).map key)) order (status r)

/-- A write of a status hits the rows that share a key with one collected for it. -/
theorem hit_iff (rows : List R) (r : R) (s : S) :
    decide (key r ∈ (collectedFor status target rows s).map key) = true ↔
      ∃ c ∈ rows, target c ≠ status c ∧ target c = s ∧ key r = key c := by
  simp only [decide_eq_true_eq, List.mem_map, mem_collectedFor]
  constructor
  · rintro ⟨c, ⟨hc, hne, htarget⟩, hkey⟩
    exact ⟨c, hc, hne, htarget, hkey.symm⟩
  · rintro ⟨c, hc, hne, htarget, hkey⟩
    exact ⟨c, ⟨hc, hne, htarget⟩, hkey.symm⟩

/-- A refresh gives all rows their targets exactly where the rows that share a key with a row to
change have the same target as it. -/
theorem refreshedStatus_eq_target_iff {order : List S} {rows : List R}
    (hcovers : ∀ r ∈ rows, target r ∈ order) :
    (∀ r ∈ rows, refreshedStatus key status target order rows r = target r) ↔
      ∀ c ∈ rows, target c ≠ status c → ∀ r ∈ rows, key r = key c → target r = target c := by
  constructor
  · intro hrefreshed c hc hne r hr hkey
    have hhit : ∃ s ∈ order,
        decide (key c ∈ (collectedFor status target rows s).map key) = true :=
      ⟨target c, hcovers c hc, (hit_iff key status target rows c _).mpr ⟨c, hc, hne, rfl, rfl⟩⟩
    rw [← hrefreshed r hr, ← hrefreshed c hc]
    unfold refreshedStatus
    rw [hkey]
    exact lastHit_eq_of_hit hhit _ _
  · intro hagree r hr
    -- Every write that hits the row is one of its target.
    have hunique : ∀ s ∈ order,
        decide (key r ∈ (collectedFor status target rows s).map key) = true → s = target r := by
      intro s _ hhit
      obtain ⟨c, hc, hne, rfl, hkey⟩ := (hit_iff key status target rows r s).mp hhit
      exact (hagree c hc hne r hr hkey).symm
    unfold refreshedStatus
    by_cases hchanged : target r = status r
    · rw [← hchanged]
      exact lastHit_of_unique hunique
    · have hhit : ∃ s ∈ order,
          decide (key r ∈ (collectedFor status target rows s).map key) = true :=
        ⟨target r, hcovers r hr,
          (hit_iff key status target rows r _).mpr ⟨r, hr, hchanged, rfl, rfl⟩⟩
      rw [lastHit_eq_of_hit hhit (status r) (target r)]
      exact lastHit_of_unique hunique

/-- Where no two rows share a key, a refresh gives all rows their targets. -/
theorem refreshedStatus_eq_target {order : List S} {rows : List R}
    (hcovers : ∀ r ∈ rows, target r ∈ order) (hunique : (rows.map key).Nodup) {r : R}
    (hr : r ∈ rows) : refreshedStatus key status target order rows r = target r := by
  refine (refreshedStatus_eq_target_iff key status target hcovers).mpr ?_ r hr
  intro c hc _ r hr hkey
  rw [List.inj_on_of_nodup_map hunique hr hc hkey]

/-- What two functions that never both apply collect, in one list after the other or row by row. -/
theorem filterMap_append_perm {A B : Type*} (rows : List A) (f g : A → Option B)
    (hdisjoint : ∀ a ∈ rows, f a = none ∨ g a = none) :
    (rows.filterMap f ++ rows.filterMap g).Perm (rows.filterMap (fun a ↦ (f a).or (g a))) := by
  induction rows with
  | nil => exact List.Perm.refl _
  | cons a rows ih =>
    have hrest := ih (fun b hb ↦ hdisjoint b (List.mem_cons_of_mem a hb))
    rcases hdisjoint a List.mem_cons_self with hf | hg
    · cases hg : g a with
      | none => simpa [hf, hg] using hrest
      | some b =>
        simp only [List.filterMap_cons, hf, hg, Option.none_or]
        exact List.perm_middle.trans (hrest.cons b)
    · cases hf : f a with
      | none => simpa [hf, hg] using hrest
      | some b =>
        simp only [List.filterMap_cons, hf, hg, Option.some_or, List.cons_append]
        exact hrest.cons b

/-- A list that is filtered, mapped, and filtered and mapped again, collected row by row. -/
theorem map_filter_map_filter {A B C : Type*} (rows : List A) (p : A → Bool) (g : A → B)
    (q : B → Bool) (o : B → C) :
    (((rows.filter p).map g).filter q).map o =
      rows.filterMap (fun a ↦ if p a && q (g a) then some (o (g a)) else none) := by
  induction rows with
  | nil => rfl
  | cons a rows ih =>
    cases hp : p a <;> cases hq : q (g a) <;> simp [hp, hq, ih]

end Irrd.Base
