import Mathlib.Logic.Function.Basic
import Mathlib.Data.List.Basic
import Mathlib.Data.List.Induction
import Mathlib.Data.List.Nodup

/-!
# Replay of keyed change logs

A change sets or removes the value of one key. Replaying a log folds its changes
over some initial contents. The laws below are the ones a reader of such a log
relies on: the last change of a key decides, a batch of changes with distinct keys
acts pointwise, and delivering a part of a log again does no harm as long as what
follows is delivered again too.
-/

namespace Irrd.Base

universe u v w

/-- One change of a keyed store; `none` removes the key. -/
structure Change (K : Type u) (V : Type v) where
  key : K
  value : Option V
  deriving DecidableEq, Repr

/-- Contents of a keyed store, as a partial map. -/
abbrev Contents (K : Type u) (V : Type v) := K → Option V

variable {K : Type u} {V : Type v} [DecidableEq K]

/-- Apply one change; every other key is unchanged. -/
def Change.apply (contents : Contents K V) (c : Change K V) : Contents K V :=
  Function.update contents c.key c.value

/-- Apply a log from left to right. -/
def replay (contents : Contents K V) (log : List (Change K V)) : Contents K V :=
  log.foldl Change.apply contents

@[simp] theorem replay_nil (contents : Contents K V) : replay contents [] = contents := rfl

theorem replay_cons (contents : Contents K V) (c : Change K V) (log : List (Change K V)) :
    replay contents (c :: log) = replay (c.apply contents) log := rfl

/-- Replaying a concatenation replays the second log over the result of the first. -/
theorem replay_append (contents : Contents K V) (xs ys : List (Change K V)) :
    replay contents (xs ++ ys) = replay (replay contents xs) ys := by
  simp [replay, List.foldl_append]

theorem replay_concat (contents : Contents K V) (log : List (Change K V)) (c : Change K V) :
    replay contents (log ++ [c]) = c.apply (replay contents log) := by
  rw [replay_append]
  rfl

/-- The last change of a key decides its value; a key without changes keeps it. -/
theorem replay_apply (contents : Contents K V) (log : List (Change K V)) (k : K) :
    replay contents log k =
      ((log.filter (fun c ↦ c.key = k)).getLast?.map Change.value).getD (contents k) := by
  induction log using List.reverseRecOn with
  | nil => rfl
  | append_singleton log c ih =>
    rw [replay_concat, List.filter_append, Change.apply]
    by_cases hk : c.key = k
    · subst hk
      simp
    · have hne : k ≠ c.key := fun h ↦ hk h.symm
      simp [Function.update_of_ne hne, hk, ih]

/-- A log without changes of a key leaves the key alone. -/
theorem replay_of_forall_ne (contents : Contents K V) (log : List (Change K V)) (k : K)
    (h : ∀ c ∈ log, c.key ≠ k) : replay contents log k = contents k := by
  have hf : log.filter (fun c ↦ c.key = k) = [] := by
    simpa [List.filter_eq_nil_iff] using h
  rw [replay_apply, hf]
  rfl

/-- Replay at a key depends on the initial contents at that key only. -/
theorem replay_congr_at {a b : Contents K V} (log : List (Change K V)) (k : K)
    (h : a k = b k) : replay a log k = replay b log k := by
  rw [replay_apply, replay_apply, h]

/-- A key that a log changes ends with a value that does not depend on what it had before. -/
theorem replay_of_mem (a b : Contents K V) (log : List (Change K V)) (c : Change K V)
    (h : c ∈ log) : replay a log c.key = replay b log c.key := by
  have hm : c ∈ log.filter (fun x ↦ x.key = c.key) := List.mem_filter.mpr ⟨h, by simp⟩
  have hn : log.filter (fun x ↦ x.key = c.key) ≠ [] := List.ne_nil_of_mem hm
  rw [replay_apply, replay_apply, List.getLast?_eq_some_getLast hn]
  rfl

/-- Changes delivered early are absorbed when they are delivered again at the end. -/
theorem replay_absorb (contents : Contents K V) (xs ys : List (Change K V)) :
    replay contents (xs ++ (ys ++ xs)) = replay contents (ys ++ xs) := by
  funext k
  by_cases hk : ∃ c ∈ xs, c.key = k
  · obtain ⟨c, hc, rfl⟩ := hk
    rw [replay_append]
    exact replay_of_mem _ _ _ c (List.mem_append.mpr (Or.inr hc))
  · have hne : ∀ c ∈ xs, c.key ≠ k := fun c hc he ↦ hk ⟨c, hc, he⟩
    rw [replay_append]
    exact replay_congr_at _ k (replay_of_forall_ne contents xs k hne)

/-- A window splits at any point inside it. -/
theorem drop_take_eq_append {A : Type w} (xs : List A) {i n m : Nat} (hin : i ≤ n)
    (hnm : n ≤ m) : (xs.take m).drop i = (xs.take n).drop i ++ (xs.take m).drop n := by
  have htake : (xs.take m).take n = xs.take n := by rw [List.take_take, Nat.min_eq_left hnm]
  by_cases hl : n ≤ (xs.take m).length
  · have hi : i ≤ (xs.take n).length := by
      rw [List.length_take] at hl ⊢
      omega
    rw [← List.drop_append_of_le_length hi, ← htake, List.take_append_drop]
  · have hlen : (xs.take m).length ≤ n := by omega
    rw [List.drop_of_length_le hlen, List.append_nil, ← htake, List.take_of_length_le hlen]

/-- Two windows of one log, where the second starts no later than the first ends and
ends no earlier, act as the single window that spans both. -/
theorem replay_windows (contents : Contents K V) (log : List (Change K V))
    {a n b m : Nat} (hbn : b ≤ n) (hnm : n ≤ m) :
    replay contents ((log.take n).drop a ++ (log.take m).drop b) =
      replay contents ((log.take m).drop (min a b)) := by
  have hsplit (i j k : Nat) (hij : i ≤ j) (hjk : j ≤ k) :
      (log.take k).drop i = (log.take j).drop i ++ (log.take k).drop j :=
    drop_take_eq_append log hij hjk
  have hmid (i j : Nat) (hij : i ≤ j) :
      ∃ xs, (log.take n).drop i = xs ++ (log.take n).drop j := by
    refine ⟨((log.take n).drop i).take (j - i), ?_⟩
    have h := List.take_append_drop (j - i) ((log.take n).drop i)
    rw [List.drop_drop, Nat.add_sub_cancel' hij] at h
    exact h.symm
  rw [hsplit b n m hbn hnm]
  by_cases hab : a ≤ b
  · obtain ⟨xs, hxs⟩ := hmid a b hab
    rw [Nat.min_eq_left hab, hsplit a n m (Nat.le_trans hab hbn) hnm, hxs]
    simp only [List.append_assoc, replay_append]
    congr 1
    have h := replay_absorb (replay contents xs) ((log.take n).drop b) []
    simpa [replay_append] using h
  · have hba : b ≤ a := by omega
    obtain ⟨xs, hxs⟩ := hmid b a hba
    rw [Nat.min_eq_right hba, hsplit b n m hbn hnm]
    have h := replay_absorb contents ((log.take n).drop a) xs
    rw [← hxs] at h
    rw [← List.append_assoc, replay_append, h, ← replay_append]

section Batch

variable {A : Type w}

/-- A batch of at most one change for each item, with distinct keys, acts pointwise: a key
takes the change of its own item, and any other key is unchanged. -/
theorem replay_batch (contents : Contents K V) (items : List A) (key : A → K)
    (change : A → Option (Option V)) (hd : (items.map key).Nodup) (k : K) :
    replay contents (items.filterMap (fun a ↦ (change a).map (Change.mk (key a)))) k =
      ((items.find? (fun a ↦ key a = k)).bind change).getD (contents k) := by
  induction items generalizing contents with
  | nil => rfl
  | cons a items ih =>
    obtain ⟨hnot, hd⟩ := List.nodup_cons.mp hd
    by_cases hk : key a = k
    · subst hk
      have hrest : ∀ c ∈ items.filterMap (fun a ↦ (change a).map (Change.mk (key a))),
          c.key ≠ key a := by
        intro c hc he
        obtain ⟨b, hb, hbc⟩ := List.mem_filterMap.mp hc
        obtain ⟨v, -, rfl⟩ := Option.map_eq_some_iff.mp hbc
        exact hnot (List.mem_map.mpr ⟨b, hb, he⟩)
      cases hc : change a with
      | none => simp [hc, replay_of_forall_ne _ _ _ hrest]
      | some v => simp [hc, replay_cons, replay_of_forall_ne _ _ _ hrest, Change.apply]
    · have hne : k ≠ key a := fun h ↦ hk h.symm
      cases hc : change a with
      | none => simp [hc, hk, ih contents hd]
      | some v =>
        simp [hc, hk, replay_cons, ih _ hd, Change.apply, Function.update_of_ne hne]

end Batch

end Irrd.Base
