import Irrd.Base.KeyedLog

/-!
# Overlapping batches of a log

A log that only grows is delivered in batches. Each batch holds the entries from some point
up to the end of the log when it was taken, and starts no later than the previous batch
ended. Such batches lose nothing, and replaying them in order is replaying the log.
-/

namespace Irrd.Base

universe u v w

variable {A : Type u}

/-- Entries of a log, with the length of the log when they were taken. -/
structure Batch (A : Type u) where
  items : List A
  taken : Nat

/-- How far batches reach that start from position `n`. -/
def frontier (n : Nat) (batches : List (Batch A)) : Nat :=
  (batches.getLast?.map Batch.taken).getD n

/-- Each batch holds the log from a point that earlier batches reach, up to where it was
taken; the first one starts from position `n` or before. -/
def Chained (log : List A) : Nat → List (Batch A) → Prop
  | _, [] => True
  | n, b :: bs => (∃ a ≤ n, b.items = (log.take b.taken).drop a) ∧ n ≤ b.taken ∧
      b.taken ≤ log.length ∧ Chained log b.taken bs

@[simp] theorem frontier_nil (n : Nat) : frontier n ([] : List (Batch A)) = n := rfl

@[simp] theorem frontier_concat (n : Nat) (bs : List (Batch A)) (b : Batch A) :
    frontier n (bs ++ [b]) = b.taken := by
  simp [frontier]

theorem frontier_cons (n : Nat) (b : Batch A) (bs : List (Batch A)) :
    frontier n (b :: bs) = frontier b.taken bs := by
  cases bs with
  | nil => rfl
  | cons c cs => simp [frontier, List.getLast?_cons]

/-- A batch may be added that starts within reach and was taken later. -/
theorem chained_concat {log : List A} {n : Nat} {bs : List (Batch A)} {b : Batch A} :
    Chained log n (bs ++ [b]) ↔
      Chained log n bs ∧ (∃ a ≤ frontier n bs, b.items = (log.take b.taken).drop a) ∧
        frontier n bs ≤ b.taken ∧ b.taken ≤ log.length := by
  induction bs generalizing n with
  | nil => simp [Chained]
  | cons c cs ih =>
    rw [List.cons_append, Chained, Chained, ih, frontier_cons]
    tauto

namespace Chained

variable {log : List A} {n : Nat} {bs : List (Batch A)}

theorem le_frontier (h : Chained log n bs) : n ≤ frontier n bs := by
  induction bs generalizing n with
  | nil => exact Nat.le_refl n
  | cons b bs ih =>
    obtain ⟨-, hle, -, h⟩ := h
    rw [frontier_cons]
    exact Nat.le_trans hle (ih h)

theorem frontier_le (h : Chained log n bs) (hn : n ≤ log.length) :
    frontier n bs ≤ log.length := by
  induction bs generalizing n with
  | nil => exact hn
  | cons b bs ih =>
    obtain ⟨-, -, hlen, h⟩ := h
    rw [frontier_cons]
    exact ih h hlen

/-- The log may grow. -/
theorem append (h : Chained log n bs) (more : List A) : Chained (log ++ more) n bs := by
  induction bs generalizing n with
  | nil => trivial
  | cons b bs ih =>
    obtain ⟨⟨a, ha, hitems⟩, hle, hlen, h⟩ := h
    refine ⟨⟨a, ha, ?_⟩, hle, ?_, ih h⟩
    · rw [hitems, List.take_append_of_le_length hlen]
    · rw [List.length_append]
      omega

theorem of_append {cs : List (Batch A)} (h : Chained log n (bs ++ cs)) : Chained log n bs := by
  induction bs generalizing n with
  | nil => trivial
  | cons b bs ih => exact ⟨h.1, h.2.1, h.2.2.1, ih h.2.2.2⟩

/-- Later batches start from where the earlier ones reach. -/
theorem drop (h : Chained log n bs) (k : Nat) :
    Chained log (frontier n (bs.take k)) (bs.drop k) := by
  induction bs generalizing n k with
  | nil => simp [Chained]
  | cons b bs ih =>
    cases k with
    | zero => exact h
    | succ k =>
      rw [List.take_succ_cons, List.drop_succ_cons, frontier_cons]
      exact ih h.2.2.2 k

/-- Every entry between the start and the reach of the batches is in one of them. -/
theorem covers (h : Chained log n bs) {x : A}
    (hx : x ∈ (log.take (frontier n bs)).drop n) : ∃ b ∈ bs, x ∈ b.items := by
  induction bs generalizing n with
  | nil =>
    have hnil : (log.take n).drop n = [] :=
      List.drop_of_length_le (by rw [List.length_take]; omega)
    rw [frontier_nil, hnil] at hx
    cases hx
  | cons b bs ih =>
    obtain ⟨⟨a, ha, hitems⟩, hle, -, h⟩ := h
    rw [frontier_cons] at hx
    have hreach := h.le_frontier
    -- The entry is before or after the point where the first batch was taken.
    have hsplit := drop_take_eq_append log hle hreach
    rw [hsplit] at hx
    rcases List.mem_append.mp hx with hx | hx
    · refine ⟨b, List.mem_cons_self, ?_⟩
      rw [hitems]
      have hmore : (log.take b.taken).drop n = ((log.take b.taken).drop a).drop (n - a) := by
        rw [List.drop_drop]
        congr 1
        omega
      rw [hmore] at hx
      exact List.mem_of_mem_drop hx
    · obtain ⟨c, hc, hmem⟩ := ih h hx
      exact ⟨c, List.mem_cons_of_mem _ hc, hmem⟩

section Replay

variable {K : Type v} {V : Type w} [DecidableEq K] (change : A → Change K V)

/-- Replaying the batches in order is replaying the log, from some point the batches may start
at, up to where they reach. -/
theorem replay_eq (h : Chained log n bs) :
    ∃ a ≤ n, ∀ contents : Contents K V,
      replay contents ((bs.flatMap Batch.items).map change) =
        replay contents (((log.take (frontier n bs)).drop a).map change) := by
  induction bs using List.reverseRecOn with
  | nil =>
    refine ⟨n, Nat.le_refl n, fun contents ↦ ?_⟩
    have hnil : (log.take n).drop n = [] :=
      List.drop_of_length_le (by rw [List.length_take]; omega)
    simp [hnil]
  | append_singleton bs b ih =>
    obtain ⟨h, ⟨a', ha', hitems⟩, hle, -⟩ := chained_concat.mp h
    obtain ⟨a, ha, heq⟩ := ih h
    refine ⟨min a a', by omega, fun contents ↦ ?_⟩
    have hwindow := replay_windows contents (log.map change) (a := a) ha' hle
    simp only [← List.map_take, ← List.map_drop, ← List.map_append] at hwindow
    rw [frontier_concat, ← hwindow, List.map_append, replay_append, ← heq, ← replay_append,
      ← List.map_append, List.flatMap_append, List.flatMap_singleton, hitems]

/-- Over the contents at a point that the batches may start at and have passed, replaying
the batches gives the contents where they reach. -/
theorem replay_current (h : Chained log n bs) (contents : Contents K V) {p : Nat} (hn : n ≤ p)
    (hp : p ≤ frontier n bs) :
    replay (replay contents ((log.take p).map change)) ((bs.flatMap Batch.items).map change) =
      replay contents ((log.take (frontier n bs)).map change) := by
  obtain ⟨a, ha, heq⟩ := h.replay_eq change
  have hwindow := replay_windows contents (log.map change) (a := 0) (Nat.le_trans ha hn) hp
  simp only [← List.map_take, ← List.map_drop, ← List.map_append, List.drop_zero,
    Nat.zero_min] at hwindow
  rw [heq, ← replay_append, ← List.map_append, hwindow]

end Replay

end Chained

/-- In a list that increases in `f`, the entries from a value on are a suffix. -/
theorem filter_le_eq_drop (f : A → Nat) (x : Nat) {xs : List A}
    (h : xs.Pairwise (fun a b ↦ f a < f b)) :
    xs.filter (fun a ↦ x ≤ f a) = xs.drop (xs.filter (fun a ↦ f a < x)).length := by
  induction xs with
  | nil => rfl
  | cons a xs ih =>
    obtain ⟨ha, h⟩ := List.pairwise_cons.mp h
    by_cases hx : x ≤ f a
    · have hnone : xs.filter (fun a ↦ f a < x) = [] := by
        rw [List.filter_eq_nil_iff]
        intro b hb
        have hlt : f a < f b := ha b hb
        simp only [decide_eq_true_eq, Nat.not_lt]
        omega
      have hall : xs.filter (fun a ↦ x ≤ f a) = xs := by
        rw [List.filter_eq_self]
        intro b hb
        have hlt : f a < f b := ha b hb
        simp only [decide_eq_true_eq]
        omega
      have hnlt : ¬ f a < x := Nat.not_lt.mpr hx
      simp [hx, hall, hnlt, hnone]
    · have hlt : f a < x := Nat.not_le.mp hx
      simp [hx, hlt, ih h]

end Irrd.Base
