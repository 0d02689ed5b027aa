import Mathlib.Data.List.Basic
import Mathlib.Data.List.Nodup

/-!
# Tables with a unique key

A table is a list of rows in which no two rows have the same key. The uniqueness proof
is carried by the table, so every operation that builds a table preserves it. Lookups by
key are characterised for each operation.
-/

namespace Irrd.Base

universe u v

/-- A list of rows with pairwise distinct keys. -/
structure KeyedTable {A : Type u} {K : Type v} (key : A → K) where
  rows : List A
  nodup : (rows.map key).Nodup

namespace KeyedTable

variable {A : Type u} {K : Type v} {key : A → K}

theorem ext {t u : KeyedTable key} (h : t.rows = u.rows) : t = u := by
  cases t
  cases u
  cases h
  rfl

/-- The table without rows. -/
def empty : KeyedTable key := ⟨[], List.nodup_nil⟩

/-- Keep the rows that satisfy a predicate. -/
def filter (t : KeyedTable key) (p : A → Bool) : KeyedTable key :=
  ⟨t.rows.filter p, (List.filter_sublist.map key).nodup t.nodup⟩

/-- Change rows without changing their keys. -/
def map (t : KeyedTable key) (f : A → A) (hf : ∀ a, key (f a) = key a) : KeyedTable key :=
  ⟨t.rows.map f, by
    have h : (t.rows.map f).map key = t.rows.map key := by simp [hf]
    rw [h]
    exact t.nodup⟩

variable [DecidableEq K]

/-- The row with a given key, if there is one. -/
def find (t : KeyedTable key) (k : K) : Option A := t.rows.find? (fun a ↦ key a = k)

/-- Add a row at the end, unless its key is taken: a violated unique constraint. -/
def append (t : KeyedTable key) (a : A) : Option (KeyedTable key) :=
  if h : key a ∈ t.rows.map key then none
  else some ⟨t.rows ++ [a], by
    rw [List.map_append, List.nodup_append]
    refine ⟨t.nodup, List.nodup_singleton _, ?_⟩
    intro k hk k' hk'
    rw [List.mem_singleton.mp hk']
    exact fun he ↦ h (he ▸ hk)⟩

/-- Change the row that has the key of a new row, or add the new row. -/
def upsert (t : KeyedTable key) (a : A) (f : A → A)
    (hf : ∀ b, key b = key a → key (f b) = key b) : KeyedTable key :=
  match t.append a with
  | some u => u
  | none => t.map (fun b ↦ if key b = key a then f b else b) (by
      intro b
      split
      · next h => exact hf b h
      · rfl)

theorem find_eq_some_iff (t : KeyedTable key) (k : K) (a : A) :
    t.find k = some a ↔ a ∈ t.rows ∧ key a = k := by
  constructor
  · intro h
    exact ⟨List.mem_of_find?_eq_some h, by simpa using List.find?_some h⟩
  · rintro ⟨hm, rfl⟩
    cases hf : t.find (key a) with
    | none =>
      have h := List.find?_eq_none.mp hf a hm
      simp at h
    | some b =>
      have hb : key b = key a := by simpa using List.find?_some hf
      have he := List.inj_on_of_nodup_map t.nodup (List.mem_of_find?_eq_some hf) hm hb
      rw [he]

theorem find_eq_none_iff (t : KeyedTable key) (k : K) :
    t.find k = none ↔ ∀ a ∈ t.rows, key a ≠ k := by
  simp [find]

theorem find_mem {t : KeyedTable key} {k : K} {a : A} (h : t.find k = some a) :
    a ∈ t.rows := ((t.find_eq_some_iff k a).mp h).1

theorem find_key {t : KeyedTable key} {k : K} {a : A} (h : t.find k = some a) :
    key a = k := ((t.find_eq_some_iff k a).mp h).2

@[simp] theorem find_empty (k : K) : (empty : KeyedTable key).find k = none := rfl

/-- Two tables with the same row under every key have the same rows. -/
theorem mem_rows_iff (t : KeyedTable key) (a : A) : a ∈ t.rows ↔ t.find (key a) = some a := by
  simp [find_eq_some_iff]

/-- Filtering keeps a found row exactly if it satisfies the predicate. -/
theorem find_filter (t : KeyedTable key) (p : A → Bool) (k : K) :
    (t.filter p).find k = (t.find k).filter p := by
  apply Option.ext
  intro a
  simp only [find_eq_some_iff, filter, List.mem_filter, Option.filter_eq_some_iff]
  tauto

/-- Without the row of one key. -/
theorem find_filter_ne_key (t : KeyedTable key) (k l : K) :
    (t.filter (fun a ↦ !(key a = l))).find k = if k = l then none else t.find k := by
  rw [find_filter]
  cases hfind : t.find k with
  | none => simp
  | some a => by_cases hkey : k = l <;> simp [Option.filter, find_key hfind, hkey]

/-- A key-preserving change of rows changes what is found. -/
theorem find_map (t : KeyedTable key) (f : A → A) (hf : ∀ a, key (f a) = key a) (k : K) :
    (t.map f hf).find k = (t.find k).map f := by
  simp only [find, map, List.find?_map]
  congr 2
  funext a
  simp [hf]

theorem append_eq_some {t u : KeyedTable key} {a : A} (h : t.append a = some u) :
    t.find (key a) = none ∧ u.rows = t.rows ++ [a] := by
  unfold append at h
  split at h
  · cases h
  · next hn =>
    cases h
    refine ⟨?_, rfl⟩
    rw [find_eq_none_iff]
    exact fun b hb he ↦ hn (List.mem_map.mpr ⟨b, hb, he⟩)

theorem append_eq_none_iff (t : KeyedTable key) (a : A) :
    t.append a = none ↔ ∃ b, t.find (key a) = some b := by
  unfold append
  split
  · next h =>
    obtain ⟨b, hb, hk⟩ := List.mem_map.mp h
    simp only [true_iff]
    exact ⟨b, (t.find_eq_some_iff _ _).mpr ⟨hb, hk⟩⟩
  · next h =>
    simp only [reduceCtorEq, false_iff]
    rintro ⟨b, hb⟩
    exact h (List.mem_map.mpr ⟨b, find_mem hb, find_key hb⟩)

/-- An added row is found under its own key, and every other lookup is unchanged. -/
theorem find_append {t u : KeyedTable key} {a : A} (h : t.append a = some u) (k : K) :
    u.find k = if key a = k then some a else t.find k := by
  obtain ⟨hn, hu⟩ := append_eq_some h
  by_cases hk : key a = k
  · subst hk
    rw [if_pos rfl, find_eq_some_iff, hu]
    simp
  · rw [if_neg hk]
    simp only [find, hu, List.find?_append]
    simp [hk]

/-- Added rows come after the others. -/
theorem foldlM_append_rows {t u : KeyedTable key} {rows : List A}
    (h : rows.foldlM append t = some u) : u.rows = t.rows ++ rows := by
  induction rows generalizing t with
  | nil =>
    cases h
    exact (List.append_nil _).symm
  | cons a rows ih =>
    rw [List.foldlM_cons] at h
    obtain ⟨v, hv, hrest⟩ := Option.bind_eq_some_iff.mp h
    rw [ih hrest, (append_eq_some hv).2, List.append_assoc]
    rfl

/-- Rows can be added where all keys are new and different. -/
theorem foldlM_append_iff (rows : List A) (t : KeyedTable key) :
    (∃ u, rows.foldlM append t = some u) ↔ ((t.rows ++ rows).map key).Nodup := by
  constructor
  · rintro ⟨u, hu⟩
    exact foldlM_append_rows hu ▸ u.nodup
  · intro hnodup
    induction rows generalizing t with
    | nil => exact ⟨t, rfl⟩
    | cons a rows ih =>
      have hnew : t.append a ≠ none := by
        intro hnone
        obtain ⟨b, hb⟩ := (t.append_eq_none_iff a).mp hnone
        rw [List.map_append, List.nodup_append] at hnodup
        exact hnodup.2.2 (key b) (List.mem_map_of_mem (find_mem hb)) (key a) List.mem_cons_self
          (find_key hb)
      obtain ⟨u, hu⟩ := Option.ne_none_iff_exists'.mp hnew
      obtain ⟨v, hrest⟩ := ih u (by rwa [(append_eq_some hu).2, List.append_assoc])
      refine ⟨v, ?_⟩
      rw [List.foldlM_cons, hu]
      exact hrest

/-- After an upsert the key has the changed old row or the new row. -/
theorem find_upsert (t : KeyedTable key) (a : A) (f : A → A)
    (hf : ∀ b, key b = key a → key (f b) = key b) (k : K) :
    (t.upsert a f hf).find k =
      if key a = k then some ((t.find k).elim a f) else t.find k := by
  unfold upsert
  split
  · next u hu =>
    obtain ⟨hn, -⟩ := append_eq_some hu
    rw [find_append hu]
    by_cases hk : key a = k
    · subst hk
      simp [hn]
    · simp [hk]
  · next hn =>
    obtain ⟨b, hb⟩ := (append_eq_none_iff t a).mp hn
    rw [find_map]
    by_cases hk : key a = k
    · subst hk
      simp [hb, find_key hb]
    · rw [if_neg hk]
      cases hc : t.find k with
      | none => rfl
      | some c =>
        have hck : key c ≠ key a := fun h ↦ hk (h.symm.trans (find_key hc))
        simp [hck]

end KeyedTable

end Irrd.Base
