import Mathlib.Data.List.Basic

/-!
# Bounded caches

A cache of the results of a query that forgets the least recently used. What has been asked may
have changed since: a fact holds of every result that comes from the cache if it holds of fresh
results and has been kept for those in the cache.
-/

namespace Irrd.Base

universe u v

/-- Arguments with their results, the most recently used first. -/
abbrev LruCache (K : Type u) (V : Type v) := List (K × V)

namespace LruCache

variable {K : Type u} {V : Type v} [DecidableEq K] (size : Nat) (query : K → V)

/-- The result for an argument, and the cache after it. -/
def fetch (cache : LruCache K V) (k : K) : V × LruCache K V :=
  match cache.lookup k with
  | some v => (v, (k, v) :: cache.filter (fun e ↦ e.1 ≠ k))
  | none => (query k, ((k, query k) :: cache).take size)

/-- The results for some arguments, one after the other. -/
def fetchAll (cache : LruCache K V) : List K → List (K × V) × LruCache K V
  | [] => ([], cache)
  | k :: ks =>
    let (v, cache) := fetch size query cache k
    let (results, cache) := fetchAll cache ks
    ((k, v) :: results, cache)

variable {query} {P : K → V → Prop} {cache : LruCache K V}

/-- A fact about cached and fresh results holds of what is fetched. -/
theorem fetch_holds {k : K} (hcache : ∀ e ∈ cache, P e.1 e.2) (hquery : P k (query k)) :
    P k (fetch size query cache k).1 ∧ ∀ e ∈ (fetch size query cache k).2, P e.1 e.2 := by
  unfold fetch
  cases hlookup : cache.lookup k with
  | some v =>
    have hmem : (k, v) ∈ cache := by
      obtain ⟨before, after, hsplit, -⟩ := List.lookup_eq_some_iff.mp hlookup
      simp [hsplit]
    refine ⟨hcache _ hmem, ?_⟩
    intro e he
    rcases List.mem_cons.mp he with rfl | he
    · exact hcache _ hmem
    · exact hcache e (List.mem_of_mem_filter he)
  | none =>
    refine ⟨hquery, ?_⟩
    intro e he
    rcases List.mem_cons.mp (List.mem_of_mem_take he) with rfl | he
    · exact hquery
    · exact hcache e he

/-- A fact about cached and fresh results holds of all that is fetched. -/
theorem fetchAll_holds (ks : List K) (hcache : ∀ e ∈ cache, P e.1 e.2)
    (hquery : ∀ k ∈ ks, P k (query k)) :
    (fetchAll size query cache ks).1.map Prod.fst = ks ∧
      (∀ e ∈ (fetchAll size query cache ks).1, P e.1 e.2) ∧
      ∀ e ∈ (fetchAll size query cache ks).2, P e.1 e.2 := by
  induction ks generalizing cache with
  | nil => exact ⟨rfl, by simp [fetchAll], hcache⟩
  | cons k ks ih =>
    obtain ⟨hfirst, hcache'⟩ := fetch_holds size hcache (hquery k List.mem_cons_self)
    obtain ⟨hkeys, hresults, hcache''⟩ := ih hcache'
      (fun k' hk' ↦ hquery k' (List.mem_cons_of_mem k hk'))
    refine ⟨congrArg (k :: ·) hkeys, ?_, hcache''⟩
    intro e he
    rcases List.mem_cons.mp he with rfl | he
    · exact hfirst
    · exact hresults e he

end LruCache

end Irrd.Base
