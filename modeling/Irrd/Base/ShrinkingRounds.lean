import Mathlib.Data.List.Sublists
import Irrd.Base.Fallible

/-!
# Rounds over a shrinking list

A loop repeats rounds until the items that are still valid are the same as in the round before. If
rounds only take items away, then there is at most one round more than there are items, and the
items that are left have all passed a round together.
-/

namespace Irrd.Base

universe u v w

variable {S : Type u} {I : Type v} {E : Type w} [DecidableEq I]

/-- Repeat rounds until the valid items are those of the round before, up to a limit on the number
of rounds: the state at the end, and the number of rounds. -/
def rounds (valid : S → List I) (round : S → Except E S) (excessive : E) :
    Nat → List I → S → Except E (S × Nat)
  | 0, previous, s =>
    if valid s = previous then .ok (s, 0)
    else do
      let _ ← round s
      .error excessive
  | limit + 1, previous, s =>
    if valid s = previous then .ok (s, 0)
    else do
      let s' ← round s
      let (final, n) ← rounds valid round excessive limit (valid s) s'
      return (final, n + 1)

section Rounds

variable {valid : S → List I} {round : S → Except E S} {excessive : E} {limit n : Nat}
  {previous : List I} {s final : S}

theorem rounds_of_eq (hsame : valid s = previous) :
    rounds valid round excessive limit previous s = .ok (s, 0) := by
  cases limit <;> simp [rounds, hsame]

theorem rounds_succ_of_ne (hdiffers : valid s ≠ previous) :
    rounds valid round excessive (limit + 1) previous s = (do
      let s' ← round s
      let (final, n) ← rounds valid round excessive limit (valid s) s'
      return (final, n + 1)) := by
  rw [rounds, if_neg hdiffers]

/-- A loop that ends has no round left to do, or did one and the rest. -/
theorem rounds_eq_ok_cases
    (h : rounds valid round excessive limit previous s = .ok (final, n)) :
    (valid s = previous ∧ s = final ∧ n = 0) ∨
      ∃ s' m rest, limit = rest + 1 ∧ n = m + 1 ∧ round s = .ok s' ∧
        rounds valid round excessive rest (valid s) s' = .ok (final, m) := by
  by_cases hsame : valid s = previous
  · rw [rounds_of_eq hsame] at h
    cases h
    exact .inl ⟨hsame, rfl, rfl⟩
  · cases limit with
    | zero =>
      rw [rounds, if_neg hsame] at h
      obtain ⟨s', -, hexcessive⟩ := bind_eq_ok_iff.mp h
      cases hexcessive
    | succ rest =>
      rw [rounds_succ_of_ne hsame] at h
      obtain ⟨s', hround, h⟩ := bind_eq_ok_iff.mp h
      obtain ⟨⟨final', m⟩, hrest, hresult⟩ := bind_eq_ok_iff.mp h
      cases hresult
      exact .inr ⟨s', m, rest, rfl, rfl, hround, hrest⟩

/-- Let rounds preserve an invariant and only take items away. Then there is at most one round more
than there are items, and the invariant holds at the end. There was no round at all, or the last one
started with the invariant and left the items as they were. -/
theorem rounds_spec {P : S → Prop} (hround : ∀ s s', P s → round s = .ok s' → P s')
    (hshrinks : ∀ s s', P s → round s = .ok s' → (valid s').Sublist (valid s)) (hstart : P s)
    (h : rounds valid round excessive limit previous s = .ok (final, n)) :
    n ≤ (valid s).length + 1 ∧ (valid final).Sublist (valid s) ∧ P final ∧
      ((n = 0 ∧ s = final ∧ valid s = previous) ∨
        ∃ last, P last ∧ round last = .ok final ∧ valid final = valid last) := by
  induction limit generalizing previous s n with
  | zero =>
    rcases rounds_eq_ok_cases h with ⟨hsame, rfl, rfl⟩ | ⟨s', m, rest, hrest, -⟩
    · exact ⟨by omega, .refl _, hstart, .inl ⟨rfl, rfl, hsame⟩⟩
    · omega
  | succ limit ih =>
    rcases rounds_eq_ok_cases h with ⟨hsame, rfl, rfl⟩ | ⟨s', m, rest, hrest, rfl, hs', hm⟩
    · exact ⟨by omega, .refl _, hstart, .inl ⟨rfl, rfl, hsame⟩⟩
    · obtain rfl : limit = rest := by omega
      obtain ⟨hcount, hsub, hfinal, hlast⟩ := ih (hround s s' hstart hs') hm
      have hshrunk := hshrinks s s' hstart hs'
      refine ⟨?_, hsub.trans hshrunk, hfinal, .inr ?_⟩
      · by_cases hsame : valid s' = valid s
        · rw [rounds_of_eq hsame] at hm
          cases hm
          omega
        · have hlt : (valid s').length < (valid s).length := by
            have hle := hshrunk.length_le
            have hne : (valid s').length ≠ (valid s).length :=
              fun heq ↦ hsame (hshrunk.eq_of_length heq)
            omega
          omega
      · rcases hlast with ⟨-, rfl, hsame⟩ | hlast
        · exact ⟨s, hstart, hs', hsame⟩
        · exact hlast

/-- A limit above the number of items is never reached: neither it nor its error makes a
difference. -/
theorem rounds_eq_of_lt {excessive' : E} {limit' : Nat}
    (hshrinks : ∀ s s', round s = .ok s' → (valid s').Sublist (valid s))
    (hlimit : (valid s).length < limit) (hlimit' : (valid s).length < limit') :
    rounds valid round excessive limit previous s =
      rounds valid round excessive' limit' previous s := by
  induction limit generalizing limit' previous s with
  | zero => omega
  | succ limit ih =>
    by_cases hsame : valid s = previous
    · rw [rounds_of_eq hsame, rounds_of_eq hsame]
    · obtain ⟨limit', rfl⟩ : ∃ k, limit' = k + 1 := ⟨limit' - 1, by omega⟩
      rw [rounds_succ_of_ne hsame, rounds_succ_of_ne hsame]
      cases hs' : round s with
      | error e => rfl
      | ok s' =>
        have hrest : rounds valid round excessive limit (valid s) s' =
            rounds valid round excessive' limit' (valid s) s' := by
          by_cases hagain : valid s' = valid s
          · rw [rounds_of_eq hagain, rounds_of_eq hagain]
          · have hshrunk := hshrinks s s' hs'
            have hle := hshrunk.length_le
            have hne : (valid s').length ≠ (valid s).length :=
              fun heq ↦ hagain (hshrunk.eq_of_length heq)
            exact ih (by omega) (by omega)
        simp only [bind, Except.bind, hrest]

end Rounds

end Irrd.Base
