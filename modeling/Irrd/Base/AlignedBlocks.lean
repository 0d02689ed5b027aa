import Mathlib.Algebra.Order.Ring.Nat
import Mathlib.Data.Nat.Basic

/-!
# Aligned blocks

Blocks of consecutive numbers whose size is a power of two and divides their first number. Such
blocks are nested or disjoint, so inclusion of one in another is inclusion of its first number.
-/

namespace Irrd.Base

variable {a b m n : Nat}

/-- Blocks are included in no smaller blocks. -/
theorem exponent_le_of_block_le (hfirst : a ≤ b) (hlast : b + 2 ^ n ≤ a + 2 ^ m) : n ≤ m := by
  have hsize : 2 ^ n ≤ 2 ^ m := by omega
  exact (Nat.pow_le_pow_iff_right (by decide)).mp hsize

/-- A number is in the aligned block that has its quotient. -/
theorem div_eq_div_iff_mem_block (ha : 2 ^ m ∣ a) :
    b / 2 ^ m = a / 2 ^ m ↔ a ≤ b ∧ b < a + 2 ^ m := by
  obtain ⟨q, rfl⟩ := ha
  have hpos : 0 < 2 ^ m := Nat.two_pow_pos m
  rw [Nat.mul_div_cancel_left q hpos, Nat.div_eq_iff hpos]
  rw [Nat.mul_comm q]
  omega

/-- A block that begins in a larger one ends in it. -/
theorem block_end_le (ha : 2 ^ m ∣ a) (hb : 2 ^ n ∣ b) (hsize : n ≤ m) (hlast : b < a + 2 ^ m) :
    b + 2 ^ n ≤ a + 2 ^ m := by
  have hpow : 2 ^ n ∣ 2 ^ m := Nat.pow_dvd_pow 2 hsize
  obtain ⟨k, hk⟩ := hb
  obtain ⟨l, hl⟩ := Nat.dvd_add (hpow.trans ha) hpow
  rw [hk, hl] at hlast ⊢
  have hlt : k < l := Nat.lt_of_mul_lt_mul_left hlast
  calc 2 ^ n * k + 2 ^ n = 2 ^ n * (k + 1) := (Nat.mul_succ _ _).symm
    _ ≤ 2 ^ n * l := Nat.mul_le_mul_left _ hlt

/-- An aligned block is included in another one where it is no larger and has its quotient. -/
theorem block_le_iff (ha : 2 ^ m ∣ a) (hb : 2 ^ n ∣ b) :
    a ≤ b ∧ b + 2 ^ n ≤ a + 2 ^ m ↔ n ≤ m ∧ b / 2 ^ m = a / 2 ^ m := by
  rw [div_eq_div_iff_mem_block ha]
  constructor
  · rintro ⟨hfirst, hlast⟩
    have hpos : 0 < 2 ^ n := Nat.two_pow_pos n
    exact ⟨exponent_le_of_block_le hfirst hlast, hfirst, by omega⟩
  · rintro ⟨hsize, hfirst, hlast⟩
    exact ⟨hfirst, block_end_le ha hb hsize hlast⟩

/-- An aligned block is strictly included in another one where it is smaller and has its
quotient. -/
theorem block_lt_iff (ha : 2 ^ m ∣ a) (hb : 2 ^ n ∣ b) :
    (a ≤ b ∧ b + 2 ^ n ≤ a + 2 ^ m) ∧ ¬ (b = a ∧ b + 2 ^ n = a + 2 ^ m) ↔
      n < m ∧ b / 2 ^ m = a / 2 ^ m := by
  have hsame : n = m → b / 2 ^ m = a / 2 ^ m → b = a := by
    rintro rfl hquotient
    calc b = 2 ^ n * (b / 2 ^ n) := (Nat.mul_div_cancel' hb).symm
      _ = 2 ^ n * (a / 2 ^ n) := by rw [hquotient]
      _ = a := Nat.mul_div_cancel' ha
  rw [block_le_iff ha hb]
  constructor
  · rintro ⟨⟨hsize, hquotient⟩, hne⟩
    refine ⟨lt_of_le_of_ne hsize ?_, hquotient⟩
    intro heq
    have hfirst := hsame heq hquotient
    exact hne ⟨hfirst, by rw [hfirst, heq]⟩
  · rintro ⟨hsize, hquotient⟩
    refine ⟨⟨hsize.le, hquotient⟩, ?_⟩
    rintro ⟨hfirst, hlast⟩
    have hpow : 2 ^ n < 2 ^ m := Nat.pow_lt_pow_right (by decide) hsize
    omega

end Irrd.Base
