import Irrd.Base.AlignedBlocks
import Irrd.Utils.IP

/-!
# Networks and their addresses

The networks that IPy accepts have no bits after their prefix, so that containment of networks is
inclusion of their addresses.
-/

namespace Irrd.Utils.IP

open Irrd.Base

/-- A network as IPy has it: an address of its version, without bits after the prefix. -/
structure IsNetwork (ip : IP) : Prop where
  version : ip.version = 4 ∨ ip.version = 6
  prefixlen : ip.prefixlen ≤ ip.bits
  aligned : 2 ^ (ip.bits - ip.prefixlen) ∣ ip.int
  int : ip.int < 2 ^ ip.bits

/-- A single address. -/
def IsAddress (ip : IP) : Prop := ip.prefixlen = ip.bits

instance (ip : IP) : Decidable ip.IsAddress := inferInstanceAs (Decidable (_ = _))

section Laws

variable {ip other : IP}

@[simp] theorem version_net (ip : IP) : ip.net.version = ip.version := rfl

theorem int_net (ip : IP) : ip.net.int = ip.int := rfl

@[simp] theorem version_broadcast (ip : IP) : ip.broadcast.version = ip.version := rfl

theorem isAddress_net (ip : IP) : ip.net.IsAddress := rfl

theorem isAddress_broadcast (ip : IP) : ip.broadcast.IsAddress := rfl

/-- One more than the last address. -/
theorem int_broadcast (ip : IP) :
    ip.broadcast.int + 1 = ip.int + 2 ^ (ip.bits - ip.prefixlen) := by
  have hpos : 0 < 2 ^ (ip.bits - ip.prefixlen) := Nat.two_pow_pos _
  change ip.int + 2 ^ (ip.bits - ip.prefixlen) - 1 + 1 = _
  omega

theorem net_of_isAddress (h : ip.IsAddress) : ip.net = ip := by
  unfold net
  rw [← show ip.prefixlen = ip.bits from h]

theorem broadcast_of_isAddress (h : ip.IsAddress) : ip.broadcast = ip := by
  have hsize : ip.int + 2 ^ (ip.bits - ip.prefixlen) - 1 = ip.int := by
    rw [show ip.prefixlen = ip.bits from h, Nat.sub_self, Nat.pow_zero, Nat.add_sub_cancel]
  unfold broadcast
  rw [hsize, ← show ip.prefixlen = ip.bits from h]

theorem int_le_broadcast (ip : IP) : ip.int ≤ ip.broadcast.int := by
  have hlast := int_broadcast ip
  have hpos : 0 < 2 ^ (ip.bits - ip.prefixlen) := Nat.two_pow_pos _
  omega

theorem bits_eq_bits (h : ip.version = other.version) : ip.bits = other.bits := by
  unfold bits
  rw [h]

/-- Containment of a network is inclusion of its addresses. -/
theorem contains_iff (hip : ip.IsNetwork) (hother : other.IsNetwork) :
    ip.contains other = true ↔ ip.version = other.version ∧
      ip.net.int ≤ other.net.int ∧ other.broadcast.int ≤ ip.broadcast.int := by
  simp only [contains, decide_eq_true_eq]
  apply and_congr_right
  intro hversion
  have hbits := bits_eq_bits hversion
  have hblock := block_le_iff hip.aligned hother.aligned
  have hlast := int_broadcast ip
  have hlast' := int_broadcast other
  have hlength := hip.prefixlen
  have hlength' := hother.prefixlen
  simp only [networkBits, int_net, ← hbits] at *
  constructor
  · rintro ⟨hle, hquotient⟩
    have haddresses := hblock.mpr ⟨by omega, hquotient.symm⟩
    omega
  · rintro ⟨hfirst, hsecond⟩
    have hquotient := hblock.mp (by omega)
    exact ⟨by omega, hquotient.2.symm⟩

/-- A network is strictly inside another one where its addresses are, and are not the same. -/
theorem strictlyInside_iff (hip : ip.IsNetwork) (hother : other.IsNetwork) :
    ip.strictlyInside other = true ↔ other.contains ip = true ∧
      ¬ (ip.net.int = other.net.int ∧ ip.broadcast.int = other.broadcast.int) := by
  simp only [strictlyInside, decide_eq_true_eq]
  apply and_congr_right
  intro hcontains
  obtain ⟨hversion, hfirst, hsecond⟩ := (contains_iff hother hip).mp hcontains
  have hbits := bits_eq_bits hversion
  have hblock := block_lt_iff hother.aligned hip.aligned
  have hlast := int_broadcast ip
  have hlast' := int_broadcast other
  have hlength := hip.prefixlen
  have hlength' := hother.prefixlen
  have hquotient : ip.int / 2 ^ (other.bits - other.prefixlen) =
      other.int / 2 ^ (other.bits - other.prefixlen) := by
    simp only [contains, networkBits, decide_eq_true_eq, ← hbits] at hcontains
    exact hcontains.2.2.symm
  simp only [int_net, ← hbits] at *
  constructor
  · intro hlt
    have haddresses := hblock.mpr ⟨by omega, hquotient⟩
    omega
  · intro hne
    have hsize := hblock.mp (by omega)
    omega

end Laws

end Irrd.Utils.IP
