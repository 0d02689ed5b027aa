import Mathlib.Algebra.Ring.Nat

/-!
# IP networks

The part of IPy's `IP` and of PostgreSQL's `cidr` operators that IRRd relies on. A value
is a network: its version, the integer of its first address and its prefix length.
-/

namespace Irrd.Utils

/-- An IPv4 or IPv6 network or, at full length, a single address. -/
structure IP where
  version : Nat
  int : Nat
  prefixlen : Nat
  deriving DecidableEq, Repr

namespace IP

/-- Number of bits of an address of this version. -/
def bits (ip : IP) : Nat := if ip.version = 4 then 32 else 128

/-- The leading `n` bits of the network address. -/
def networkBits (ip : IP) (n : Nat) : Nat := ip.int / 2 ^ (ip.bits - n)

/-- `cidr >>= cidr`: the first network contains or equals the second. -/
def contains (ip other : IP) : Bool :=
  ip.version = other.version ∧ ip.prefixlen ≤ other.prefixlen ∧
    ip.networkBits ip.prefixlen = other.networkBits ip.prefixlen

/-- `cidr << cidr`: the first network is strictly inside the second. -/
def strictlyInside (ip other : IP) : Bool :=
  other.contains ip ∧ other.prefixlen < ip.prefixlen

/-- `IP.len`: the number of addresses. -/
def len (ip : IP) : Nat := 2 ^ (ip.bits - ip.prefixlen)

/-- `IP.overlaps`: the first address of one lies in the other. The versions are not compared. -/
def overlaps (ip item : IP) : Bool :=
  (ip.int ≤ item.int ∧ item.int < ip.int + ip.len) ∨
    (item.int ≤ ip.int ∧ ip.int < item.int + item.len)

/-- `IP.net`: the first address. -/
def net (ip : IP) : IP := ⟨ip.version, ip.int, ip.bits⟩

/-- `IP.broadcast`: the last address. -/
def broadcast (ip : IP) : IP :=
  ⟨ip.version, ip.int + 2 ^ (ip.bits - ip.prefixlen) - 1, ip.bits⟩

end IP

end Irrd.Utils
