import Mathlib.Data.List.Basic
import Mathlib.Algebra.Group.Nat.Basic
import Mathlib.Data.String.Basic

/-!
# IP addresses and byte slices

The util package computes with two representations of an address. A `net.IP` or `IPMask` is
a byte slice, most significant byte first. A `netip.Addr` holds a 128-bit number `addr` and a
zone; an IPv4 address is stored mapped into IPv6 (`::ffff:a.b.c.d`), and its bit length
says which kind it is.

This module models `netip.Addr` with the functions the util package calls on it:
`AddrFromSlice`, `As16`, `BitLen`, `Zone` and `Compare`. The `Addr` type lists the three
kinds of value Go's representation allows (the zero `Addr`, IPv4, IPv6 with a zone, empty
for none); `Addr.addr` is the 128-bit number Go stores for each.

`beVal` reads a byte slice as a number and `bytesBE` writes one, as `bePutUint64` does.
-/

namespace VmDhcpController

/-- A Go `byte`. -/
abbrev Byte := BitVec 8

/-- The number a byte slice spells, most significant byte first. -/
def beVal : List Byte → Nat
  | [] => 0
  | b :: bs => 2 ^ (8 * bs.length) * b.toNat + beVal bs

/-- The last `k` bytes of `v`, most significant first. -/
def bytesBE : Nat → Nat → List Byte
  | 0, _ => []
  | k + 1, v => BitVec.ofNat 8 (v / 2 ^ (8 * k)) :: bytesBE k v

/-- A `netip.Addr`: the zero `Addr`, an IPv4 address, or an IPv6 address with its zone. -/
inductive Addr
  | zero
  | v4 (a : BitVec 32)
  | v6 (a : BitVec 128) (zone : String)
  deriving DecidableEq, Repr

namespace Addr

/-- `BitLen`. -/
def bitLen : Addr → Nat
  | zero => 0
  | v4 _ => 32
  | v6 _ _ => 128

/-- The 128-bit number Go stores: an IPv4 address is mapped into IPv6. -/
def addr : Addr → Nat
  | zero => 0
  | v4 a => 0xffff * 2 ^ 32 + a.toNat
  | v6 a _ => a.toNat

/-- `Zone`. -/
def zone : Addr → String
  | v6 _ z => z
  | _ => ""

/-- `Is6`. -/
def is6 : Addr → Bool
  | v6 _ _ => true
  | _ => false

/-- The address as a number of `bitLen` bits. -/
def bits : Addr → Nat
  | zero => 0
  | v4 a => a.toNat
  | v6 a _ => a.toNat

/-- `Compare`: by bit length, then by the high and the low 64 bits of `addr`, then, for IPv6,
by zone. -/
def compare (ip ip2 : Addr) : Int :=
  let f1 := ip.bitLen
  let f2 := ip2.bitLen
  if f1 < f2 then -1
  else if f1 > f2 then 1
  else
    let hi1 := ip.addr / 2 ^ 64
    let hi2 := ip2.addr / 2 ^ 64
    if hi1 < hi2 then -1
    else if hi1 > hi2 then 1
    else
      let lo1 := ip.addr % 2 ^ 64
      let lo2 := ip2.addr % 2 ^ 64
      if lo1 < lo2 then -1
      else if lo1 > lo2 then 1
      else if ip.is6 then
        let za := ip.zone
        let zb := ip2.zone
        if za < zb then -1
        else if za > zb then 1
        else 0
      else 0

/-- `As16`: the 16 bytes of `addr`. -/
def as16 (ip : Addr) : List Byte := bytesBE 16 ip.addr

end Addr

/-- `AddrFromSlice`: a 4-byte slice is an IPv4 address, a 16-byte one an IPv6 address. -/
def addrFromSlice (slice : List Byte) : Option Addr :=
  if slice.length = 4 then some (.v4 (BitVec.ofNat 32 (beVal slice)))
  else if slice.length = 16 then some (.v6 (BitVec.ofNat 128 (beVal slice)) "")
  else none

/-- `netip.ParseAddr`, which is not part of the source given here: the address a string
denotes, if any. It never returns the zero `Addr`. -/
structure AddrParser where
  parse : String → Option Addr
  ne_zero : ∀ s a, parse s = some a → a ≠ .zero

/-! ## Reading and writing bytes -/

@[simp] theorem length_bytesBE (k v : Nat) : (bytesBE k v).length = k := by
  induction k <;> simp [bytesBE, *]

theorem beVal_lt (bs : List Byte) : beVal bs < 2 ^ (8 * bs.length) := by
  induction bs with
  | nil => simp [beVal]
  | cons b bs ih =>
    have hb := b.isLt
    calc beVal (b :: bs) = 2 ^ (8 * bs.length) * b.toNat + beVal bs := rfl
      _ < 2 ^ (8 * bs.length) * (b.toNat + 1) := by rw [Nat.mul_add_one]; omega
      _ ≤ 2 ^ (8 * bs.length) * 2 ^ 8 := Nat.mul_le_mul_left _ hb
      _ = 2 ^ (8 * (b :: bs).length) := by rw [← Nat.pow_add]; simp [Nat.mul_add, Nat.add_comm]

theorem beVal_bytesBE (k v : Nat) : beVal (bytesBE k v) = v % 2 ^ (8 * k) := by
  induction k with
  | zero => simp [bytesBE, beVal, Nat.mod_one]
  | succ k ih =>
    rw [bytesBE, beVal, length_bytesBE, ih, BitVec.toNat_ofNat, Nat.mul_succ, Nat.pow_add,
      Nat.mod_mul, Nat.add_comm]

/-- Writing `k + m` bytes writes the high `k`, then the low `m`. -/
theorem bytesBE_add (k m v : Nat) :
    bytesBE (k + m) v = bytesBE k (v / 2 ^ (8 * m)) ++ bytesBE m v := by
  induction k with
  | zero => simp [bytesBE]
  | succ k ih =>
    rw [Nat.add_right_comm, bytesBE, ih, bytesBE, Nat.div_div_eq_div_mul, ← Nat.pow_add,
      Nat.mul_add, Nat.add_comm (8 * m)]
    rfl

end VmDhcpController
