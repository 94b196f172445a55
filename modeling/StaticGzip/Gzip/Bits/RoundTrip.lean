import Mathlib.Algebra.Group.Nat.Defs
import StaticGzip.Gzip.Bits

/-! # Numbers and bytes read back from bits

What has been written to a stream of bits is what is read from it.

* **`Bits.toNat_ofNat`** — a number comes back modulo the power of two that its width allows.
* **`Bits.take?_ofNat_append`** — also from the start of a longer stream.
* **`Bits.toByte_ofByte`** — a byte comes back whole. -/

namespace StaticGzip.Gzip.Bits

/-- Writing and reading a number keeps it modulo the power of two that the width allows. -/
theorem toNat_ofNat (width n : Nat) : toNat (ofNat width n) = n % 2 ^ width := by
  induction width generalizing n with
  | zero => simp [ofNat, toNat, Nat.mod_one]
  | succ width ih =>
    have bit : ((n % 2 == 1).toNat) = n % 2 := by
      rcases Nat.mod_two_eq_zero_or_one n with h | h <;> simp [h]
    rw [ofNat, toNat, ih, bit, Nat.pow_succ, Nat.mul_comm (2 ^ width) 2, Nat.mod_mul]

/-- A number that has just been written is what is taken. -/
theorem take?_ofNat_append (width n : Nat) (rest : Bits) :
    take? width (ofNat width n ++ rest) = some (n % 2 ^ width, rest) := by
  have taken : (ofNat width n ++ rest).take width = ofNat width n := by
    simp
  have dropped : (ofNat width n ++ rest).drop width = rest := by
    simp
  simp [take?, taken, dropped, toNat_ofNat]

/-- A byte is read back from its bits. -/
@[simp] theorem toByte_ofByte (b : UInt8) : toByte (ofByte b) = b := by
  have small : b.toNat < 2 ^ 8 := b.toNat_lt
  rw [toByte, ofByte, toNat_ofNat, Nat.mod_eq_of_lt small]
  exact UInt8.ofNat_toNat

end StaticGzip.Gzip.Bits
