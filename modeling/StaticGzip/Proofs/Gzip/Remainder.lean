import Mathlib
import StaticGzip.Gzip.Bits.RoundTrip
import StaticGzip.Gzip.Checksum
import StaticGzip.Proofs.Gzip.CanonicalCode
import StaticGzip.Proofs.Gzip.Packing

/-! # The checksum is a remainder

Bits are the coefficients of a polynomial over the field of two elements, the first bit that of the
highest power. The checksum register holds the remainder of what has been read by the generator
polynomial, shifted by the width of the register. The register starts from all ones, and what is
shown is its complement.

* **`Bits.poly`** — the polynomial that some bits write.
* **`Checksum.mk_registerPoly_update`** — one more byte in the register, modulo the generator.
* **`Checksum.registerPoly_ofData`** — the checksum of some data, the complement of a remainder. -/

open Polynomial

namespace StaticGzip.Gzip

namespace Bits

/-! ## Bits as coefficients -/

/-- The **polynomial of some bits**, the first bit the coefficient of the highest power. -/
noncomputable def poly : Bits → (ZMod 2)[X]
  | [] => 0
  | b :: bits => (if b then X ^ bits.length else 0) + poly bits

/-- Bits that follow push the others to higher powers. -/
theorem poly_append (a b : Bits) : poly (a ++ b) = X ^ b.length * poly a + poly b := by
  induction a with
  | nil => simp [poly]
  | cons bit a ih =>
    rw [List.cons_append, poly, poly, ih, List.length_append, Nat.add_comm a.length, pow_add]
    split <;> ring

/-- Zeros have no coefficients. -/
theorem poly_replicate_false (n : Nat) : poly (List.replicate n false) = 0 := by
  induction n with
  | zero => rfl
  | succ n ih => rw [List.replicate_succ, poly, ih, if_neg Bool.false_ne_true, add_zero]

/-- Fewer bits than a power have a polynomial of a **smaller degree**. -/
theorem degree_poly_lt (bits : Bits) : (poly bits).degree < bits.length := by
  induction bits with
  | nil => simp [poly]
  | cons b bits ih =>
    have power : (X ^ bits.length : (ZMod 2)[X]).degree = bits.length := degree_X_pow _
    have room : ((bits.length : Nat) : WithBot Nat) < (b :: bits).length := by
      exact_mod_cast Nat.lt_succ_self _
    rw [poly]
    apply lt_of_le_of_lt (degree_add_le _ _)
    apply max_lt _ (ih.trans room)
    split
    · rwa [power]
    · rw [degree_zero]
      exact bot_lt_of_lt room

/-- The **exclusive or** of two numbers adds their coefficients. -/
theorem poly_ofNat_xor (width m n : Nat) :
    poly (ofNat width (m ^^^ n)) = poly (ofNat width m) + poly (ofNat width n) := by
  induction width generalizing m n with
  | zero => simp [ofNat, poly]
  | succ width ih =>
    have two : (X ^ width : (ZMod 2)[X]) + X ^ width = 0 := CharTwo.add_self_eq_zero _
    have low : (m ^^^ n) % 2 = (m % 2 + n % 2) % 2 := by
      rw [Nat.xor_mod_two_eq, Nat.add_mod]
    rw [ofNat, ofNat, ofNat, poly, poly, poly, Nat.xor_div_two, ih]
    simp only [length_ofNat, beq_iff_eq, low]
    rcases Nat.mod_two_eq_zero_or_one m with hm | hm <;>
      rcases Nat.mod_two_eq_zero_or_one n with hn | hn <;>
      simp only [hm, hn, Nat.reduceAdd, Nat.reduceMod, if_true, Nat.zero_ne_one, if_false]
    · ring
    · ring
    · ring
    · linear_combination -two

end Bits

namespace Checksum

/-! ## The generator -/

/-- The **generator** of the check. -/
noncomputable def generator : (ZMod 2)[X] :=
  X ^ 32 + X ^ 26 + X ^ 23 + X ^ 22 + X ^ 16 + X ^ 12 + X ^ 11 + X ^ 10 + X ^ 8 + X ^ 7 + X ^ 5
    + X ^ 4 + X ^ 2 + X + 1

/-- The polynomial that the **register** holds. -/
noncomputable def registerPoly (r : UInt32) : (ZMod 2)[X] := Bits.poly (Bits.ofNat 32 r.toNat)

/-- The constant of the register is the generator without its highest power. -/
theorem generator_eq : generator = X ^ 32 + registerPoly polynomial := by
  have bits : Bits.ofNat 32 polynomial.toNat =
      [false, false, false, false, false, true, false, false, true, true, false, false, false,
        false, false, true, false, false, false, true, true, true, false, true, true, false, true,
        true, false, true, true, true] := by decide
  rw [generator, registerPoly, bits]
  simp [Bits.poly]
  ring

theorem degree_constant_lt : (registerPoly polynomial).degree < (32 : Nat) := by
  have small := Bits.degree_poly_lt (Bits.ofNat 32 polynomial.toNat)
  rwa [Bits.length_ofNat] at small

theorem monic_generator : generator.Monic := by
  rw [generator_eq]
  exact monic_X_pow_add degree_constant_lt

theorem degree_generator : generator.degree = (32 : Nat) := by
  have power : (X ^ 32 : (ZMod 2)[X]).degree = (32 : Nat) := degree_X_pow 32
  have smaller := degree_constant_lt.trans_eq power.symm
  rw [generator_eq, degree_add_eq_left_of_degree_lt smaller, power]

/-! ## One step of the register -/

theorem registerPoly_xor (r s : UInt32) :
    registerPoly (r ^^^ s) = registerPoly r + registerPoly s := by
  rw [registerPoly, UInt32.toNat_xor, Bits.poly_ofNat_xor]
  rfl

/-- Moving the register on by one bit multiplies by the variable, up to the coefficient that
drops out. -/
theorem X_mul_registerPoly (r : UInt32) :
    X * registerPoly r
      = registerPoly (r >>> 1) + if r.toNat % 2 = 1 then X ^ 32 else 0 := by
  have small : r.toNat / 2 / 2 ^ 31 = 0 := by
    have bound := r.toNat_lt
    omega
  have moved : (r >>> 1).toNat = r.toNat / 2 := by
    rw [UInt32.toNat_shiftRight]
    exact Nat.shiftRight_eq_div_pow _ 1
  have last : Bits.ofNat 32 (r.toNat / 2) = Bits.ofNat 31 (r.toNat / 2) ++ [false] := by
    rw [Bits.ofNat_add 31 1, small]
    rfl
  have first : Bits.ofNat 32 r.toNat = (r.toNat % 2 == 1) :: Bits.ofNat 31 (r.toNat / 2) := rfl
  rw [registerPoly, registerPoly, moved, last, first, Bits.poly_append, Bits.poly,
    Bits.length_ofNat]
  simp only [beq_iff_eq, Bits.poly]
  split
  · simp
    ring
  · simp

/-- **One more bit** multiplies the register by the variable, modulo the generator. -/
theorem mk_registerPoly_shift (r : UInt32) :
    AdjoinRoot.mk generator (registerPoly (shift r))
      = AdjoinRoot.root generator * AdjoinRoot.mk generator (registerPoly r) := by
  have odd : r &&& 1 = 1 ↔ r.toNat % 2 = 1 := by
    rw [← UInt32.toNat_inj, UInt32.toNat_and]
    exact Eq.congr_left (Nat.and_one_is_mod r.toNat)
  have step := congrArg (AdjoinRoot.mk generator) (X_mul_registerPoly r)
  rw [map_mul, AdjoinRoot.mk_X, map_add] at step
  rw [step, shift]
  by_cases bit : r.toNat % 2 = 1
  · -- The power that drops out is the rest of the generator.
    have zero : AdjoinRoot.mk generator (X ^ 32 + registerPoly polynomial) = 0 := by
      rw [← generator_eq, AdjoinRoot.mk_self]
    have twice : AdjoinRoot.mk generator (X ^ 32 + X ^ 32) = 0 := by
      rw [CharTwo.add_self_eq_zero, map_zero]
    rw [map_add] at zero twice
    rw [if_pos (odd.mpr bit), if_pos bit, registerPoly_xor, map_add]
    linear_combination zero - twice
  · rw [if_neg (mt odd.mp bit), if_neg bit, map_zero, add_zero]

/-- **One more byte** pushes the register eight powers up and is added to what it then holds of the
powers from the width on, modulo the generator. -/
theorem mk_registerPoly_update (r : UInt32) (b : UInt8) :
    AdjoinRoot.mk generator (registerPoly (update r b))
      = AdjoinRoot.mk generator (X ^ 8 * registerPoly r + X ^ 32 * Bits.poly (Bits.ofByte b)) := by
  have high : b.toNat / 2 ^ 8 = 0 := Nat.div_eq_of_lt b.toNat_lt
  have byte : registerPoly b.toUInt32 = X ^ 24 * Bits.poly (Bits.ofByte b) := by
    rw [registerPoly, UInt8.toNat_toUInt32, Bits.ofNat_add 8 24, high, Bits.ofNat_zero,
      Bits.poly_append, Bits.poly_replicate_false, List.length_replicate, add_zero]
    rfl
  simp only [update, mk_registerPoly_shift, registerPoly_xor, byte, map_add, map_mul, map_pow,
    AdjoinRoot.mk_X]
  ring

/-- The register after some bytes: what it held is pushed up by all their bits, and to the powers
from the width on the polynomial of the bits is added. -/
theorem mk_registerPoly_foldl (r : UInt32) (bytes : Bytes) :
    AdjoinRoot.mk generator (registerPoly (bytes.foldl update r))
      = AdjoinRoot.mk generator (X ^ (8 * bytes.length) * registerPoly r
        + X ^ 32 * Bits.poly (Bits.ofBytes bytes)) := by
  -- By induction on the bytes: the first one is in the register when the others are read.
  induction bytes generalizing r with
  | nil => simp [Bits.poly]
  | cons b bytes ih =>
    have first := mk_registerPoly_update r b
    rw [List.foldl_cons, ih (update r b), Bits.ofBytes_cons, Bits.poly_append,
      Bits.length_ofBytes, List.length_cons]
    simp only [map_add, map_mul, map_pow, AdjoinRoot.mk_X] at first ⊢
    rw [first]
    ring

/-! ## The checksum of some data -/

/-- All ones, as a polynomial of the register. -/
noncomputable def allOnes : (ZMod 2)[X] := Bits.poly (List.replicate 32 true)

/-- The **checksum of some data**, which is shown complemented: the remainder by the generator of
the data's own bits, pushed up by the width of the register, and of the ones it starts from, pushed
up by all these bits. -/
theorem registerPoly_ofData (data : ByteArray) :
    registerPoly (ofData data) = allOnes
      + (X ^ (8 * data.size) * allOnes + X ^ 32 * Bits.poly (Bits.ofBytes data.data.toList))
        %ₘ generator := by
  have ones : registerPoly 0xffffffff = allOnes := congrArg Bits.poly (by decide)
  have small (r : UInt32) : (registerPoly r).degree < generator.degree := by
    rw [degree_generator, registerPoly]
    exact (Bits.degree_poly_lt _).trans_eq (by rw [Bits.length_ofNat])
  have remainder := mk_registerPoly_foldl 0xffffffff data.data.toList
  rw [AdjoinRoot.mk_eq_mk, ones] at remainder
  have complement : ofData data = 0xffffffff ^^^ data.data.toList.foldl update 0xffffffff := by
    rw [ofData_eq_foldl]
    exact UInt32.neg_one_xor.symm
  rw [complement, registerPoly_xor, ones]
  have same := modByMonic_eq_of_dvd_sub monic_generator remainder
  -- A register of smaller degree than the generator is a remainder itself.
  rw [(modByMonic_eq_self_iff monic_generator).mpr (small _)] at same
  rw [same]
  rfl

end Checksum

end StaticGzip.Gzip
