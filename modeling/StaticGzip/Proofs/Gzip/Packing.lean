import Mathlib.Algebra.Group.Nat.Defs
import StaticGzip.Gzip.Bits

/-! # Bits packed into bytes

A stream is packed eight bits to a byte, and the last byte is filled with zeros. Reading the bytes
bit by bit gives the stream back, followed by the zeros, of which there are fewer than eight.

* **`Bits.ofByte_toByte`** — one byte, filled up.
* **`Bits.ofBytes_toBytes`** — a whole stream. -/

namespace StaticGzip.Gzip.Bits

/-! ## One byte -/

/-- Nothing but zeros writes zero. -/
theorem ofNat_zero (width : Nat) : ofNat width 0 = List.replicate width false := by
  induction width with
  | zero => rfl
  | succ width ih => rw [ofNat, Nat.zero_div, ih, List.replicate_succ]; rfl

/-- Bits are read back from the number that they write, filled with zeros to the width. -/
theorem ofNat_toNat {width : Nat} {bits : Bits} (h : bits.length ≤ width) :
    ofNat width (toNat bits) = bits ++ List.replicate (width - bits.length) false := by
  induction bits generalizing width with
  | nil => exact ofNat_zero width
  | cons b bits ih =>
    cases width with
    | zero => exact absurd h (by simp)
    | succ width =>
      -- The first bit is the parity of the number, and the others write half of it.
      have first : ((b.toNat + 2 * toNat bits) % 2 == 1) = b := by
        cases b <;> simp
      have bit := Bool.toNat_lt b
      have more : (b.toNat + 2 * toNat bits) / 2 = toNat bits := by omega
      rw [List.length_cons, Nat.succ_le_succ_iff] at h
      rw [toNat, ofNat, first, more, ih h, List.length_cons, Nat.add_sub_add_right,
        List.cons_append]

/-- So many bits write a number below that power of two. -/
theorem toNat_lt (bits : Bits) : toNat bits < 2 ^ bits.length := by
  induction bits with
  | nil => exact Nat.one_pos
  | cons b bits ih =>
    have small : b.toNat ≤ 1 := Bool.toNat_le b
    rw [toNat, List.length_cons, Nat.pow_succ]
    omega

/-- **A byte** holds up to eight bits, followed by zeros. -/
theorem ofByte_toByte {bits : Bits} (h : bits.length ≤ 8) :
    ofByte (toByte bits) = bits ++ List.replicate (8 - bits.length) false := by
  have small : toNat bits < 2 ^ 8 :=
    Nat.lt_of_lt_of_le (toNat_lt bits) (Nat.pow_le_pow_right Nat.two_pos h)
  rw [ofByte, toByte, UInt8.toNat_ofNat_of_lt' small, ofNat_toNat h]

/-! ## A stream -/

/-- A stream that does not begin with eight bits has fewer. -/
theorem length_lt_of_not_byte {bits : Bits}
    (short : ∀ a b c d e f g h rest, bits = a :: b :: c :: d :: e :: f :: g :: h :: rest → False) :
    bits.length < 8 := by
  match bits with
  | a :: b :: c :: d :: e :: f :: g :: h :: rest => exact absurd rfl (short a b c d e f g h rest)
  | [] | [_] | [_, _] | [_, _, _] | [_, _, _, _] | [_, _, _, _, _] | [_, _, _, _, _, _]
  | [_, _, _, _, _, _, _] => simp

/-- Packing continues the bytes that are there already, eight bits to a byte. -/
theorem ofBytes_pack (packed : Array UInt8) (bits : Bits) :
    ∃ n < 8, ofBytes (pack packed bits).toList
      = ofBytes packed.toList ++ bits ++ List.replicate n false := by
  fun_induction pack packed bits with
  | case1 packed => exact ⟨0, by decide, by simp⟩
  | case2 packed a b c d e f g h rest ih =>
    obtain ⟨n, hn, written⟩ := ih
    have byte : ofByte (toByte [a, b, c, d, e, f, g, h]) = [a, b, c, d, e, f, g, h] :=
      ofByte_toByte (Nat.le_refl 8)
    refine ⟨n, hn, ?_⟩
    rw [written, Array.toList_push, ofBytes_append, ofBytes_cons, ofBytes_nil, byte]
    simp
  | case3 packed last nonempty short =>
    -- The last byte has at least one bit and is filled up to eight.
    have length := length_lt_of_not_byte short
    have positive : 0 < last.length := List.length_pos_iff.mpr nonempty
    refine ⟨8 - last.length, by omega, ?_⟩
    rw [Array.toList_push, ofBytes_append, ofBytes_cons, ofBytes_nil, List.append_nil,
      ofByte_toByte (Nat.le_of_lt length), List.append_assoc]

/-- The **bytes of a stream** hold the stream and then fewer than eight zeros. -/
theorem ofBytes_toBytes (bits : Bits) :
    ∃ n < 8, ofBytes (toBytes bits) = bits ++ List.replicate n false := by
  obtain ⟨n, hn, written⟩ := ofBytes_pack #[] bits
  refine ⟨n, hn, ?_⟩
  rw [toBytes, written]
  simp

end StaticGzip.Gzip.Bits
