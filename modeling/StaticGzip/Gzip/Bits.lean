import StaticGzip.Http.Header

/-! # Bit streams

A compressed stream is read as a list of bits: bytes in order, and of each byte the least
significant bit first. Numbers are written in the same direction.

* **`Bits.ofNat`, `Bits.toNat`** — a number as so many bits, and back.
* **`Bits.ofBytes`, `Bits.toBytes`** — bytes as bits, and back; the last byte is filled with
  zeros.
* **`Bits.take?`** — a number from the start of a stream. -/

namespace StaticGzip.Gzip

/-- A **stream of bits**. -/
abbrev Bits := List Bool

namespace Bits

/-- The `width` lowest bits of a number, the least significant one first. -/
def ofNat : Nat → Nat → Bits
  | 0, _ => []
  | width + 1, n => (n % 2 == 1) :: ofNat width (n / 2)

/-- The number that some bits write. -/
def toNat : Bits → Nat
  | [] => 0
  | b :: bits => b.toNat + 2 * toNat bits

@[simp] theorem length_ofNat (width n : Nat) : (ofNat width n).length = width := by
  induction width generalizing n with
  | zero => rfl
  | succ width ih => simp [ofNat, ih]

/-- The number at the start of a stream, written in `width` bits, and the rest of the stream. -/
def take? (width : Nat) (bits : Bits) : Option (Nat × Bits) :=
  let head := bits.take width
  if head.length = width then some (toNat head, bits.drop width) else none

/-- Taking a number never lengthens the stream. -/
theorem length_le_of_take? {width n : Nat} {bits rest : Bits}
    (h : take? width bits = some (n, rest)) : rest.length ≤ bits.length := by
  simp only [take?] at h
  split at h
  · obtain ⟨-, rfl⟩ := Prod.mk.inj (Option.some.inj h)
    simp
  · simp at h

/-! ## Bytes -/

/-- The bits of a byte. -/
def ofByte (b : UInt8) : Bits := ofNat 8 b.toNat

/-- The byte that at most eight bits write. -/
def toByte (bits : Bits) : UInt8 := UInt8.ofNat (toNat bits)

@[simp] theorem length_ofByte (b : UInt8) : (ofByte b).length = 8 := length_ofNat 8 _

/-- The bits of some bytes. -/
def ofBytes (bytes : Bytes) : Bits := bytes.flatMap ofByte

@[simp] theorem ofBytes_nil : ofBytes [] = [] := rfl

@[simp] theorem ofBytes_cons (b : UInt8) (bytes : Bytes) :
    ofBytes (b :: bytes) = ofByte b ++ ofBytes bytes := by simp [ofBytes]

@[simp] theorem ofBytes_append (a b : Bytes) : ofBytes (a ++ b) = ofBytes a ++ ofBytes b := by
  simp [ofBytes]

@[simp] theorem length_ofBytes (bytes : Bytes) : (ofBytes bytes).length = 8 * bytes.length := by
  induction bytes with
  | nil => rfl
  | cons b bytes ih => simp [ih]; omega

/-- The bytes of a stream after some bytes that are already there. -/
def pack (packed : Array UInt8) : Bits → Array UInt8
  | [] => packed
  | a :: b :: c :: d :: e :: f :: g :: h :: rest =>
    pack (packed.push (toByte [a, b, c, d, e, f, g, h])) rest
  | last => packed.push (toByte last)

/-- The **bytes of a stream**, the last one filled with zeros. -/
def toBytes (bits : Bits) : Bytes := (pack #[] bits).toList

end Bits

end StaticGzip.Gzip
