import Mathlib.Data.Nat.Digits.Defs
import StaticGzip.Proofs.Gzip.FixedCode
import StaticGzip.Proofs.Gzip.Member
import StaticGzip.Proofs.Gzip.Remainder

/-! # One whole member

What is written for some data is one member and nothing else: a header of ten bytes, one final
block, and a trailer with the checksum and the length. Each part is described by the rules of the
format, and the whole is read back as the data.

* **`Gzip.IsMember`** — a member of some data, by its parts.
* **`Gzip.compress_isMember`** — all data has such a member, and reading it gives the data back. -/

namespace StaticGzip.Gzip

/-- **A member of some data**: header, stream, checksum and length, and nothing after them. -/
structure IsMember (data : ByteArray) (stream : Bytes) (block : Bits) (zeros : Nat)
    (check size member : Bytes) : Prop where
  /-- The header has its two marks, the method, no flags and so no optional parts, no time, nothing
  about the effort, and an unknown system. -/
  parts : member = [0x1f, 0x8b] ++ [8] ++ [0] ++ [0, 0, 0, 0] ++ [0] ++ [255]
    ++ stream ++ check ++ size
  /-- The stream is one block, which is the last and in the fixed code, up to the next whole
  byte. -/
  final : Bits.ofBytes stream = true :: true :: false :: block ++ List.replicate zeros false
  filling : zeros < 8
  /-- By the rules of the format the block describes the data. -/
  described : Deflate.Describes block #[] data.data
  /-- Reading the stream gives the data and leaves the filling. -/
  inflates : Inflate.stream? (Bits.ofBytes stream) = some (data.data, List.replicate zeros false)
  /-- The checksum stands in four bytes, the least significant first. -/
  checksum : check.length = 4
    ∧ Nat.ofDigits 256 (check.map UInt8.toNat) = (Checksum.ofData data).toNat
  /-- It is the complement of a remainder by the generator. -/
  remainder : Checksum.registerPoly (Checksum.ofData data) = Checksum.allOnes
    + (Polynomial.X ^ (8 * data.size) * Checksum.allOnes
      + Polynomial.X ^ 32 * Bits.poly (Bits.ofBytes data.data.toList)) %ₘ Checksum.generator
  /-- The length stands in four bytes, as far as they go. -/
  length : size.length = 4 ∧ Nat.ofDigits 256 (size.map UInt8.toNat) = data.size % 2 ^ 32

/-- A number in four bytes has **its low 32 bits**. -/
theorem ofDigits_littleEndian (n : Nat) :
    Nat.ofDigits 256 ((littleEndian n).map UInt8.toNat) = n % 2 ^ 32 := by
  have four : littleEndian n = [UInt8.ofNat (n >>> 0), UInt8.ofNat (n >>> 8),
    UInt8.ofNat (n >>> 16), UInt8.ofNat (n >>> 24)] := rfl
  simp only [four, List.map_cons, List.map_nil, UInt8.toNat_ofNat', Nat.shiftRight_eq_div_pow,
    Nat.ofDigits_cons, Nat.ofDigits_nil]
  omega

/-- **One whole member** is written for all data: it is made of the parts of the format and of
nothing else, and the data is read back from it, both numbers of the trailer being checked. -/
theorem compress_isMember (data : ByteArray) :
    (∃ stream block zeros check size,
      IsMember data stream block zeros check size (compress data).data.toList) ∧
    decompress? (compress data) = some data := by
  refine ⟨?_, decompress?_compress data⟩
  have writable : ∀ t ∈ Token.ofData data, t.IsWritable := fun _ => Token.isWritable_of_mem_ofData
  obtain ⟨block, written, described⟩ :=
    Deflate.exists_describes_encode writable (Token.expand_ofData data)
  obtain ⟨zeros, few, packed⟩ := Bits.ofBytes_toBytes (Deflate.encode (Token.ofData data))
  have small : (Checksum.ofData data).toNat < 2 ^ 32 := (Checksum.ofData data).toNat_lt
  exact ⟨Bits.toBytes (Deflate.encode (Token.ofData data)), block, zeros,
    littleEndian (Checksum.ofData data).toNat, littleEndian data.size, {
      parts := by rw [compress, trailer, List.toList_toArray, ← List.append_assoc]; rfl
      final := by rw [packed, written]
      filling := few
      described := described
      inflates := by rw [packed, Inflate.stream?_encode writable (Token.expand_ofData data)]
      checksum := ⟨rfl, (ofDigits_littleEndian _).trans (Nat.mod_eq_of_lt small)⟩
      remainder := Checksum.registerPoly_ofData data
      length := ⟨rfl, ofDigits_littleEndian _⟩ }⟩

end StaticGzip.Gzip
