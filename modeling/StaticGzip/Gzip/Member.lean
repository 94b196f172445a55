import StaticGzip.Gzip.Inflate
import StaticGzip.Gzip.Checksum

/-! # Compressed files

A compressed file is one member: a header, a deflate stream, and a trailer with the checksum and
the length of the data.

* **`Gzip.compress`** — the member of some data, with an empty header.
* **`Gzip.decompress?`** — the data of a member, if the text is one whole member whose trailer
  agrees with the data. -/

namespace StaticGzip.Gzip

/-- The header that is written: no time, no name, no extra fields, and an unknown system. -/
def header : Bytes := [0x1f, 0x8b, 8, 0, 0, 0, 0, 0, 0, 255]

/-- A number in four bytes, the least significant first. -/
def littleEndian (n : Nat) : Bytes := (List.range 4).map fun i => UInt8.ofNat (n >>> (8 * i))

/-- The trailer of some data: its checksum and its length. -/
def trailer (data : ByteArray) : Bytes :=
  littleEndian (Checksum.ofData data).toNat ++ littleEndian data.size

/-- The **member** of some data. -/
def compress (data : ByteArray) : ByteArray :=
  ⟨(header ++ Bits.toBytes (Deflate.encode (Token.ofData data)) ++ trailer data).toArray⟩

/-! ## Reading -/

/-- What follows a text that ends in a zero byte. -/
def afterZero? (bytes : Bytes) : Option Bytes := (bytes.dropWhile (· != 0)).tail?

/-- What follows the extra field. -/
def afterExtra? : Bytes → Option Bytes
  | low :: high :: rest =>
    let n := low.toNat + 256 * high.toNat
    if n ≤ rest.length then some (rest.drop n) else none
  | _ => none

/-- What follows the checksum of a header. -/
def afterHeaderCheck? : Bytes → Option Bytes
  | _ :: _ :: rest => some rest
  | _ => none

/-- What follows a part of the header that is there only if its flag is set. -/
def afterPart? (flags mask : UInt8) (part : Bytes → Option Bytes) (bytes : Bytes) :
    Option Bytes :=
  if flags &&& mask = 0 then some bytes else part bytes

/-- What follows the **header** of a member: its fixed ten bytes and the parts that it announces. -/
def afterHeader? : Bytes → Option Bytes
  | 0x1f :: 0x8b :: 8 :: flags :: _ :: _ :: _ :: _ :: _ :: _ :: rest => do
    let rest ← if flags < 32 then some rest else none
    let rest ← afterPart? flags 4 afterExtra? rest
    let rest ← afterPart? flags 8 afterZero? rest
    let rest ← afterPart? flags 16 afterZero? rest
    afterPart? flags 2 afterHeaderCheck? rest
  | _ => none

/-- The **data of a member**. Nothing may follow its trailer. -/
def decompress? (compressed : ByteArray) : Option ByteArray := do
  let rest ← afterHeader? compressed.data.toList
  let (out, bits) ← Inflate.stream? (Bits.ofBytes rest)
  let data : ByteArray := ⟨out⟩
  if Inflate.align bits = Bits.ofBytes (trailer data) then some data else none

end StaticGzip.Gzip
