import StaticGzip.Http.Header

/-! # The checksum of a compressed file

The cyclic redundancy check with 32 bits whose polynomial, its coefficients in reverse, is
`0xedb88320`. It starts from all ones and is complemented at the end. -/

namespace StaticGzip.Gzip.Checksum

/-- The polynomial of the check, lowest power first. -/
def polynomial : UInt32 := 0xedb88320

/-- The remainder after one more bit. -/
def shift (r : UInt32) : UInt32 :=
  if r &&& 1 = 1 then polynomial ^^^ (r >>> 1) else r >>> 1

/-- The remainder after one more byte. -/
def update (r : UInt32) (b : UInt8) : UInt32 :=
  shift (shift (shift (shift (shift (shift (shift (shift (r ^^^ b.toUInt32))))))))

/-- The **checksum** of some data. -/
def ofData (data : ByteArray) : UInt32 := ~~~ data.data.foldl update 0xffffffff

/-- The checksum is a fold over the bytes. -/
theorem ofData_eq_foldl (data : ByteArray) :
    ofData data = ~~~ data.data.toList.foldl update 0xffffffff := by
  simp [ofData]

end StaticGzip.Gzip.Checksum
