import StaticGzip.Gzip.Member
import StaticGzip.Proofs.Gzip.Block
import StaticGzip.Proofs.Gzip.Packing

/-! # Compressed files are read back

The member of some data has an empty header, one stream whose last byte is filled with zeros, and a
trailer of whole bytes. The reader drops the filling and finds the trailer of the data it has read.

* **`Gzip.align_replicate_append`** — the filling before whole bytes is dropped.
* **`Gzip.decompress?_compress`** — every member is read back as the data it was made of. -/

namespace StaticGzip.Gzip

/-- The header that is written is read to its end. -/
theorem afterHeader?_header (rest : Bytes) : afterHeader? (header ++ rest) = some rest := rfl

/-- The **filling** of a byte is dropped if whole bytes follow it. -/
theorem align_replicate_append {n : Nat} (h : n < 8) (bytes : Bytes) :
    Inflate.align (List.replicate n false ++ Bits.ofBytes bytes) = Bits.ofBytes bytes := by
  -- What is left is whole bytes but for the filling.
  have filling : (List.replicate n false ++ Bits.ofBytes bytes).length % 8 = n := by
    rw [List.length_append, List.length_replicate, Bits.length_ofBytes, Nat.add_mul_mod_self_left,
      Nat.mod_eq_of_lt h]
  rw [Inflate.align, filling, List.drop_append_of_le_length (by simp), List.drop_replicate,
    Nat.sub_self]
  rfl

/-- **Every member** is read back as the data it was made of. -/
theorem decompress?_compress (data : ByteArray) : decompress? (compress data) = some data := by
  obtain ⟨n, hn, written⟩ := Bits.ofBytes_toBytes (Deflate.encode (Token.ofData data))
  have stream := Inflate.stream?_encode (fun t => Token.isWritable_of_mem_ofData)
    (Token.expand_ofData data) (List.replicate n false ++ Bits.ofBytes (trailer data))
  -- After the header come the stream, the filling of its last byte, and the trailer.
  have body : Bits.ofBytes (Bits.toBytes (Deflate.encode (Token.ofData data)) ++ trailer data)
      = Deflate.encode (Token.ofData data)
        ++ (List.replicate n false ++ Bits.ofBytes (trailer data)) := by
    rw [Bits.ofBytes_append, written, List.append_assoc]
  rw [decompress?, compress, List.append_assoc, List.toList_toArray, afterHeader?_header]
  simp only [Option.bind_eq_bind, Option.bind_some]
  rw [body, stream]
  simp only [Option.bind_some]
  rw [align_replicate_append hn, if_pos rfl]

end StaticGzip.Gzip
