import StaticGzip.Gzip.Huffman
import StaticGzip.Gzip.Token

/-! # Deflate streams: writing

The compressed form of data is one final block in the fixed code. Literals and lengths share one
alphabet, distances have another; a length or distance is written as the symbol of its range and
the offset within the range.

* **`Deflate.Range`** — the ranges of lengths and distances.
* **`Deflate.encode`** — the stream for some tokens. -/

namespace StaticGzip.Gzip.Deflate

/-! ## Ranges -/

/-- A **range** of lengths or distances: its symbol, its least value, and the number of bits in
which the offset from the least value is written. -/
structure Range where
  symbol : Nat
  base : Nat
  extra : Nat
deriving DecidableEq, Repr

/-- The ranges of lengths, the longest first. -/
def lengthRanges : List Range := [
  ⟨285, 258, 0⟩, ⟨284, 227, 5⟩, ⟨283, 195, 5⟩, ⟨282, 163, 5⟩, ⟨281, 131, 5⟩, ⟨280, 115, 4⟩,
  ⟨279, 99, 4⟩, ⟨278, 83, 4⟩, ⟨277, 67, 4⟩, ⟨276, 59, 3⟩, ⟨275, 51, 3⟩, ⟨274, 43, 3⟩,
  ⟨273, 35, 3⟩, ⟨272, 31, 2⟩, ⟨271, 27, 2⟩, ⟨270, 23, 2⟩, ⟨269, 19, 2⟩, ⟨268, 17, 1⟩,
  ⟨267, 15, 1⟩, ⟨266, 13, 1⟩, ⟨265, 11, 1⟩, ⟨264, 10, 0⟩, ⟨263, 9, 0⟩, ⟨262, 8, 0⟩,
  ⟨261, 7, 0⟩, ⟨260, 6, 0⟩, ⟨259, 5, 0⟩, ⟨258, 4, 0⟩, ⟨257, 3, 0⟩]

/-- The ranges of distances, the farthest first. -/
def distanceRanges : List Range := [
  ⟨29, 24577, 13⟩, ⟨28, 16385, 13⟩, ⟨27, 12289, 12⟩, ⟨26, 8193, 12⟩, ⟨25, 6145, 11⟩,
  ⟨24, 4097, 11⟩, ⟨23, 3073, 10⟩, ⟨22, 2049, 10⟩, ⟨21, 1537, 9⟩, ⟨20, 1025, 9⟩,
  ⟨19, 769, 8⟩, ⟨18, 513, 8⟩, ⟨17, 385, 7⟩, ⟨16, 257, 7⟩, ⟨15, 193, 6⟩, ⟨14, 129, 6⟩,
  ⟨13, 97, 5⟩, ⟨12, 65, 5⟩, ⟨11, 49, 4⟩, ⟨10, 33, 4⟩, ⟨9, 25, 3⟩, ⟨8, 17, 3⟩, ⟨7, 13, 2⟩,
  ⟨6, 9, 2⟩, ⟨5, 7, 1⟩, ⟨4, 5, 1⟩, ⟨3, 4, 0⟩, ⟨2, 3, 0⟩, ⟨1, 2, 0⟩, ⟨0, 1, 0⟩]

/-- The range of a value: the first one that does not begin above it. -/
def rangeOf (ranges : List Range) (n : Nat) : Range :=
  (ranges.find? (·.base ≤ n)).getD ⟨0, 0, 0⟩

/-- The symbol that ends a block. -/
def endOfBlock : Nat := 256

/-! ## The fixed code -/

/-- The lengths of the fixed code of literals and lengths. -/
def fixedLengths : List Nat :=
  List.replicate 144 8 ++ List.replicate 112 9 ++ List.replicate 24 7 ++ List.replicate 8 8

/-- The lengths of the fixed code of distances. -/
def fixedDistances : List Nat := List.replicate 30 5

/-- The words of the fixed code of literals and lengths. -/
def fixedLengthWords : Array Bits := (Huffman.words fixedLengths).toArray

/-- The words of the fixed code of distances. -/
def fixedDistanceWords : Array Bits := (Huffman.words fixedDistances).toArray

/-- A value as the word of its range and the offset within it. -/
def rangeBits (words : Array Bits) (ranges : List Range) (n : Nat) : Bits :=
  let r := rangeOf ranges n
  words.getD r.symbol [] ++ Bits.ofNat r.extra (n - r.base)

/-- The bits of a token. -/
def tokenBits : Token → Bits
  | .literal b => fixedLengthWords.getD b.toNat []
  | .copy length distance =>
    rangeBits fixedLengthWords lengthRanges length
      ++ rangeBits fixedDistanceWords distanceRanges distance

/-- What a final block in the fixed code begins with: that it is the last, and its kind. -/
def blockHeader : Bits := true :: Bits.ofNat 2 1

/-- The **stream of some tokens**: one final block in the fixed code. -/
def encode (tokens : List Token) : Bits :=
  blockHeader ++ tokens.flatMap tokenBits ++ fixedLengthWords.getD endOfBlock []

end StaticGzip.Gzip.Deflate
