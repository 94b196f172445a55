import StaticGzip.Proofs.Gzip.Block

/-! # What a block in the fixed code says

The format gives the fixed code by four rows of consecutive words, and the ranges of lengths and
distances by rules, so what a block says can be told without the writer's tables and without the
trees of the reader.

* **`Deflate.fixedWord`, `Deflate.lengthRange`, `Deflate.distanceRange`** — the rules of the format.
* **`Deflate.Describes`** — the data to which the symbols of a block continue some data.
* **`Deflate.exists_describes_encode`** — what is written for some tokens says what the tokens
  describe. -/

namespace StaticGzip.Gzip.Deflate

open Huffman (wordBits)

/-! ## The rules of the format -/

/-- The **word of a symbol** in the fixed code: four rows of consecutive words, of eight, nine,
seven and again eight bits. -/
def fixedWord (symbol : Nat) : Bits :=
  if symbol < 144 then wordBits 8 (0b00110000 + symbol)
  else if symbol < 256 then wordBits 9 (0b110010000 + (symbol - 144))
  else if symbol < 280 then wordBits 7 (symbol - 256)
  else wordBits 8 (0b11000000 + (symbol - 280))

/-- The **lengths of a symbol**. The first eight symbols have one length each, the ranges of the
others double in size with every fourth symbol, and the last symbol has the greatest length. -/
def lengthRange (symbol : Nat) : Range :=
  let k := symbol - 257
  let extra := k / 4 - 1
  if k < 8 then ⟨symbol, 3 + k, 0⟩
  else if k < 28 then ⟨symbol, 3 + (4 + k % 4) * 2 ^ extra, extra⟩
  else ⟨symbol, 258, 0⟩

/-- The **distances of a symbol**: after the first two, the ranges double in size with every second
symbol. -/
def distanceRange (symbol : Nat) : Range :=
  let extra := symbol / 2 - 1
  if symbol < 2 then ⟨symbol, 1 + symbol, 0⟩
  else ⟨symbol, 1 + (2 + symbol % 2) * 2 ^ extra, extra⟩

/-- The **data of a block** in the fixed code: symbol by symbol, the bits after the header of the
block continue the data that is already there, up to the end of the block. -/
inductive Describes : Bits → Array UInt8 → Array UInt8 → Prop where
  /-- The end of the block. -/
  | done (out : Array UInt8) : Describes (fixedWord 256) out out
  /-- A byte as it is. -/
  | literal {bits : Bits} {out out' : Array UInt8} (b : UInt8)
      (more : Describes bits (out.push b) out') : Describes (fixedWord b.toNat ++ bits) out out'
  /-- A copy of bytes that are there: its length and its distance are each a symbol and an offset in
  the range of the symbol, but the greatest length has a symbol of its own. -/
  | copy {bits : Bits} {out out' : Array UInt8} {length distance : Range}
    {lengthOffset distanceOffset : Nat}
    (isLength : ∃ symbol, 257 ≤ symbol ∧ symbol ≤ 285 ∧ length = lengthRange symbol)
    (inLength : lengthOffset < 2 ^ length.extra)
    (greatest : length.base + lengthOffset = 258 → length.symbol = 285)
    (isDistance : ∃ symbol < 30, distance = distanceRange symbol)
    (inDistance : distanceOffset < 2 ^ distance.extra)
    (there : distance.base + distanceOffset ≤ out.size)
    (more : Describes bits
      (Token.copyFrom (distance.base + distanceOffset) (length.base + lengthOffset) out) out') :
    Describes (fixedWord length.symbol ++ Bits.ofNat length.extra lengthOffset
      ++ wordBits 5 distance.symbol ++ Bits.ofNat distance.extra distanceOffset ++ bits) out out'

/-! ## The tables of the writer -/

/-- The words of literals and lengths are **those of the format**. -/
theorem words_fixedLengths : Huffman.words fixedLengths = (List.range 288).map fixedWord := by
  decide +kernel

/-- The words of distances count upwards. -/
theorem words_fixedDistances : Huffman.words fixedDistances = (List.range 30).map (wordBits 5) := by
  decide +kernel

theorem getD_fixedLengthWords {symbol : Nat} (h : symbol < 288) :
    fixedLengthWords.getD symbol [] = fixedWord symbol := by
  rw [fixedLengthWords, words_fixedLengths]
  simp [Array.getD_eq_getD_getElem?, h]

theorem getD_fixedDistanceWords {symbol : Nat} (h : symbol < 30) :
    fixedDistanceWords.getD symbol [] = wordBits 5 symbol := by
  rw [fixedDistanceWords, words_fixedDistances]
  simp [Array.getD_eq_getD_getElem?, h]

/-- The ranges of lengths are **those of the format**. -/
theorem eq_lengthRange :
    ∀ r ∈ lengthRanges, 257 ≤ r.symbol ∧ r.symbol ≤ 285 ∧ r = lengthRange r.symbol := by
  decide

/-- The ranges of distances are **those of the format**. -/
theorem eq_distanceRange : ∀ r ∈ distanceRanges, r.symbol < 30 ∧ r = distanceRange r.symbol := by
  decide

/-! ## What is written -/

/-- **A token that can be written** is one symbol of a block, or two. -/
theorem Describes.token {t : Token} {bits : Bits} {out next out' : Array UInt8}
    (writable : t.IsWritable) (emitted : t.emit? out = some next)
    (more : Describes bits next out') : Describes (tokenBits t ++ bits) out out' := by
  cases t with
  | literal b =>
    obtain rfl := Option.some.inj emitted
    have small : b.toNat < 256 := b.toNat_lt
    rw [tokenBits, getD_fixedLengthWords (by omega)]
    exact .literal b more
  | copy length distance =>
    obtain ⟨notShort, notLong, positive, near⟩ := writable
    obtain ⟨isLength, lengthFrom, lengthTo⟩ :=
      rangeOf_spec covers_lengthRanges notShort (Nat.lt_succ_of_le notLong)
    obtain ⟨isDistance, distanceFrom, distanceTo⟩ :=
      rangeOf_spec covers_distanceRanges positive (Nat.lt_succ_of_le near)
    obtain ⟨first, last, sameLength⟩ := eq_lengthRange _ isLength
    obtain ⟨known, sameDistance⟩ := eq_distanceRange _ isDistance
    have greatest : length = 258 → (rangeOf lengthRanges length).symbol = 285 := by
      rintro rfl
      decide
    rw [tokenBits, rangeBits, rangeBits, getD_fixedLengthWords (by omega),
      getD_fixedDistanceWords known]
    generalize rangeOf lengthRanges length = r at *
    generalize rangeOf distanceRanges distance = s at *
    -- An offset is the distance of the value from the least one of its range.
    obtain ⟨i, rfl⟩ := Nat.exists_eq_add_of_le lengthFrom
    obtain ⟨j, rfl⟩ := Nat.exists_eq_add_of_le distanceFrom
    simp only [Token.emit?] at emitted
    split at emitted
    · rename_i there
      obtain rfl := Option.some.inj emitted
      rw [Nat.add_sub_cancel_left, Nat.add_sub_cancel_left, ← List.append_assoc]
      exact .copy ⟨_, first, last, sameLength⟩ (by omega) greatest ⟨_, known, sameDistance⟩
        (by omega) there.2 more
    · simp at emitted

/-- What is written for **some tokens** and the end of a block says what the tokens describe. -/
theorem describes_tokens {tokens : List Token} {out out' : Array UInt8}
    (writable : ∀ t ∈ tokens, t.IsWritable)
    (described : tokens.foldlM Token.emit? out = some out') :
    Describes (tokens.flatMap tokenBits ++ fixedLengthWords.getD endOfBlock []) out out' := by
  induction tokens generalizing out with
  | nil =>
    obtain rfl := Option.some.inj described
    rw [List.flatMap_nil, List.nil_append, getD_fixedLengthWords (by decide)]
    exact .done out
  | cons t tokens ih =>
    rw [List.foldlM_cons] at described
    obtain ⟨next, emitted, described⟩ := Option.bind_eq_some_iff.mp described
    rw [List.flatMap_cons, List.append_assoc]
    exact (ih (fun t ht => writable t (List.mem_cons_of_mem _ ht)) described).token
      (writable t List.mem_cons_self) emitted

/-- **One final block** in the fixed code is written, and it says what the tokens describe. -/
theorem exists_describes_encode {tokens : List Token} {out : Array UInt8}
    (writable : ∀ t ∈ tokens, t.IsWritable) (described : Token.expand tokens = some out) :
    ∃ bits, encode tokens = true :: true :: false :: bits ∧ Describes bits #[] out :=
  ⟨_, by rw [encode, List.append_assoc]; rfl, describes_tokens writable described⟩

end StaticGzip.Gzip.Deflate
