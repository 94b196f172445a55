import StaticGzip.Gzip.Inflate
import StaticGzip.Proofs.Gzip.CanonicalCode
import StaticGzip.Proofs.Gzip.Tokens

/-! # A block in the fixed code is read back

The writer puts all tokens into one final block in the fixed code. Every literal and every range
has a word of its own there, and every length and every distance lies in the range that is written
for it, so the reader finds the same tokens and emits what they describe.

* **`Deflate.rangeValue?_ofNat`** — a length or distance in its range is read back.
* **`Inflate.symbols?_tokenBits`** — a token is read back and emitted.
* **`Inflate.stream?_encode`** — a stream of tokens is read back as what the tokens describe. -/

namespace StaticGzip.Gzip

/-! ## Words of the fixed code -/

/-- In a code in which all symbols are used, the tree reads the word of each. -/
theorem Huffman.Tree.next?_getD_words {lengths : List Nat} {t : Tree} {k : Nat}
    (code : ofLengths? lengths = some t) (feasible : isFeasible lengths = true)
    (used : ∀ n ∈ lengths, n ≠ 0) (hk : k < lengths.length) (more : Bits) :
    t.next? ((words lengths).toArray.getD k [] ++ more) = some (k, more) := by
  have word := getElem?_words feasible (List.getElem?_eq_getElem hk)
  have written : (words lengths).toArray.getD k []
      = wordBits lengths[k] (wordNumber lengths lengths[k] k) := by
    rw [Array.getD_eq_getD_getElem?, List.getElem?_toArray, word, Option.getD_some]
  rw [written]
  refine next?_word code word ?_ more
  -- The word is as long as its length says, so it is not empty.
  intro empty
  have length := congrArg List.length empty
  rw [length_wordBits] at length
  exact used _ (List.getElem_mem hk) length

namespace Deflate

/-- There is a code of literals and lengths with the fixed lengths. -/
theorem isFeasible_fixedLengths : Huffman.isFeasible fixedLengths = true := by decide +kernel

/-- There is a code of distances with the fixed lengths. -/
theorem isFeasible_fixedDistances : Huffman.isFeasible fixedDistances = true := by decide +kernel

/-- All literals and lengths are used in the fixed code. -/
theorem ne_zero_of_mem_fixedLengths : ∀ n ∈ fixedLengths, n ≠ 0 := by
  decide +kernel

/-- All distances are used in the fixed code. -/
theorem ne_zero_of_mem_fixedDistances : ∀ n ∈ fixedDistances, n ≠ 0 := by
  decide +kernel

/-- The **word of a literal or length** in the fixed code is read back. -/
theorem next?_fixedLengthWords {symbol : Nat} (h : symbol < 288) (more : Bits) :
    Inflate.fixedLiterals.next? (fixedLengthWords.getD symbol [] ++ more)
      = some (symbol, more) := by
  have code : Huffman.Tree.ofLengths? fixedLengths = some Inflate.fixedLiterals := by
    rw [Inflate.fixedLiterals, Huffman.Tree.ofLengths?, if_pos isFeasible_fixedLengths,
      Option.getD_some]
  refine Huffman.Tree.next?_getD_words code isFeasible_fixedLengths ne_zero_of_mem_fixedLengths
    (Nat.lt_of_lt_of_eq h ?_) more
  decide +kernel

/-- The **word of a distance** in the fixed code is read back. -/
theorem next?_fixedDistanceWords {symbol : Nat} (h : symbol < 30) (more : Bits) :
    Inflate.fixedDistances.next? (fixedDistanceWords.getD symbol [] ++ more)
      = some (symbol, more) := by
  have code : Huffman.Tree.ofLengths? fixedDistances = some Inflate.fixedDistances := by
    rw [Inflate.fixedDistances, Huffman.Tree.ofLengths?, if_pos isFeasible_fixedDistances,
      Option.getD_some]
  refine Huffman.Tree.next?_getD_words code isFeasible_fixedDistances
    ne_zero_of_mem_fixedDistances (Nat.lt_of_lt_of_eq h ?_) more
  decide +kernel

/-! ## Ranges -/

/-- Ranges, the greatest first, that **cover** the values from a least one up to below a limit:
each reaches at least to where the one before it begins. -/
def covers (least limit : Nat) : List Range → Bool
  | [] => limit ≤ least
  | r :: ranges => limit ≤ r.base + 2 ^ r.extra && covers least r.base ranges

/-- A value that is covered lies in its range. -/
theorem rangeOf_spec {least limit n : Nat} {ranges : List Range}
    (covered : covers least limit ranges = true) (hl : least ≤ n) (hn : n < limit) :
    rangeOf ranges n ∈ ranges ∧ (rangeOf ranges n).base ≤ n ∧
      n < (rangeOf ranges n).base + 2 ^ (rangeOf ranges n).extra := by
  induction ranges generalizing limit with
  | nil =>
    have empty : limit ≤ least := of_decide_eq_true covered
    omega
  | cons r ranges ih =>
    simp only [covers, Bool.and_eq_true, decide_eq_true_eq] at covered
    unfold rangeOf
    -- The first range that does not begin above the value ends above it too, since it reaches up to
    -- where the range before it begins.
    by_cases here : r.base ≤ n
    · rw [List.find?_cons_of_pos (by simpa using here)]
      exact ⟨List.mem_cons_self, here, Nat.lt_of_lt_of_le hn covered.1⟩
    · rw [List.find?_cons_of_neg (by simpa using here)]
      obtain ⟨listed, range⟩ := ih covered.2 (Nat.not_le.mp here)
      exact ⟨List.mem_cons_of_mem _ listed, range⟩

/-- A **value in its range** is read back from the offset within it. -/
theorem rangeValue?_ofNat {least limit n : Nat} {ranges : List Range}
    (covered : covers least limit ranges = true)
    (distinct : ∀ r ∈ ranges, ranges.find? (·.symbol == r.symbol) = some r)
    (hl : least ≤ n) (hn : n < limit) (more : Bits) :
    Inflate.rangeValue? ranges (rangeOf ranges n).symbol
        (Bits.ofNat (rangeOf ranges n).extra (n - (rangeOf ranges n).base) ++ more)
      = some (n, more) := by
  obtain ⟨listed, begins, ends⟩ := rangeOf_spec covered hl hn
  -- The offset fits into the bits of the range.
  have offset : n - (rangeOf ranges n).base < 2 ^ (rangeOf ranges n).extra := by omega
  have value : (rangeOf ranges n).base + (n - (rangeOf ranges n).base) = n := by omega
  rw [Inflate.rangeValue?, distinct _ listed]
  simp only [Option.bind_eq_bind, Option.bind_some, Bits.take?_ofNat_append,
    Nat.mod_eq_of_lt offset, value]

/-- The ranges of lengths cover all lengths of copies. -/
theorem covers_lengthRanges : covers Token.minLength (Token.maxLength + 1) lengthRanges = true := by
  decide

/-- The ranges of distances cover all distances of copies. -/
theorem covers_distanceRanges : covers 1 (Token.maxDistance + 1) distanceRanges = true := by
  decide

/-- No symbol stands for two ranges of lengths. -/
theorem find?_lengthRanges :
    ∀ r ∈ lengthRanges, lengthRanges.find? (·.symbol == r.symbol) = some r := by
  decide

/-- No symbol stands for two ranges of distances. -/
theorem find?_distanceRanges :
    ∀ r ∈ distanceRanges, distanceRanges.find? (·.symbol == r.symbol) = some r := by
  decide

/-- Ranges of lengths have symbols after the end of a block. -/
theorem symbol_of_mem_lengthRanges :
    ∀ r ∈ lengthRanges, endOfBlock < r.symbol ∧ r.symbol < 288 := by
  decide

/-- Ranges of distances have symbols of the fixed code. -/
theorem symbol_of_mem_distanceRanges : ∀ r ∈ distanceRanges, r.symbol < 30 := by
  decide

end Deflate

namespace Inflate

open Huffman (Tree)
open Deflate (tokenBits fixedLengthWords)

variable {literals distances : Tree} {symbol : Nat} {bits rest more : Bits} {out : Array UInt8}

/-! ## One symbol -/

/-- A block whose next symbol is known: the symbol says whether a byte, nothing or a copy is
added. -/
theorem symbols?_of_next (read : literals.next? bits = some (symbol, rest)) :
    symbols? literals distances bits out =
      if symbol < 256 then symbols? literals distances rest (out.push (UInt8.ofNat symbol))
      else if symbol = Deflate.endOfBlock then some (out, rest)
      else (copy? distances symbol rest).bind fun (token, rest) =>
        (token.emit? out).bind fun out => symbols? literals distances rest out := by
  rw [symbols?]
  split
  · rename_i nothing
    rw [read] at nothing
    exact absurd nothing (by simp)
  · rename_i s r next
    rw [read] at next
    obtain ⟨rfl, rfl⟩ := Prod.mk.inj (Option.some.inj next)
    congr 2
    split
    · rename_i nothing
      rw [nothing]
      rfl
    · rename_i token rest copied
      simp only [copied, Option.bind_some]
      cases token.emit? out with
      | none => rfl
      | some out => rfl

/-- A literal is one byte more. -/
theorem symbols?_of_literal (read : literals.next? bits = some (symbol, rest))
    (byte : symbol < 256) :
    symbols? literals distances bits out
      = symbols? literals distances rest (out.push (UInt8.ofNat symbol)) := by
  rw [symbols?_of_next read, if_pos byte]

/-- At the end of a block nothing is added. -/
theorem symbols?_of_end (read : literals.next? bits = some (Deflate.endOfBlock, rest)) :
    symbols? literals distances bits out = some (out, rest) := by
  rw [symbols?_of_next read, if_neg (by decide), if_pos rfl]

/-- A copy is emitted. -/
theorem symbols?_of_copy {t : Token} {out' : Array UInt8}
    (read : literals.next? bits = some (symbol, rest)) (copy : Deflate.endOfBlock < symbol)
    (token : copy? distances symbol rest = some (t, more)) (emitted : t.emit? out = some out') :
    symbols? literals distances bits out = symbols? literals distances more out' := by
  have big : ¬ symbol < 256 := Nat.not_lt.mpr (Nat.le_of_lt copy)
  rw [symbols?_of_next read, if_neg big, if_neg (Nat.ne_of_gt copy), token]
  simp only [Option.bind_some, emitted]

/-! ## Tokens -/

/-- **A token that can be written** is read back from the fixed code and emitted. -/
theorem symbols?_tokenBits {t : Token} {out' : Array UInt8} (writable : t.IsWritable)
    (emitted : t.emit? out = some out') (more : Bits) :
    symbols? fixedLiterals fixedDistances (tokenBits t ++ more) out
      = symbols? fixedLiterals fixedDistances more out' := by
  cases t with
  | literal b =>
    have small : b.toNat < 256 := b.toNat_lt
    have read := Deflate.next?_fixedLengthWords (Nat.lt_trans small (by decide)) more
    rw [tokenBits, symbols?_of_literal read small, UInt8.ofNat_toNat]
    exact congrArg _ (Option.some.inj emitted)
  | copy length distance =>
    obtain ⟨notShort, notLong, positive, near⟩ := writable
    have lengthIn := Deflate.rangeOf_spec Deflate.covers_lengthRanges notShort
      (Nat.lt_succ_of_le notLong)
    have distanceIn := Deflate.rangeOf_spec Deflate.covers_distanceRanges positive
      (Nat.lt_succ_of_le near)
    obtain ⟨copy, known⟩ := Deflate.symbol_of_mem_lengthRanges _ lengthIn.1
    have knownDistance := Deflate.symbol_of_mem_distanceRanges _ distanceIn.1
    rw [tokenBits, Deflate.rangeBits, Deflate.rangeBits]
    simp only [List.append_assoc]
    -- After the symbol of the length come its offset, the symbol of the distance, and its offset.
    refine symbols?_of_copy (Deflate.next?_fixedLengthWords known _) copy ?_ emitted
    rw [copy?, Deflate.rangeValue?_ofNat Deflate.covers_lengthRanges Deflate.find?_lengthRanges
      notShort (Nat.lt_succ_of_le notLong)]
    simp only [Option.bind_eq_bind, Option.bind_some]
    rw [Deflate.next?_fixedDistanceWords knownDistance]
    simp only [Option.bind_some]
    rw [Deflate.rangeValue?_ofNat Deflate.covers_distanceRanges Deflate.find?_distanceRanges
      positive (Nat.lt_succ_of_le near)]
    rfl

/-- **Tokens that can be written** are read back from a block, and what they describe is added. -/
theorem symbols?_tokens {tokens : List Token} {out' : Array UInt8}
    (writable : ∀ t ∈ tokens, t.IsWritable) (described : tokens.foldlM Token.emit? out = some out')
    (more : Bits) :
    symbols? fixedLiterals fixedDistances
        (tokens.flatMap tokenBits ++ (fixedLengthWords.getD Deflate.endOfBlock [] ++ more)) out
      = some (out', more) := by
  induction tokens generalizing out with
  | nil =>
    obtain rfl := Option.some.inj described
    have read : fixedLiterals.next? (fixedLengthWords.getD Deflate.endOfBlock [] ++ more)
        = some (Deflate.endOfBlock, more) := Deflate.next?_fixedLengthWords (by decide) more
    rw [List.flatMap_nil, List.nil_append, symbols?_of_end read]
  | cons t tokens ih =>
    rw [List.foldlM_cons] at described
    obtain ⟨next, emitted, described⟩ := Option.bind_eq_some_iff.mp described
    rw [List.flatMap_cons, List.append_assoc,
      symbols?_tokenBits (writable t List.mem_cons_self) emitted]
    exact ih (fun t ht => writable t (List.mem_cons_of_mem _ ht)) described

/-! ## The whole stream -/

/-- A final block in the fixed code is the last one. -/
theorem blocks?_blockHeader {progress : Progress} (fuel : Nat)
    (block : symbols? fixedLiterals fixedDistances bits out = some progress) :
    blocks? (fuel + 1) (Deflate.blockHeader ++ bits) out = some progress := by
  have header : Deflate.blockHeader ++ bits = Bits.ofNat 1 1 ++ (Bits.ofNat 2 1 ++ bits) := rfl
  rw [header, blocks?]
  simp only [Bits.take?_ofNat_append, Option.bind_eq_bind, Option.bind_some]
  -- The header says that the block is the last one and that its code is the fixed one.
  have fixed : block? (1 % 2 ^ 2) bits out = some progress := block
  rw [fixed]
  rfl

/-- **A stream of tokens** is read back as what the tokens describe, and the reader stops where
the stream ends. -/
theorem stream?_encode {tokens : List Token} (writable : ∀ t ∈ tokens, t.IsWritable)
    (described : Token.expand tokens = some out) (more : Bits) :
    stream? (Deflate.encode tokens ++ more) = some (out, more) := by
  have block := symbols?_tokens writable described more
  rw [stream?, Deflate.encode, List.append_assoc, List.append_assoc]
  -- There are bits, so the reader may read a block.
  have positive : 0 < (Deflate.blockHeader ++ (tokens.flatMap tokenBits
      ++ (fixedLengthWords.getD Deflate.endOfBlock [] ++ more))).length :=
    Nat.lt_of_lt_of_le (by decide : 0 < Deflate.blockHeader.length)
      (List.prefix_append _ _).length_le
  obtain ⟨fuel, length⟩ := Nat.exists_eq_add_one.mpr positive
  rw [length]
  exact blocks?_blockHeader fuel block

end Inflate

end StaticGzip.Gzip
