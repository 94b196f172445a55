import StaticGzip.Gzip.Deflate

/-! # Deflate streams: reading

A stream is a sequence of blocks up to one that says it is the last. A block is stored, in the
fixed code, or in a code whose lengths it brings along. All three kinds are read, whichever of them
the writer of this library uses.

* **`Inflate.symbols?`** — the data of one block, symbol by symbol.
* **`Inflate.stream?`** — the data of a stream and what follows it. -/

namespace StaticGzip.Gzip.Inflate

open Huffman (Tree)
open Deflate (Range)

/-- The output so far and the rest of the stream. -/
abbrev Progress := Array UInt8 × Bits

/-! ## Symbols -/

/-- The value of a symbol that stands for a range, its offset read from the stream. -/
def rangeValue? (ranges : List Range) (symbol : Nat) (bits : Bits) : Option (Nat × Bits) := do
  let r ← ranges.find? (·.symbol == symbol)
  let (offset, rest) ← bits.take? r.extra
  some (r.base + offset, rest)

/-- A range's value never lengthens the stream. -/
theorem length_le_of_rangeValue? {ranges : List Range} {symbol n : Nat} {bits rest : Bits}
    (h : rangeValue? ranges symbol bits = some (n, rest)) : rest.length ≤ bits.length := by
  simp only [rangeValue?, Option.bind_eq_bind, Option.bind_eq_some_iff] at h
  obtain ⟨r, -, ⟨offset, rest'⟩, taken, eq⟩ := h
  obtain ⟨-, rfl⟩ := Prod.mk.inj (Option.some.inj eq)
  exact Bits.length_le_of_take? taken

/-- The copy that a length symbol begins, and the rest of the stream. -/
def copy? (distances : Tree) (symbol : Nat) (bits : Bits) : Option (Token × Bits) := do
  let (length, bits) ← rangeValue? Deflate.lengthRanges symbol bits
  let (symbol, bits) ← distances.next? bits
  let (distance, bits) ← rangeValue? Deflate.distanceRanges symbol bits
  some (.copy length distance, bits)

/-- Reading a copy never lengthens the stream. -/
theorem length_le_of_copy? {distances : Tree} {symbol : Nat} {bits rest : Bits} {t : Token}
    (h : copy? distances symbol bits = some (t, rest)) : rest.length ≤ bits.length := by
  simp only [copy?, Option.bind_eq_bind, Option.bind_eq_some_iff] at h
  obtain ⟨⟨length, b₁⟩, h₁, ⟨s, b₂⟩, h₂, ⟨distance, b₃⟩, h₃, eq⟩ := h
  obtain ⟨-, rfl⟩ := Prod.mk.inj (Option.some.inj eq)
  exact Nat.le_trans (length_le_of_rangeValue? h₃)
    (Nat.le_trans (Nat.le_of_lt (Huffman.Tree.length_lt_of_next? h₂))
      (length_le_of_rangeValue? h₁))

/-- The data of a block, **symbol by symbol** up to its end. -/
def symbols? (literals distances : Tree) (bits : Bits) (out : Array UInt8) : Option Progress :=
  match h : literals.next? bits with
  | none => none
  | some (symbol, rest) =>
    have := Huffman.Tree.length_lt_of_next? h
    if symbol < 256 then symbols? literals distances rest (out.push (UInt8.ofNat symbol))
    else if symbol = Deflate.endOfBlock then some (out, rest)
    else
      match hc : copy? distances symbol rest with
      | none => none
      | some (token, rest') =>
        have := length_le_of_copy? hc
        match token.emit? out with
        | none => none
        | some out => symbols? literals distances rest' out
termination_by bits.length

/-! ## Blocks -/

/-- The tree of the fixed code of literals and lengths. -/
def fixedLiterals : Tree := (Tree.ofLengths? Deflate.fixedLengths).getD .empty

/-- The tree of the fixed code of distances. -/
def fixedDistances : Tree := (Tree.ofLengths? Deflate.fixedDistances).getD .empty

/-- The stream from the next whole byte on; what is left to read of a stream of whole bytes tells
how far that is. -/
def align (bits : Bits) : Bits := bits.drop (bits.length % 8)

/-- So many bytes of a stream. -/
def bytes? : Nat → Bits → Array UInt8 → Option Progress
  | 0, bits, out => some (out, bits)
  | n + 1, bits, out =>
    match bits.take? 8 with
    | some (b, rest) => bytes? n rest (out.push (UInt8.ofNat b))
    | none => none

/-- A stored block: its length, the complement of the length, and its bytes. -/
def stored? (bits : Bits) (out : Array UInt8) : Option Progress := do
  let (length, bits) ← (align bits).take? 16
  let (complement, bits) ← bits.take? 16
  if length + complement = 65535 then bytes? length bits out else none

/-- The order in which the lengths of the code of lengths are written. -/
def lengthOrder : List Nat :=
  [16, 17, 18, 0, 8, 7, 9, 6, 10, 5, 11, 4, 12, 3, 13, 2, 14, 1, 15]

/-- The lengths of the code of lengths, of which the first `n` in their order are written. -/
def lengthCode? (n : Nat) (bits : Bits) : Option (List Nat × Bits) := do
  let (written, bits) ← (lengthOrder.take n).foldlM
    (fun (written, bits) symbol => do
      let (length, bits) ← Bits.take? 3 bits
      some ((symbol, length) :: written, bits))
    (([], bits) : List (Nat × Nat) × Bits)
  some ((List.range 19).map fun symbol => (written.lookup symbol).getD 0, bits)

/-- How often which length follows, as a symbol of the code of lengths says. Three symbols repeat
the last length or zero. -/
def run? (symbol : Nat) (backward : List Nat) (bits : Bits) : Option (Nat × Nat × Bits) :=
  match symbol with
  | 16 => do
    let last ← backward.head?
    let (more, bits) ← bits.take? 2
    some (3 + more, last, bits)
  | 17 => do
    let (more, bits) ← bits.take? 3
    some (3 + more, 0, bits)
  | 18 => do
    let (more, bits) ← bits.take? 7
    some (11 + more, 0, bits)
  | length => some (1, length, bits)

/-- The lengths of a code, `missing` of them after those already there, which come last one
first. -/
def lengths? (code : Tree) (missing : Nat) (bits : Bits) (backward : List Nat) :
    Option (List Nat × Bits) :=
  if missing = 0 then some (backward.reverse, bits)
  else do
    let (symbol, bits) ← code.next? bits
    let (n, length, bits) ← run? symbol backward bits
    if _h : 0 < n ∧ n ≤ missing then
      lengths? code (missing - n) bits (List.replicate n length ++ backward)
    else none
termination_by missing

/-- A block that brings its codes along. -/
def dynamic? (bits : Bits) (out : Array UInt8) : Option Progress := do
  let (more, bits) ← bits.take? 5
  let (moreDistances, bits) ← bits.take? 5
  let (moreLengths, bits) ← bits.take? 4
  let (lengths, bits) ← lengthCode? (4 + moreLengths) bits
  let code ← Tree.ofLengths? lengths
  let (lengths, bits) ← lengths? code (257 + more + (1 + moreDistances)) bits []
  let literals ← Tree.ofLengths? (lengths.take (257 + more))
  let distances ← Tree.ofLengths? (lengths.drop (257 + more))
  symbols? literals distances bits out

/-- A block of a given kind. -/
def block? (kind : Nat) (bits : Bits) (out : Array UInt8) : Option Progress :=
  match kind with
  | 0 => stored? bits out
  | 1 => symbols? fixedLiterals fixedDistances bits out
  | 2 => dynamic? bits out
  | _ => none

/-- The blocks of a stream, at most `fuel` of them. -/
def blocks? : Nat → Bits → Array UInt8 → Option Progress
  | 0, _, _ => none
  | fuel + 1, bits, out => do
    let (final, bits) ← bits.take? 1
    let (kind, bits) ← bits.take? 2
    let (out, bits) ← block? kind bits out
    if final = 1 then some (out, bits) else blocks? fuel bits out

/-- The **data of a stream**, and what follows the stream. Each block takes bits of its own, so
there are no more blocks than bits. -/
def stream? (bits : Bits) : Option Progress := blocks? bits.length bits #[]

end StaticGzip.Gzip.Inflate
