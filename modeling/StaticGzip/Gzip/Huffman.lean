import StaticGzip.Gzip.Bits

/-! # Canonical codes

A code gives some symbols a word of bits each, no word the start of another. The words follow from
their lengths alone: shorter words come first, words of one length count upwards in the order of
the symbols.

* **`Huffman.words`** — the words of a list of lengths.
* **`Huffman.Tree.ofLengths?`** — the tree that reads them, unless the lengths allow no code.
* **`Huffman.Tree.next?`** — the symbol at the start of a stream. -/

namespace StaticGzip.Gzip.Huffman

/-! ## Words -/

/-- The longest word. -/
def maxLength : Nat := 15

/-- How many symbols have a word of a given length; no symbol has one of length zero. -/
def count (lengths : List Nat) (length : Nat) : Nat :=
  if length = 0 then 0 else lengths.count length

/-- The least word of a given length, as a number. -/
def firstWord (lengths : List Nat) : Nat → Nat
  | 0 => 0
  | length + 1 => 2 * (firstWord lengths length + count lengths length)

/-- A number as a word, its most significant bit first. -/
def wordBits (length n : Nat) : Bits := (Bits.ofNat length n).reverse

/-- The words of the symbols in order, from the next free word of each length. -/
def wordsFrom (next : Array Nat) : List Nat → List Bits
  | [] => []
  | 0 :: lengths => [] :: wordsFrom next lengths
  | length :: lengths =>
    let n := next.getD length 0
    wordBits length n :: wordsFrom (next.setIfInBounds length (n + 1)) lengths

/-- The **words of a code**, one for each symbol; a symbol of length zero has the empty word and
is never written. -/
def words (lengths : List Nat) : List Bits :=
  wordsFrom ((List.range (maxLength + 1)).map (firstWord lengths)).toArray lengths

/-- Whether there are words of these lengths, no word the start of another. -/
def isFeasible (lengths : List Nat) : Bool :=
  let share (n : Nat) : Nat := if n = 0 then 0 else 1 <<< (maxLength - n)
  lengths.all (· ≤ maxLength) && lengths.foldr (share · + ·) 0 ≤ 1 <<< maxLength

/-! ## Reading -/

/-- A **code tree**: a symbol at the end of its word. -/
inductive Tree where
  | empty
  | leaf (symbol : Nat)
  | node (zero one : Tree)
deriving Repr

namespace Tree

/-- The tree with one more word. -/
def insert (symbol : Nat) : Bits → Tree → Tree
  | [], _ => leaf symbol
  | b :: word, t =>
    let (zero, one) := match t with
      | node zero one => (zero, one)
      | _ => (empty, empty)
    if b then node zero (insert symbol word one) else node (insert symbol word zero) one

/-- The symbol reached from a tree by the bits of a stream, and the rest of the stream. -/
def follow? : Tree → Bits → Option (Nat × Bits)
  | leaf symbol, bits => some (symbol, bits)
  | node zero one, b :: bits => follow? (if b then one else zero) bits
  | _, _ => none

/-- The **next symbol** of a stream and the rest of the stream. At least one bit is read. -/
def next? : Tree → Bits → Option (Nat × Bits)
  | node zero one, b :: bits => follow? (if b then one else zero) bits
  | _, _ => none

/-- Following a tree never lengthens the stream. -/
theorem length_le_of_follow? {t : Tree} {bits rest : Bits} {symbol : Nat}
    (h : t.follow? bits = some (symbol, rest)) : rest.length ≤ bits.length := by
  fun_induction follow? t bits with
  | case1 => simp_all
  | case2 zero one b bits ih => exact Nat.le_succ_of_le (ih h)
  | case3 => simp at h

/-- Reading a symbol shortens the stream. -/
theorem length_lt_of_next? {t : Tree} {bits rest : Bits} {symbol : Nat}
    (h : t.next? bits = some (symbol, rest)) : rest.length < bits.length := by
  unfold next? at h
  split at h
  · exact Nat.lt_succ_of_le (length_le_of_follow? h)
  · simp at h

/-- The tree of some words for the symbols from `first` on. -/
def ofWords (first : Nat) : List Bits → Tree → Tree
  | [], t => t
  | [] :: words, t => ofWords (first + 1) words t
  | word :: words, t => ofWords (first + 1) words (t.insert first word)

/-- The **tree of a code** with given lengths, if there is such a code. -/
def ofLengths? (lengths : List Nat) : Option Tree :=
  if isFeasible lengths then some (ofWords 0 (words lengths) empty) else none

end Tree

end StaticGzip.Gzip.Huffman
