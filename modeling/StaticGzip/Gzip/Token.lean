import StaticGzip.Gzip.Bits

/-! # Literals and copies

Data is described by tokens: a byte as it is, or a stretch of bytes that stood a given distance
before.

* **`Token.expand`** — the data that some tokens describe.
* **`Token.ofData`** — tokens for some data, with a copy wherever the last occurrence of the next
  three bytes starts a stretch that can be copied. The table of occurrences only proposes a place;
  every copied byte is compared. -/

namespace StaticGzip.Gzip

/-- A **token**. -/
inductive Token where
  | literal (byte : UInt8)
  | copy (length distance : Nat)
deriving DecidableEq, Repr

namespace Token

/-- The shortest stretch that is copied. -/
def minLength : Nat := 3

/-- The longest stretch that is copied. -/
def maxLength : Nat := 258

/-- The largest distance of a copy. -/
def maxDistance : Nat := 32768

/-! ## The data of some tokens -/

/-- The output after copying bytes one by one from a distance before its end. A copy may reach
into what it writes itself. -/
def copyFrom (distance : Nat) : Nat → Array UInt8 → Array UInt8
  | 0, out => out
  | length + 1, out => copyFrom distance length (out.push (out.getD (out.size - distance) 0))

/-- The output after one more token; a copy must not reach before the start. -/
def emit? (out : Array UInt8) : Token → Option (Array UInt8)
  | literal b => some (out.push b)
  | copy length distance =>
    if 0 < distance ∧ distance ≤ out.size then some (copyFrom distance length out) else none

/-- The **data of some tokens**. -/
def expand (tokens : List Token) : Option (Array UInt8) := tokens.foldlM emit? #[]

/-! ## Tokens for some data -/

/-- The number of equal bytes from two places on, at most `limit`. -/
def matchLength (data : ByteArray) (i j : Nat) : Nat → Nat
  | 0 => 0
  | limit + 1 =>
    if h : i < data.size ∧ j < data.size then
      if data.get i h.1 = data.get j h.2 then matchLength data (i + 1) (j + 1) limit + 1 else 0
    else 0

/-- The number of places in the table of occurrences. -/
def tableSize : Nat := 32768

/-- The byte at a position, or zero after the end. -/
def byteAt (data : ByteArray) (i : Nat) : Nat :=
  if h : i < data.size then (data.get i h).toNat else 0

/-- The place of three bytes in the table of occurrences. -/
def place (data : ByteArray) (i : Nat) : Nat :=
  (byteAt data i * 1024 + byteAt data (i + 1) * 32 + byteAt data (i + 2)) * 40503 / 16
    % tableSize

/-- The table of occurrences after noting `n` positions from `i` on. Position `i` is kept as
`i + 1`, so that zero says that there is none. -/
def note (data : ByteArray) (table : Array Nat) (i : Nat) : Nat → Array Nat
  | 0 => table
  | n + 1 => note data (table.setIfInBounds (place data i) (i + 1)) (i + 1) n

/-- The position that the table proposes as the source of a copy to position `i`, if it is near
enough. -/
def source? (data : ByteArray) (table : Array Nat) (i : Nat) : Option Nat :=
  match table.getD (place data i) 0 with
  | 0 => none
  | j + 1 => if j < i ∧ i - j ≤ maxDistance then some j else none

/-- The token for position `i`: a copy from the proposed source if it is long enough, and else the
byte itself. -/
def next (data : ByteArray) (source : Option Nat) (i : Nat) (b : UInt8) : Token :=
  match source with
  | none => literal b
  | some j =>
    let length := matchLength data i j maxLength
    if minLength ≤ length then copy length (i - j) else literal b

/-- The number of bytes that a token stands for. -/
def size : Token → Nat
  | literal _ => 1
  | copy length _ => length

/-- No token that is chosen is empty. -/
theorem size_next_pos (data : ByteArray) (source : Option Nat) (i : Nat) (b : UInt8) :
    0 < (next data source i b).size := by
  unfold next
  split
  · exact Nat.one_pos
  · rename_i j
    by_cases h : minLength ≤ matchLength data i j maxLength
    · simp only [h, if_true, size]
      exact Nat.lt_of_lt_of_le (by decide) h
    · simp only [h, if_false, size]
      exact Nat.one_pos

/-- The tokens for the data from position `i` on, after those that are already there. -/
def scan (data : ByteArray) (i : Nat) (table : Array Nat) (tokens : Array Token) :
    Array Token :=
  if h : i < data.size then
    let t := next data (source? data table i) i data[i]
    have := size_next_pos data (source? data table i) i data[i]
    scan data (i + t.size) (note data table i t.size) (tokens.push t)
  else tokens
termination_by data.size - i

/-- The **tokens for some data**. -/
def ofData (data : ByteArray) : List Token :=
  (scan data 0 (Array.replicate tableSize 0) #[]).toList

end Token

end StaticGzip.Gzip
