import StaticGzip.Http.Header

/-! # Reading from a stream

Bytes arrive a few at a time. A scanner reads a value from those that have arrived; it also tells
when they are too few, and when no value can come of them whatever follows.

* **`Scanner`** — such a reading, and how one follows another.
* **`Scanner.span`** — the bytes of one class.
* **`Scanner.lineEnd`** — the end of a line. -/

namespace StaticGzip.Http

/-- What a scanner makes of the bytes that **have arrived**. -/
inductive Scan (ε α : Type) where
  | read (value : α) (rest : Bytes)
  | short
  | broken (e : ε)

/-- A **scanner**. -/
def Scanner (ε α : Type) : Type := Bytes → Scan ε α

namespace Scanner

variable {ε α : Type}

instance : Monad (Scanner ε) where
  pure a bytes := .read a bytes
  bind s f bytes :=
    match s bytes with
    | .read a rest => f a rest
    | .short => .short
    | .broken e => .broken e

/-- Nothing can be read. -/
def fail (e : ε) : Scanner ε α := fun _ => .broken e

/-- The next byte, which stays where it is. -/
def peek : Scanner ε UInt8
  | [] => .short
  | b :: rest => .read b (b :: rest)

/-- The bytes of one class up to the first byte of another class. -/
def span (p : UInt8 → Bool) : Scanner ε Bytes := fun bytes =>
  match bytes.dropWhile p with
  | [] => .short
  | b :: rest => .read (bytes.takeWhile p) (b :: rest)

/-- A byte that must be the given one. -/
def byte (b : UInt8) (e : ε) : Scanner ε Unit
  | [] => .short
  | c :: rest => if c = b then .read () rest else .broken e

/-- A byte that begins the end of a line. -/
def isLineEnd (b : UInt8) : Bool := b == 13 || b == 10

/-- The **end of a line**: a line feed, before which a carriage return may stand. -/
def lineEnd (e : ε) : Scanner ε Unit
  | 13 :: rest => byte 10 e rest
  | bytes => byte 10 e bytes

/-- What is read and what is left make up what has arrived. -/
theorem append_of_span {p : UInt8 → Bool} {bytes taken rest : Bytes}
    (h : span (ε := ε) p bytes = .read taken rest) : taken ++ rest = bytes := by
  unfold span at h
  split at h
  · simp at h
  · rename_i b tail left
    obtain ⟨rfl, rfl⟩ := h
    rw [← left, List.takeWhile_append_dropWhile]

end Scanner

end StaticGzip.Http
