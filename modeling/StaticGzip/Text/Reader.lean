import StaticGzip.Text.Basic

/-! # Readers

A reader takes a value from the start of a text and returns it with the rest of the text, or fails.
Readers of languages with nested values are built from a few of them. -/

namespace StaticGzip

/-- A **reader**. -/
abbrev Reader (α : Type) := Text → Option (α × Text)

namespace Reader

variable {α : Type}

/-- The rest of a text that begins with given characters. -/
def skip? : Text → Text → Option Text
  | [], t => some t
  | c :: cs, d :: t => if c = d then skip? cs t else none
  | _ :: _, [] => none

/-- A text is skipped where it stands. -/
@[simp] theorem skip?_append (s t : Text) : skip? s (s ++ t) = some t := by
  induction s with
  | nil => rfl
  | cons c s ih => simpa [skip?] using ih

/-- The characters of one class at the start of a text, at least one. -/
def many1? (p : Char → Bool) : Reader Text := fun t =>
  let taken := t.takeWhile p
  if taken.isEmpty then none else some (taken, t.dropWhile p)

/-- The values that follow one another while the reader succeeds, in order and after those that
are already there, last one first. At most `fuel` values are read. -/
def repeated (item : Reader α) : Nat → List α → Text → List α × Text
  | 0, backward, t => (backward.reverse, t)
  | fuel + 1, backward, t =>
    match item t with
    | some (a, rest) => repeated item fuel (a :: backward) rest
    | none => (backward.reverse, t)

/-- All values at the start of a text. Each takes a character, so the length of the text bounds
their number. -/
def many (item : Reader α) (t : Text) : List α × Text := repeated item t.length [] t

/-- A value of a whole text. -/
def whole? (item : Reader α) (t : Text) : Option α :=
  match item t with
  | some (a, []) => some a
  | _ => none

end Reader

end StaticGzip
