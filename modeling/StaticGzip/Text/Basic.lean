/-! # Text taken apart

Paths, request targets and log lines are read and written character by character, so the library
works on the list of their characters and keeps `String` for words that are only carried.

* **`Text`** — a list of characters.
* **`Text.ofNat`** — the decimal numeral of a number, and **`Text.padded`** its form of a fixed
  least width.
* **`Text.byteLength`** — the length in the UTF-8 encoding, the unit in which limits are stated.
* **`Text.slice?`** — the characters between two bytes. -/

namespace StaticGzip

/-- **Text**: the characters in their order. -/
abbrev Text := List Char

namespace Text

/-- The decimal numeral of `n`, without leading zeros. -/
def ofNat (n : Nat) : Text := Nat.toDigits 10 n

/-- The decimal numeral of `n` with zeros in front up to `width` digits. -/
def padded (width n : Nat) : Text := (ofNat n).leftpad width '0'

/-- A numeral that is no shorter than the width is left as it is. -/
theorem padded_eq_ofNat {width n : Nat} (h : width ≤ (ofNat n).length) :
    padded width n = ofNat n := by
  simp [padded, List.leftpad, Nat.sub_eq_zero_of_le h]

/-- The number of bytes of the text in UTF-8. -/
def byteLength (t : Text) : Nat := t.foldr (·.utf8Size + ·) 0

@[simp] theorem byteLength_nil : byteLength [] = 0 := rfl

@[simp] theorem byteLength_append (s t : Text) :
    byteLength (s ++ t) = byteLength s + byteLength t := by
  induction s with
  | nil => simp
  | cons c s ih => simp only [byteLength, List.cons_append, List.foldr_cons] at ih ⊢; omega

/-- A text parted at a byte, if a character begins there or the text ends there. -/
def splitAtByte? : Nat → Text → Option (Text × Text)
  | 0, t => some ([], t)
  | _ + 1, [] => none
  | n + 1, c :: t =>
    if c.utf8Size ≤ n + 1 then
      (splitAtByte? (n + 1 - c.utf8Size) t).map fun (before, after) => (c :: before, after)
    else none

/-- A text is parted where one text ends and another one begins. -/
theorem splitAtByte?_append (s t : Text) : splitAtByte? (byteLength s) (s ++ t) = some (s, t) := by
  induction s with
  | nil => rw [byteLength_nil, List.nil_append, splitAtByte?]
  | cons c s ih =>
    obtain ⟨n, size⟩ := Nat.exists_eq_succ_of_ne_zero (Nat.ne_of_gt c.utf8Size_pos)
    have length : byteLength (c :: s) = n + byteLength s + 1 := by
      rw [byteLength, List.foldr_cons, size, Nat.succ_add]
      rfl
    have first : c.utf8Size ≤ n + byteLength s + 1 := by omega
    have left : n + byteLength s + 1 - c.utf8Size = byteLength s := by omega
    rw [length, List.cons_append, splitAtByte?, if_pos first, left, ih, Option.map_some]

/-- The **characters from one byte on and before another one**, if both are places between
characters. -/
def slice? (t : Text) (start stop : Nat) : Option Text := do
  let (_, rest) ← splitAtByte? start t
  let (taken, _) ← splitAtByte? (stop - start) rest
  some taken

/-- The part of a text between two others is **cut out** of it. -/
theorem slice?_append (before taken after : Text) :
    slice? (before ++ (taken ++ after)) (byteLength before) (byteLength (before ++ taken))
      = some taken := by
  rw [slice?, splitAtByte?_append, byteLength_append, Nat.add_sub_cancel_left]
  simp [splitAtByte?_append]

/-- The text without the characters of `p` at its end. -/
def trimEnd (p : Char → Bool) (t : Text) : Text := (t.reverse.dropWhile p).reverse

/-- The decimal value of a digit. -/
def digit? (c : Char) : Option Nat :=
  if '0' ≤ c ∧ c ≤ '9' then some (c.toNat - '0'.toNat) else none

/-- The value of a hexadecimal digit of either case. -/
def hexDigit? (c : Char) : Option Nat :=
  if '0' ≤ c ∧ c ≤ '9' then some (c.toNat - '0'.toNat)
  else if 'a' ≤ c ∧ c ≤ 'f' then some (c.toNat - 'a'.toNat + 10)
  else if 'A' ≤ c ∧ c ≤ 'F' then some (c.toNat - 'A'.toNat + 10)
  else none

/-- The value of a non-empty run of decimal digits. -/
def decimal? (t : Text) : Option Nat :=
  if t.isEmpty then none
  else t.foldlM (fun n c => (digit? c).map (10 * n + ·)) 0

/-- Lower case in ASCII; every other character stays. -/
def lowerAscii (t : Text) : Text := t.map Char.toLower

end Text

end StaticGzip
