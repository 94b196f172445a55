import Mathlib.Algebra.Field.Rat
import Mathlib.Tactic.SplitIfs
import StaticGzip.Config.JsonDocument
import StaticGzip.Proofs.Text.Enclosed
import StaticGzip.Proofs.Text.Numeral
import StaticGzip.Proofs.Text.Run
import StaticGzip.Text.Json

/-! # Reading JSON back

The language has one grammar, and a text names at most one value. The reader here keeps a value as
it is written: numbers are exact, and the members of an object stay in their order, so that a name
that is given twice is seen twice.

* **`Json.Value`, `Json.read?`** — values, and the value of a whole text.
* **`Json.string?_string_append`** — a string is read back, whatever characters are in it.
* **`Json.Writes`** — a text that is read as a value wherever it stands among members.
* **`Json.read?_object`** — an object is read back from what writes its members. -/

namespace StaticGzip.Json

open Config.JsonDocument (skipBlanks string? wholeDigits? tail?)

/-! ## The language -/

/-- A **value**. -/
inductive Value where
  | null
  | boolean (b : Bool)
  | number (q : ℚ)
  | string (t : Text)
  | array (items : List Value)
  | object (members : List (Text × Value))

/-- An optional minus sign, and what follows it. -/
def splitMinus : Text → Bool × Text
  | '-' :: rest => (true, rest)
  | t => (false, t)

/-- A **number**: an optional minus sign, digits without zeros in front, and optionally places after
a point and a power of ten. -/
def number? : Reader ℚ := fun t => do
  let (negative, t) := splitMinus t
  let (whole, t) ← wholeDigits? t
  let (places, power, rest) ← tail? t
  let magnitude := (Decimal.digitsValue (whole ++ places) : ℚ) * 10 ^ (power - places.length)
  some (if negative then -magnitude else magnitude, rest)

/-- Things one after another with commas between them, at least one and at most `fuel`, up to a
closing mark. -/
def listed? {α : Type} (item : Reader α) (close : Char) : Nat → Reader (List α)
  | 0, _ => none
  | fuel + 1, t => do
    let (a, t) ← item (skipBlanks t)
    match skipBlanks t with
    | ',' :: rest => (listed? item close fuel rest).map fun (more, rest) => (a :: more, rest)
    | c :: rest => if c = close then some ([a], rest) else none
    | [] => none

/-- A **member** of an object: a name, a colon and a value. -/
def member? (value : Reader Value) : Reader (Text × Value) := fun t => do
  let (name, t) ← string? t
  let t ← Reader.skip? [':'] (skipBlanks t)
  let (v, t) ← value (skipBlanks t)
  some ((name, v), t)

/-- A **value** that nests less deep than given. -/
def value? : Nat → Reader Value
  | 0, _ => none
  | depth + 1, t =>
    match t with
    | '"' :: _ => (string? t).map fun (s, rest) => (.string s, rest)
    | '[' :: rest =>
      match skipBlanks rest with
      | ']' :: rest => some (.array [], rest)
      | rest => (listed? (value? depth) ']' rest.length rest).map
          fun (items, rest) => (.array items, rest)
    | '\x7b' :: rest =>
      match skipBlanks rest with
      | '\x7d' :: rest => some (.object [], rest)
      | rest => (listed? (member? (value? depth)) '\x7d' rest.length rest).map
          fun (members, rest) => (.object members, rest)
    | 'n' :: 'u' :: 'l' :: 'l' :: rest => some (.null, rest)
    | 't' :: 'r' :: 'u' :: 'e' :: rest => some (.boolean true, rest)
    | 'f' :: 'a' :: 'l' :: 's' :: 'e' :: rest => some (.boolean false, rest)
    | _ => (number? t).map fun (q, rest) => (.number q, rest)

/-- The value that a **whole text** is, with blanks around it. No value nests as deep as its text
is long. -/
def read? (t : Text) : Option Value :=
  match value? (t.length + 1) (skipBlanks t) with
  | some (v, rest) => if (skipBlanks rest).isEmpty then some v else none
  | none => none

/-! ## Strings -/

open Config.JsonDocument (unit? unicode? escape? stringRest?)

/-- The four digits of a control character are read as its number. -/
theorem unit?_append {digits : Text} {n : Nat} (four : digits.length = 4)
    (number : digits.foldlM (fun n c => (Text.hexDigit? c).map (16 * n + ·)) 0 = some n)
    (rest : Text) : unit? (digits ++ rest) = some (n, rest) := by
  match digits, four with
  | [a, b, c, d], _ =>
    change (do let n ← [a, b, c, d].foldlM _ 0; some (n, rest)) = _
    rw [number]
    rfl

/-- A **control character** is read back from its number. -/
theorem unicode?_append {c : Char} (h : c.toNat < 32) (rest : Text) :
    unicode? ((Nat.toDigits 16 c.toNat).leftpad 4 '0' ++ rest) = some (c, rest) := by
  have digits : ∀ n : Fin 32, ((Nat.toDigits 16 n.val).leftpad 4 '0').length = 4 ∧
      ((Nat.toDigits 16 n.val).leftpad 4 '0').foldlM
        (fun n c => (Text.hexDigit? c).map (16 * n + ·)) 0 = some n.val := by decide
  obtain ⟨four, number⟩ := digits ⟨c.toNat, h⟩
  rw [unicode?, unit?_append four number]
  simp only [Option.bind_eq_bind, Option.bind_some, Char.ofNat_toNat]
  rw [if_neg (by omega), if_neg (by omega)]

/-- A character inside a string is **read back** from its form. -/
theorem stringRest?_escape_append (fuel : Nat) (backward : Text) (c : Char) (rest : Text) :
    stringRest? (fuel + 1) backward (escape c ++ rest) = stringRest? fuel (c :: backward) rest := by
  have ofNumber {n : Nat} (valid : n.isValidChar) (h : c.toNat = n) : c = Char.ofNat n := by
    rw [← Char.ofNat_toNat c, h]
  unfold escape
  split_ifs with quote backslash feed turn tab back form control
  · rw [quote]; rfl
  · rw [backslash]; rfl
  · rw [feed]; rfl
  · rw [turn]; rfl
  · rw [tab]; rfl
  · rw [ofNumber (by decide) back]; rfl
  · rw [ofNumber (by decide) form]; rfl
  · have read : escape? ('u' :: ((Nat.toDigits 16 c.toNat).leftpad 4 '0' ++ rest))
        = some (c, rest) := unicode?_append control rest
    change ((escape? ('u' :: ((Nat.toDigits 16 c.toNat).leftpad 4 '0' ++ rest))).bind fun p =>
      stringRest? fuel (p.1 :: backward) p.2) = _
    rw [read, Option.bind_some]
  · rw [List.singleton_append, Config.JsonDocument.stringRest?.eq_def]
    split <;> simp_all

theorem escape_ne_nil (c : Char) : escape c ≠ [] := by
  unfold escape
  split_ifs <;> simp

/-- A string is **read back**, whatever characters are in it. -/
theorem string?_string_append (t rest : Text) :
    string? (string t ++ rest) = some (t, rest) := by
  have split : string t ++ rest = '"' :: (t.flatMap escape ++ '"' :: rest) := by
    simp [string]
  rw [split, string?, Text.read_flatMap_append stringRest?_escape_append fun _ _ _ => rfl]
  · rfl
  · have := Text.length_le_length_flatMap escape_ne_nil t
    rw [List.length_append, List.length_cons]
    omega

/-! ## Members -/

/-- What may follow the value of a member: a comma, or the end of the object. -/
def EndsMember (rest : Text) : Prop := ∃ c more, rest = c :: more ∧ (c = ',' ∨ c = '\x7d')

theorem endsMember_comma (rest : Text) : EndsMember (',' :: rest) := ⟨_, _, rfl, .inl rfl⟩

theorem endsMember_close (rest : Text) : EndsMember ('\x7d' :: rest) := ⟨_, _, rfl, .inr rfl⟩

theorem EndsMember.ends_isDigit {rest : Text} (h : EndsMember rest) :
    Text.Ends Char.isDigit rest := by
  obtain ⟨c, more, rfl, rfl | rfl⟩ := h <;> exact Text.ends_cons.mpr (by decide)

/-- After a whole number comes neither a point nor an exponent. -/
theorem EndsMember.tail?_eq {rest : Text} (h : EndsMember rest) :
    tail? rest = some ([], 0, rest) := by
  obtain ⟨c, more, rfl, rfl | rfl⟩ := h <;> rfl

/-- All digits of a numeral are taken. -/
theorem wholeDigits?_ofNat_append (n : Nat) {rest : Text} (ends : Text.Ends Char.isDigit rest) :
    wholeDigits? (Text.ofNat n ++ rest) = some (Text.ofNat n, rest) := by
  by_cases zero : n = 0
  · have noDigit : rest.head?.any Char.isDigit = false := by
      cases first : rest.head? with
      | none => rfl
      | some c => exact ends c first
    subst zero
    change (if rest.head?.any Char.isDigit then none else some (['0'], rest)) = _
    rw [noDigit, if_neg Bool.false_ne_true]
    rfl
  · obtain ⟨c, more, split, -⟩ := Text.exists_ofNat_eq_cons n
    have noZero : c ≠ '0' := by
      rintro rfl
      exact Text.head?_ofNat_ne zero (by rw [split]; rfl)
    have many : wholeDigits? (Text.ofNat n ++ rest)
        = Reader.many1? Char.isDigit (Text.ofNat n ++ rest) := by
      rw [split, List.cons_append, Config.JsonDocument.wholeDigits?.eq_2 _ fun _ same =>
        noZero (List.cons.inj same).1]
    have digits := (Text.isNumeral_ofNat n).2
    rw [many, Reader.many1?, Text.takeWhile_append digits ends, Text.dropWhile_append digits ends,
      split]
    rfl

/-- A **number** is read back from its numeral. -/
theorem number?_ofNat_append (n : Nat) {rest : Text} (h : EndsMember rest) :
    number? (Text.ofNat n ++ rest) = some ((n : ℚ), rest) := by
  obtain ⟨c, more, split, digit⟩ := Text.exists_ofNat_eq_cons n
  have noMinus : c ≠ '-' := by
    rintro rfl
    exact absurd digit (by decide)
  have plain : splitMinus (Text.ofNat n ++ rest) = (false, Text.ofNat n ++ rest) := by
    rw [split, List.cons_append, splitMinus.eq_2 _ fun _ same => noMinus (List.cons.inj same).1]
  rw [number?, plain]
  simp [wholeDigits?_ofNat_append n h.ends_isDigit, h.tail?_eq]

/-! ## Values in their place -/

/-- A text **writes** a value: among the members of an object it is read as the value, to its end
and no further. -/
structure Writes (text : Text) (v : Value) : Prop where
  /-- No blank is skipped in front. -/
  begins : ∀ rest, skipBlanks (text ++ rest) = text ++ rest
  read : ∀ depth rest, EndsMember rest → value? (depth + 1) (text ++ rest) = some (v, rest)

/-- A string is read wherever a value may stand. -/
theorem value?_string_append (depth : Nat) (t rest : Text) :
    value? (depth + 1) (string t ++ rest) = some (.string t, rest) := by
  change (string? (string t ++ rest)).map _ = _
  rw [string?_string_append]
  rfl

theorem writes_string (t : Text) : Writes (string t) (.string t) where
  begins _ := rfl
  read depth rest _ := value?_string_append depth t rest

/-- A text or null is written as what it is: an empty text is **not null**. -/
theorem writes_optional (t : Option Text) :
    Writes (optional t) (t.elim .null .string) := by
  cases t with
  | none => exact ⟨fun _ => rfl, fun _ _ _ => rfl⟩
  | some t => exact writes_string t

/-- What begins with a digit is read as a number. -/
theorem value?_of_isDigit {c : Char} (h : c.isDigit = true) (depth : Nat) (t : Text) :
    value? (depth + 1) (c :: t) = (number? (c :: t)).map fun (q, rest) => (.number q, rest) := by
  have other {d : Char} (mark : d.isDigit = false) {s : Text} : c :: t ≠ d :: s := by
    rintro same
    rw [(List.cons.inj same).1, mark] at h
    exact Bool.noConfusion h
  rw [value?.eq_def]
  dsimp only
  split
  iterate 6 exact absurd ‹_› (other (by decide))
  rfl

theorem writes_ofNat (n : Nat) : Writes (Text.ofNat n) (.number n) where
  begins rest := by
    obtain ⟨c, more, split, digit⟩ := Text.exists_ofNat_eq_cons n
    have noBlank : (c == ' ' || c == '\n' || c == '\t' || c == '\r') = false := by
      by_contra blank
      simp only [Bool.not_eq_false, Bool.or_eq_true, beq_iff_eq] at blank
      rcases blank with ((rfl | rfl) | rfl) | rfl <;> exact absurd digit (by decide)
    exact Text.Ends.dropWhile_eq (by rw [split]; exact Text.ends_cons.mpr noBlank)
  read depth rest ends := by
    obtain ⟨c, more, split, digit⟩ := Text.exists_ofNat_eq_cons n
    have number := number?_ofNat_append n ends
    rw [split, List.cons_append] at number ⊢
    rw [value?_of_isDigit digit, number]
    rfl

/-! ## Objects -/

/-- Some members as they are written, beside the names and values that they have. -/
def WritesAll : List (String × Text) → List (Text × Value) → Prop :=
  List.Forall₂ fun written member => written.1.toList = member.1 ∧ Writes written.2 member.2

/-- A member as it is written. -/
def memberText (written : String × Text) : Text := string written.1.toList ++ ':' :: written.2

theorem object_eq (written : List (String × Text)) :
    object written = '\x7b' :: ([','].intercalate (written.map memberText) ++ ['\x7d']) := rfl

/-- A **member** is read back. -/
theorem member?_memberText_append {name : String} {text rest : Text} {v : Value}
    (h : Writes text v) (ends : EndsMember rest) (depth : Nat) :
    member? (value? (depth + 1)) (memberText (name, text) ++ rest)
      = some ((name.toList, v), rest) := by
  have split : memberText (name, text) ++ rest
      = string name.toList ++ ':' :: (text ++ rest) := by simp [memberText]
  have colon : Reader.skip? [':'] (skipBlanks (':' :: (text ++ rest))) = some (text ++ rest) := rfl
  rw [split, member?, string?_string_append]
  simp only [Option.bind_eq_bind, Option.bind_some, colon, h.begins, h.read depth rest ends]

theorem length_le_length_intercalate (written : List (String × Text)) :
    written.length ≤ ([','].intercalate (written.map memberText)).length := by
  induction written with
  | nil => exact Nat.le_refl _
  | cons first others ih =>
    cases others with
    | nil => simp [memberText, string]
    | cons second others =>
      rw [List.map_cons, List.map_cons, List.intercalate_cons_cons, ← List.map_cons]
      simp only [List.length_append, List.length_cons] at ih ⊢
      omega

/-- Members with commas between them are **read back** one after another. -/
theorem listed?_memberText {written : List (String × Text)} {members : List (Text × Value)}
    (h : WritesAll written members) (ne : written ≠ []) {fuel : Nat}
    (enough : written.length ≤ fuel) (depth : Nat) (rest : Text) :
    listed? (member? (value? (depth + 1))) '\x7d' fuel
        ([','].intercalate (written.map memberText) ++ '\x7d' :: rest) = some (members, rest) := by
  induction h generalizing fuel with
  | nil => exact absurd rfl ne
  | @cons first member others members this those ih =>
    obtain ⟨name, text⟩ := first
    obtain ⟨name', v⟩ := member
    obtain ⟨rfl, writes⟩ := this
    obtain ⟨fuel, rfl⟩ := Nat.exists_eq_succ_of_ne_zero (Nat.ne_zero_of_lt enough)
    have quote (more : Text) : skipBlanks (memberText (name, text) ++ more)
        = memberText (name, text) ++ more := rfl
    cases those with
    | nil =>
      rw [List.map_singleton, List.intercalate_singleton, listed?, quote,
        member?_memberText_append writes (endsMember_close rest) depth]
      rfl
    | @cons second _ others _ =>
      have others := ih (List.cons_ne_nil _ _) (Nat.le_of_succ_le_succ enough)
      rw [List.map_cons, List.map_cons, List.intercalate_cons_cons, List.append_assoc,
        List.append_assoc, ← List.map_cons, listed?, quote, List.singleton_append,
        member?_memberText_append writes (endsMember_comma _) depth]
      change (listed? _ _ fuel _).map _ = _
      rw [others]
      rfl

/-- An **object** is read back from what writes its members: each of them once, and in order. -/
theorem read?_object {written : List (String × Text)} {members : List (Text × Value)}
    (h : WritesAll written members) : read? (object written) = some (.object members) := by
  cases h with
  | nil => rfl
  | @cons first member others more this those =>
    have all : WritesAll (first :: others) (member :: more) := .cons this those
    -- Inside the braces stands a quote first, so the object is not taken for an empty one.
    obtain ⟨inside, quote⟩ : ∃ inside,
        [','].intercalate ((first :: others).map memberText) ++ ['\x7d'] = '"' :: inside := by
      cases others with
      | nil => exact ⟨_, rfl⟩
      | cons second others =>
        rw [List.map_cons, List.map_cons, List.intercalate_cons_cons]
        exact ⟨_, rfl⟩
    have enough : (first :: others).length ≤ ('"' :: inside).length := by
      have shorter := length_le_length_intercalate (first :: others)
      rw [← quote, List.length_append]
      omega
    have members := listed?_memberText all (List.cons_ne_nil _ _) enough (inside.length + 1) []
    have read : value? (inside.length + 3) ('\x7b' :: '"' :: inside)
        = some (.object (member :: more), []) := by
      rw [quote] at members
      change (listed? _ _ ('"' :: inside).length ('"' :: inside)).map _ = _
      rw [members]
      rfl
    rw [object_eq, quote, read?, List.length_cons, List.length_cons]
    change (match value? (inside.length + 3) ('\x7b' :: '"' :: inside) with
      | some (v, rest) => if (skipBlanks rest).isEmpty then some v else none
      | none => none) = _
    rw [read]
    rfl

end StaticGzip.Json
