import Mathlib.Data.List.TakeWhile
import StaticGzip.Config.Environment
import StaticGzip.Proofs.Http.HeaderText

/-! # Numerals

A numeral is a run of decimal digits, and a sign may stand in front of it. What the conversions read
from a text is exactly what it denotes as a numeral. No numeral is a word for truth or falsehood,
since case does not touch digits and signs.

* **`Text.Denotes`, `Text.Writes`** — the number of a numeral, with any sign and without a minus.
* **`Value.natural?_eq_some_iff`** — an unsigned number is read exactly from what writes it.
* **`Environment.value_of_denotes`** — the value of a variable whose text is a numeral. -/

namespace StaticGzip

namespace Text

/-! ## Digits -/

/-- Digits are read as their value, and nothing else is. -/
theorem digit?_eq_some_iff {c : Char} {d : Nat} :
    digit? c = some d ↔ c.isDigit = true ∧ c.toNat - '0'.toNat = d := by
  have isDigit : c.isDigit = true ↔ '0' ≤ c ∧ c ≤ '9' := by
    simp [Char.isDigit, Char.le_def]
  rw [digit?, isDigit]
  split <;> simp [*]

theorem readDigits_eq_some_iff {t : Text} {start n : Nat} :
    readDigits start t = some n ↔ (∀ c ∈ t, c.isDigit = true) ∧
      t.foldl (fun n c => 10 * n + (c.toNat - '0'.toNat)) start = n := by
  induction t generalizing start with
  | nil => simp [readDigits]
  | cons c t ih =>
    have step : readDigits start (c :: t)
        = (digit? c).bind fun d => readDigits (10 * start + d) t := by
      rw [readDigits, List.foldlM_cons, Option.bind_eq_bind, Option.bind_map]
      rfl
    rw [step, Option.bind_eq_some_iff, List.forall_mem_cons, List.foldl_cons]
    simp only [digit?_eq_some_iff, ih, and_assoc, exists_and_left, exists_eq_left']

/-- A **numeral**: decimal digits, at least one. -/
def IsNumeral (t : Text) : Prop := t ≠ [] ∧ ∀ c ∈ t, c.isDigit = true

/-- Exactly the numerals are read, as the value of their digits. -/
theorem decimal?_eq_some_iff {t : Text} {n : Nat} :
    decimal? t = some n ↔ t.IsNumeral ∧ Decimal.digitsValue t = n := by
  cases t with
  | nil => simp [decimal?, IsNumeral]
  | cons c t =>
    have read : decimal? (c :: t) = readDigits 0 (c :: t) := rfl
    simp only [read, readDigits_eq_some_iff, IsNumeral, ne_eq, List.cons_ne_nil, not_false_eq_true,
      true_and, Decimal.digitsValue]

theorem map_decimal?_eq_some_iff {α : Type} {f : Nat → α} {t : Text} {a : α} :
    (decimal? t).map f = some a ↔ t.IsNumeral ∧ f (Decimal.digitsValue t) = a := by
  simp only [Option.map_eq_some_iff, decimal?_eq_some_iff, and_assoc, exists_and_left,
    exists_eq_left']

/-! ## Signs -/

/-- A text **denotes** a whole number: a numeral with at most one sign in front. -/
inductive Denotes : Text → Int → Prop where
  | plain {t : Text} (h : t.IsNumeral) : Denotes t (Decimal.digitsValue t)
  | plus {t : Text} (h : t.IsNumeral) : Denotes ('+' :: t) (Decimal.digitsValue t)
  | minus {t : Text} (h : t.IsNumeral) : Denotes ('-' :: t) (-Decimal.digitsValue t)

/-- A text **writes** a number: it denotes the number without a minus sign. -/
def Writes (t : Text) (n : Nat) : Prop := t.Denotes n ∧ t.head? ≠ some '-'

/-- A character with which the text of a number **may begin**: a digit or a sign. -/
def mayBegin (c : Char) : Bool := c.isDigit || c == '+' || c == '-'

/-- Whatever denotes a number begins with a digit or a sign. -/
theorem Denotes.exists_head {t : Text} {k : Int} (h : t.Denotes k) :
    ∃ c rest, t = c :: rest ∧ mayBegin c = true := by
  cases h with
  | plain h =>
    obtain ⟨c, rest, rfl⟩ := List.exists_cons_of_ne_nil h.1
    have digit : c.isDigit = true := h.2 c List.mem_cons_self
    exact ⟨c, rest, rfl, by simp [mayBegin, digit]⟩
  | plus => exact ⟨_, _, rfl, rfl⟩
  | minus => exact ⟨_, _, rfl, rfl⟩

/-- Case does not touch digits and signs. -/
theorem toLower_of_mayBegin {c : Char} (h : mayBegin c = true) :
    c.toNat < 0x3a ∧ c.toLower = c := by
  have low : c.toNat < 0x3a := by
    simp only [mayBegin, Char.isDigit, Bool.or_eq_true, Bool.and_eq_true, decide_eq_true_eq,
      beq_iff_eq, UInt32.le_iff_toNat_le] at h
    rcases h with (⟨-, high⟩ | rfl) | rfl
    · exact Nat.lt_succ_of_le high
    · decide
    · decide
  -- The capital letters come after all of these characters.
  refine ⟨low, dif_neg ?_⟩
  rintro ⟨above, -⟩
  have above : 0x41 ≤ c.toNat := UInt32.le_iff_toNat_le.mp above
  omega

/-- Lower case leaves the beginning of a number as it is. -/
theorem head?_lower {c : Char} (h : mayBegin c = true) (t : Text) :
    (lower (c :: t)).head? = some c := by
  obtain ⟨low, same⟩ := toLower_of_mayBegin h
  have ascii : c.toNat < 128 := by omega
  have sigma : c.toNat ≠ 0x3a3 := by omega
  simp [lower, lowerAfter, lowerChar, ascii, sigma, same]

/-- What denotes a number is **no word** that begins with a letter. -/
theorem Denotes.lowerString_ne {s word : String} {k : Int} (h : Denotes s.toList k)
    (letter : word.toList.head?.any mayBegin = false) : lowerString s ≠ word := by
  obtain ⟨c, rest, same, begins⟩ := h.exists_head
  rintro rfl
  rw [lowerString, String.toList_ofList, same, head?_lower begins rest, Option.any_some,
    begins] at letter
  exact Bool.noConfusion letter

end Text

namespace Config.Value

variable {t : Text} {s : String} {k : Int} {n : Nat}

/-! ## What is read -/

theorem signed?_minus (t : Text) :
    signed? ('-' :: t) = (Text.decimal? t).map fun n : Nat => -(n : Int) := by
  cases decimal : Text.decimal? t <;> simp [signed?, decimal]

theorem signed?_plus (t : Text) : signed? ('+' :: t) = (Text.decimal? t).map Int.ofNat := rfl

/-- What does not begin with a sign is read as it stands. -/
theorem signed?_of_no_sign (minus : t.head? ≠ some '-') (plus : t.head? ≠ some '+') :
    signed? t = (Text.decimal? t).map Int.ofNat := by
  rw [signed?.eq_def]
  split
  · exact absurd rfl minus
  · exact absurd rfl plus
  · rfl

/-- A numeral does not begin with a sign. -/
theorem head?_ne_of_isNumeral {c : Char} (h : t.IsNumeral) (sign : c.isDigit = false) :
    t.head? ≠ some c := by
  intro same
  have digit : c.isDigit = true := h.2 c (List.mem_of_head? same)
  rw [sign] at digit
  exact Bool.noConfusion digit

/-- A number is **read with its sign** exactly from what denotes it. -/
theorem signed?_eq_some_iff : signed? t = some k ↔ t.Denotes k := by
  constructor
  · intro read
    by_cases minus : t.head? = some '-'
    · obtain ⟨digits, rfl⟩ := List.head?_eq_some_iff.mp minus
      rw [signed?_minus, Text.map_decimal?_eq_some_iff] at read
      obtain ⟨numeral, rfl⟩ := read
      exact .minus numeral
    by_cases plus : t.head? = some '+'
    · obtain ⟨digits, rfl⟩ := List.head?_eq_some_iff.mp plus
      rw [signed?_plus, Text.map_decimal?_eq_some_iff] at read
      obtain ⟨numeral, rfl⟩ := read
      exact .plus numeral
    · rw [signed?_of_no_sign minus plus, Text.map_decimal?_eq_some_iff] at read
      obtain ⟨numeral, rfl⟩ := read
      exact .plain numeral
  · intro denotes
    cases denotes with
    | plain h =>
      rw [signed?_of_no_sign (head?_ne_of_isNumeral h rfl) (head?_ne_of_isNumeral h rfl),
        Text.map_decimal?_eq_some_iff]
      exact ⟨h, rfl⟩
    | plus h => exact (signed?_plus _).trans (Text.map_decimal?_eq_some_iff.mpr ⟨h, rfl⟩)
    | minus h => exact (signed?_minus _).trans (Text.map_decimal?_eq_some_iff.mpr ⟨h, rfl⟩)

theorem natural?_plus_eq_some_iff :
    natural? ('+' :: t) = some n ↔ (t.IsNumeral ∧ Decimal.digitsValue t = n) ∧ n ≤ maxUnsigned := by
  rw [natural?, Option.filter_eq_some_iff, Text.decimal?_eq_some_iff, decide_eq_true_eq]

/-- What does not begin with a plus sign is read as it stands. -/
theorem natural?_eq_some_iff_of_no_plus (plus : t.head? ≠ some '+') :
    natural? t = some n ↔ (t.IsNumeral ∧ Decimal.digitsValue t = n) ∧ n ≤ maxUnsigned := by
  rw [natural?.eq_def]
  split
  · exact absurd rfl plus
  · rw [Option.filter_eq_some_iff, Text.decimal?_eq_some_iff, decide_eq_true_eq]

/-- An **unsigned number** is read exactly from what writes it, as far as it has 64 bits. -/
theorem natural?_eq_some_iff : natural? t = some n ↔ t.Writes n ∧ n ≤ maxUnsigned := by
  constructor
  · intro read
    by_cases plus : t.head? = some '+'
    · obtain ⟨digits, rfl⟩ := List.head?_eq_some_iff.mp plus
      obtain ⟨⟨numeral, rfl⟩, small⟩ := natural?_plus_eq_some_iff.mp read
      exact ⟨⟨.plus numeral, by simp⟩, small⟩
    · obtain ⟨⟨numeral, rfl⟩, small⟩ := (natural?_eq_some_iff_of_no_plus plus).mp read
      exact ⟨⟨.plain numeral, head?_ne_of_isNumeral numeral rfl⟩, small⟩
  · rintro ⟨⟨denotes, noMinus⟩, small⟩
    -- The rules speak of integers, so the number is one until the sign is known.
    generalize whole : (n : Int) = k at denotes
    cases denotes with
    | plain h =>
      obtain rfl := Int.ofNat_inj.mp whole
      have plus : t.head? ≠ some '+' := head?_ne_of_isNumeral h rfl
      exact (natural?_eq_some_iff_of_no_plus plus).mpr ⟨⟨h, rfl⟩, small⟩
    | plus h =>
      obtain rfl := Int.ofNat_inj.mp whole
      exact natural?_plus_eq_some_iff.mpr ⟨⟨h, rfl⟩, small⟩
    | minus h => exact absurd rfl noMinus

end Config.Value

/-! ## Floating-point numbers -/

namespace Decimal

variable {t digits : Text} {negative : Bool}

/-- The words for what is **not finite**. -/
def specialWords : List String := ["nan", "inf", "infinity"]

/-- Whatever is none of these words, in any case, is **not special**. -/
theorem special?_eq_none
    (noWord : ∀ word ∈ specialWords, String.ofList (Text.lowerAscii t) ≠ word) :
    special? negative t = none := by
  simp only [specialWords, List.forall_mem_cons] at noWord
  obtain ⟨nan, inf, infinity, -⟩ := noWord
  simp only [special?, if_neg nan, inf, infinity, or_self, if_false]

/-- A numeral is no word for what is not finite. -/
theorem special?_of_isNumeral (h : t.IsNumeral) : special? negative t = none := by
  obtain ⟨c, rest, rfl⟩ := List.exists_cons_of_ne_nil h.1
  have digit : c.isDigit = true := h.2 c List.mem_cons_self
  have same : c.toLower = c := (Text.toLower_of_mayBegin (by simp [Text.mayBegin, digit])).2
  have letters : ∀ word ∈ specialWords, word.toList.head?.any Char.isDigit = false := by decide
  refine special?_eq_none fun word known => ?_
  rintro rfl
  have head : (Text.lowerAscii (c :: rest)).head? = some c := congrArg some same
  have letter := letters _ known
  rw [String.toList_ofList, head, Option.any_some, digit] at letter
  exact Bool.noConfusion letter

/-- Digits after an optional sign are read as a **floating-point number** without an exponent. -/
theorem ofText?_of_splitSign (sign : splitSign t = (negative, digits)) (h : digits.IsNumeral) :
    ofText? t = some (ofScientific negative (digitsValue digits) 0) := by
  have all : splitDigits digits = (digits, []) := by
    rw [splitDigits, List.takeWhile_eq_self_iff.mpr h.2, List.dropWhile_eq_nil_iff.mpr h.2]
  have some : digits.isEmpty = false := by simpa using h.1
  simp [ofText?, sign, special?_of_isNumeral h, all, some, exponent?]

theorem splitSign_of_isNumeral (h : t.IsNumeral) : splitSign t = (false, t) := by
  rw [splitSign.eq_def]
  split
  · exact absurd (h.2 _ List.mem_cons_self) (by decide)
  · exact absurd (h.2 _ List.mem_cons_self) (by decide)
  · rfl

/-- A text that denotes a number is read as the **floating-point number nearest** to it. Only zero
could have the wrong sign. -/
theorem ofText?_of_denotes {k : Int} (h : t.Denotes k) (nonzero : k ≠ 0) :
    ofText? t = some (ofScientific (decide (k < 0)) k.natAbs 0) := by
  cases h with
  | plain h =>
    have positive : decide ((digitsValue t : Int) < 0) = false := by simp
    rw [ofText?_of_splitSign (splitSign_of_isNumeral h) h, positive, Int.natAbs_natCast]
  | @plus digits h =>
    have positive : decide ((digitsValue digits : Int) < 0) = false := by simp
    have sign : splitSign ('+' :: digits) = (false, digits) := rfl
    rw [ofText?_of_splitSign sign h, positive, Int.natAbs_natCast]
  | @minus digits h =>
    have negative : decide (-(digitsValue digits : Int) < 0) = true := by
      rw [decide_eq_true_eq]
      omega
    have sign : splitSign ('-' :: digits) = (true, digits) := rfl
    rw [ofText?_of_splitSign sign h, negative, Int.natAbs_neg, Int.natAbs_natCast]

end Decimal

/-! ## Variables -/

namespace Config.Environment

variable {text : String}

/-- The **value of a variable** whose text denotes a number: the number if it has 64 bits with its
sign, and otherwise the nearest floating-point number. -/
theorem value_of_denotes {k : Int} (h : Text.Denotes text.toList k) :
    value text = if Value.fitsSigned k then .integer origin k
      else .float origin (Decimal.ofScientific (decide (k < 0)) k.natAbs 0) := by
  have noTrue : Text.lowerString text ≠ "true" := h.lowerString_ne (by decide)
  have noFalse : Text.lowerString text ≠ "false" := h.lowerString_ne (by decide)
  have whole : Value.integer? text.toList = if Value.fitsSigned k then some k else none := by
    rw [Value.integer?, Value.signed?_eq_some_iff.mpr h, Option.filter_some]
  rw [value, if_neg noTrue, if_neg noFalse, whole]
  -- The reading as a floating-point number is only tried beyond 64 bits, and so never on zero.
  by_cases fits : Value.fitsSigned k = true
  · simp only [if_pos fits]
  · have nonzero : k ≠ 0 := by
      rintro rfl
      exact fits rfl
    simp only [if_neg fits, Decimal.ofText?_of_denotes h nonzero]

/-- The values that a variable **can have**: a truth value, the number that its text denotes, a
floating-point number, or the text itself. -/
theorem value_cases (text : String) :
    (∃ b, value text = .boolean origin b) ∨
    (∃ k, value text = .integer origin k ∧ Text.Denotes text.toList k ∧ Value.fitsSigned k = true) ∨
    (∃ x, value text = .float origin x) ∨ value text = .string origin text := by
  rw [value.eq_def]
  dsimp only
  split
  · exact .inl ⟨_, rfl⟩
  · split
    · exact .inl ⟨_, rfl⟩
    · split
      · rename_i k whole
        obtain ⟨read, fits⟩ := Option.filter_eq_some_iff.mp whole
        exact .inr (.inl ⟨k, rfl, Value.signed?_eq_some_iff.mp read, fits⟩)
      · split
        · exact .inr (.inr (.inl ⟨_, rfl⟩))
        · exact .inr (.inr (.inr rfl))

end Config.Environment

end StaticGzip
