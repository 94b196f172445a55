import Mathlib.Algebra.Group.Nat.Defs
import Mathlib.Data.List.Induction
import Mathlib.Data.List.TakeWhile
import StaticGzip.Address
import StaticGzip.Proofs.Text.Run

/-! # The literals of addresses

A numeral is a row of digits. Numerals with dots between are the four bytes of an address, numerals
with colons between are groups. Each reader takes one literal, and it takes all digits there are.

* **`Address.Numeral`, `Address.Octet`, `Address.Group`** — the numbers in addresses.
* **`Address.Dotted`** — four bytes with dots between.
* **`Address.bytes?_eq_some_iff`** — four bytes are read exactly from their literals. -/

namespace StaticGzip.Address

/-! ## Numerals -/

/-- A **digit** of a base, in either case. -/
def IsDigit (base : Nat) (c : Char) (d : Nat) : Prop :=
  d < base ∧ (c = d.digitChar ∨ c = d.digitChar.toUpper)

/-- A **numeral** of a base: at least one digit, the last of which counts least. -/
inductive Numeral (base : Nat) : Text → Nat → Prop where
  | digit {c : Char} {d : Nat} (shown : IsDigit base c d) : Numeral base [c] d
  | more {before : Text} {c : Char} {n d : Nat} (first : Numeral base before n)
      (shown : IsDigit base c d) : Numeral base (before ++ [c]) (base * n + d)

/-- A function that finds the value of **the digits** of a base, and of nothing else. -/
def Reads (base : Nat) (digit? : Char → Option Nat) : Prop :=
  ∀ c d, digit? c = some d ↔ IsDigit base c d

/-- A character is a digit by its **code**. -/
theorem IsDigit.of_toNat {base d n : Nat} {c : Char} (small : d < base) (code : c.toNat = n)
    (shown : Char.ofNat n = d.digitChar ∨ Char.ofNat n = d.digitChar.toUpper) :
    IsDigit base c d := by
  refine ⟨small, ?_⟩
  rwa [← code, Char.ofNat_toNat] at shown

/-- The code of a decimal digit is its value behind that of zero. -/
theorem ofNat_decimal : ∀ d < 10, Char.ofNat (48 + d) = d.digitChar := by decide

/-- The **decimal digits**. -/
theorem reads_digit? : Reads 10 Text.digit? := by
  intro c d
  have read : ∀ d < 10, Text.digit? d.digitChar = some d
      ∧ Text.digit? d.digitChar.toUpper = some d := by decide
  constructor
  · intro h
    unfold Text.digit? at h
    split at h
    · rename_i range
      have first : 48 ≤ c.toNat := range.1
      have last : c.toNat ≤ 57 := range.2
      have place : c.toNat - 48 = d := Option.some.inj h
      have code : c.toNat = 48 + d := by omega
      exact .of_toNat (by omega) code (.inl (ofNat_decimal d (by omega)))
    · cases h
  · rintro ⟨small, rfl | rfl⟩
    · exact (read d small).1
    · exact (read d small).2

/-- The **hexadecimal digits**. -/
theorem reads_hexDigit? : Reads 16 Text.hexDigit? := by
  intro c d
  have read : ∀ d < 16, Text.hexDigit? d.digitChar = some d
      ∧ Text.hexDigit? d.digitChar.toUpper = some d := by decide
  have letter : ∀ d < 16, 10 ≤ d → Char.ofNat (87 + d) = d.digitChar
      ∧ Char.ofNat (55 + d) = d.digitChar.toUpper := by decide
  constructor
  · intro h
    unfold Text.hexDigit? at h
    -- The three rows of digits: decimal ones, small letters and capital letters.
    split at h
    · rename_i range
      have first : 48 ≤ c.toNat := range.1
      have last : c.toNat ≤ 57 := range.2
      have place : c.toNat - 48 = d := Option.some.inj h
      have code : c.toNat = 48 + d := by omega
      exact .of_toNat (by omega) code (.inl (ofNat_decimal d (by omega)))
    · split at h
      · rename_i range
        have first : 97 ≤ c.toNat := range.1
        have last : c.toNat ≤ 102 := range.2
        have place : c.toNat - 97 + 10 = d := Option.some.inj h
        have code : c.toNat = 87 + d := by omega
        exact .of_toNat (by omega) code (.inl (letter d (by omega) (by omega)).1)
      · split at h
        · rename_i range
          have first : 65 ≤ c.toNat := range.1
          have last : c.toNat ≤ 70 := range.2
          have place : c.toNat - 65 + 10 = d := Option.some.inj h
          have code : c.toNat = 55 + d := by omega
          exact .of_toNat (by omega) code (.inr (letter d (by omega) (by omega)).2)
        · cases h
  · rintro ⟨small, rfl | rfl⟩
    · exact (read d small).1
    · exact (read d small).2

section Numerals

variable {base : Nat} {digit? : Char → Option Nat}

/-- A numeral is a **non-empty row of digits** with the value of these digits. -/
theorem numeral_iff (reads : Reads base digit?) {t : Text} {n : Nat} :
    Numeral base t n ↔ t ≠ [] ∧ (∀ c ∈ t, (digit? c).isSome = true) ∧
      t.foldl (fun n c => base * n + (digit? c).getD 0) 0 = n := by
  constructor
  · intro numeral
    induction numeral with
    | digit shown =>
      have value := (reads _ _).mpr shown
      simp [value]
    | more first shown ih =>
      obtain ⟨-, digits, value⟩ := ih
      have last := (reads _ _).mpr shown
      refine ⟨by simp, ?_, ?_⟩
      · rw [List.forall_mem_append]
        exact ⟨digits, by simp [last]⟩
      · rw [List.foldl_append, value]
        simp [last]
  · induction t using List.reverseRecOn generalizing n with
    | nil => exact fun h => absurd rfl h.1
    | append_singleton before c ih =>
      rintro ⟨-, digits, rfl⟩
      obtain ⟨first, last⟩ := List.forall_mem_append.mp digits
      obtain ⟨d, value⟩ := Option.isSome_iff_exists.mp (last c List.mem_cons_self)
      have shown := (reads _ _).mp value
      rw [List.foldl_append, List.foldl_cons, List.foldl_nil, value, Option.getD_some]
      by_cases none : before = []
      · subst none
        simpa using Numeral.digit shown
      · exact .more (ih ⟨none, first, rfl⟩) shown

/-- Digits bound a number. -/
theorem Numeral.lt_pow {t : Text} {n : Nat} (numeral : Numeral base t n) :
    n < base ^ t.length := by
  induction numeral with
  | digit shown => simpa using shown.1
  | @more before c n d first shown ih =>
    have small : d < base := shown.1
    calc base * n + d < base * n + base := by omega
      _ = base * (n + 1) := by rw [Nat.mul_succ]
      _ ≤ base * base ^ before.length := Nat.mul_le_mul_left _ ih
      _ = base ^ (before ++ [c]).length := by
        rw [List.length_append, List.length_singleton, Nat.pow_succ, Nat.mul_comm]

/-- The digits of a number are a **numeral of it**. -/
theorem numeral_toDigits (two : 1 < base) (n : Nat) : Numeral base (Nat.toDigits base n) n := by
  induction n using Nat.strongRecOn with
  | ind n ih =>
    rw [Nat.toDigits_eq_if two]
    split
    · rename_i small
      exact .digit ⟨small, .inl rfl⟩
    · rename_i large
      have smaller : n / base < n := Nat.div_lt_self (by omega) two
      have last : IsDigit base (n % base).digitChar (n % base) :=
        ⟨Nat.mod_lt n (by omega), .inl rfl⟩
      have numeral := Numeral.more (ih (n / base) smaller) last
      rwa [Nat.div_add_mod] at numeral

/-- A numeral has **one number**. -/
theorem Numeral.unique (reads : Reads base digit?) {t : Text} {m n : Nat}
    (left : Numeral base t m) (right : Numeral base t n) : m = n := by
  obtain ⟨-, -, value⟩ := (numeral_iff reads).mp left
  obtain ⟨-, -, value'⟩ := (numeral_iff reads).mp right
  exact value.symm.trans value'

/-- A text with a numeral in front is read **up to the last digit**. -/
theorem numeral?_eq_some_iff (reads : Reads base digit?) {width n : Nat} {t rest : Text} :
    numeral? digit? base width t = some (n, rest) ↔
      ∃ digits, t = digits ++ rest ∧ Numeral base digits n ∧ digits.length ≤ width ∧
        Text.Ends (fun c => (digit? c).isSome) rest := by
  simp only [numeral_iff reads]
  constructor
  · intro h
    rw [numeral?] at h
    split at h
    · cases h
    · rename_i fits
      simp only [Bool.or_eq_true, List.isEmpty_iff, decide_eq_true_eq, not_or] at fits
      obtain ⟨rfl, rfl⟩ := Prod.mk.inj (Option.some.inj h)
      have all : ∀ c ∈ t.takeWhile fun c => (digit? c).isSome, (digit? c).isSome = true :=
        fun c taken => List.mem_takeWhile_imp (p := fun c => (digit? c).isSome) taken
      refine ⟨_, ?_, ⟨fits.1, all, rfl⟩, Nat.not_lt.mp fits.2, ?_⟩
      · rw [Text.drop_length_takeWhile]
        exact (List.takeWhile_append_dropWhile).symm
      · rw [Text.drop_length_takeWhile]
        exact Text.ends_dropWhile _ t
  · rintro ⟨digits, rfl, ⟨some, all, rfl⟩, short, ends⟩
    have taken := Text.takeWhile_append all ends
    have fits : ¬ width < digits.length := Nat.not_lt.mpr short
    rw [numeral?, taken]
    simp [some, fits]

end Numerals

/-- The decimal form of a number is a numeral of it. -/
theorem numeral_ofNat (n : Nat) : Numeral 10 (Text.ofNat n) n := numeral_toDigits (by decide) n

/-- Whether a character is a decimal digit. -/
abbrev isDecimal (c : Char) : Bool := (Text.digit? c).isSome

/-- Whether a character is a hexadecimal digit. -/
abbrev isHexadecimal (c : Char) : Bool := (Text.hexDigit? c).isSome

/-- A decimal digit is a hexadecimal one. -/
theorem ends_isDecimal {t : Text} (ends : Text.Ends isHexadecimal t) : Text.Ends isDecimal t := by
  intro c first
  have hexadecimal := ends c first
  simp only [isHexadecimal, isDecimal, Text.hexDigit?, Text.digit?] at hexadecimal ⊢
  split at hexadecimal
  · simp at hexadecimal
  · rename_i other
    rw [if_neg other]
    rfl

/-- A numeral has no character that is no digit. -/
theorem Numeral.not_mem {t : Text} {n : Nat} (numeral : Numeral 10 t n) {c : Char}
    (other : isDecimal c = false) : c ∉ t := by
  intro inside
  have digit := ((numeral_iff reads_digit?).mp numeral).2.1 c inside
  exact absurd other (by rw [isDecimal, digit]; simp)

/-- A bounded numeral is read **up to the last digit**, whatever zeros it has in front. -/
theorem boundedNumeral?_eq_some_iff {limit n : Nat} {t rest : Text} :
    boundedNumeral? limit t = some (n, rest) ↔
      ∃ digits, t = digits ++ rest ∧ Numeral 10 digits n ∧ n ≤ limit ∧
        Text.Ends isDecimal rest := by
  simp only [boundedNumeral?, Option.bind_eq_bind, Option.bind_eq_some_iff, Prod.exists,
    numeral?_eq_some_iff reads_digit?]
  constructor
  · rintro ⟨m, after, ⟨digits, rfl, numeral, -, ends⟩, bounded⟩
    split at bounded
    · rename_i small
      obtain ⟨rfl, rfl⟩ := Prod.mk.inj (Option.some.inj bounded)
      exact ⟨digits, rfl, numeral, small, ends⟩
    · cases bounded
  · rintro ⟨digits, rfl, numeral, small, ends⟩
    exact ⟨n, rest, ⟨digits, rfl, numeral, by simp, ends⟩, if_pos small⟩

/-! ## Bytes and groups -/

/-- An **octet**: at most three decimal digits, without a zero in front of another digit. -/
structure Octet (t : Text) (b : UInt8) : Prop where
  value : Numeral 10 t b.toNat
  short : t.length ≤ 3
  plain : t.head? = some '0' → t.length = 1

/-- A **group**: at most four hexadecimal digits. -/
structure Group (t : Text) (g : UInt16) : Prop where
  value : Numeral 16 t g.toNat
  short : t.length ≤ 4

/-- Four bytes with **dots between**. -/
inductive Dotted : Text → Vector UInt8 4 → Prop where
  | mk {s t u v : Text} {a b c d : UInt8} (first : Octet s a) (second : Octet t b)
      (third : Octet u c) (fourth : Octet v d) :
    Dotted (s ++ '.' :: (t ++ '.' :: (u ++ '.' :: v))) #v[a, b, c, d]

/-- A byte is read from an **octet** that no digit follows. -/
theorem byte?_eq_some_iff {t rest : Text} {b : UInt8} :
    byte? t = some (b, rest) ↔
      ∃ digits, t = digits ++ rest ∧ Octet digits b ∧ Text.Ends isDecimal rest := by
  simp only [byte?, Option.bind_eq_bind, Option.bind_eq_some_iff, Prod.exists,
    numeral?_eq_some_iff reads_digit?]
  constructor
  · rintro ⟨n, after, ⟨digits, rfl, numeral, short, ends⟩, accepted⟩
    split at accepted
    · cases accepted
    · rename_i fits
      obtain ⟨rfl, rfl⟩ := Prod.mk.inj (Option.some.inj accepted)
      simp only [Bool.or_eq_true, Bool.and_eq_true, decide_eq_true_eq, beq_iff_eq, not_or,
        not_and, List.length_append] at fits
      have small : n < 256 := by omega
      obtain ⟨c, more, rfl⟩ := List.exists_cons_of_ne_nil ((numeral_iff reads_digit?).mp numeral).1
      refine ⟨c :: more, rfl, ⟨?_, short, fun zero => ?_⟩, ends⟩
      · rwa [UInt8.toNat_ofNat_of_lt' small]
      · have one := fits.2 (by simpa using zero)
        simp only [List.length_cons] at one ⊢
        omega
  · rintro ⟨digits, rfl, octet, ends⟩
    refine ⟨b.toNat, rest, ⟨digits, rfl, octet.value, octet.short, ends⟩, ?_⟩
    obtain ⟨c, more, rfl⟩ :=
      List.exists_cons_of_ne_nil ((numeral_iff reads_digit?).mp octet.value).1
    have small : ¬ 255 < b.toNat := Nat.not_lt.mpr (Nat.le_of_lt_succ b.toNat_lt)
    have plain : ¬ (c = '0' ∧ rest.length + 1 < (c :: more ++ rest).length) := by
      rintro ⟨rfl, longer⟩
      have one := octet.plain rfl
      simp only [List.length_cons, List.length_append] at one longer
      omega
    rw [if_neg, UInt8.ofNat_toNat]
    simpa [small] using plain

/-- A group is read from at most four **hexadecimal digits** that no further one follows. -/
theorem group?_eq_some_iff {t rest : Text} {g : UInt16} :
    group? t = some (g, rest) ↔
      ∃ digits, t = digits ++ rest ∧ Group digits g ∧ Text.Ends isHexadecimal rest := by
  simp only [group?, Option.bind_eq_bind, Option.bind_eq_some_iff, Prod.exists,
    numeral?_eq_some_iff reads_hexDigit?]
  constructor
  · rintro ⟨n, after, ⟨digits, rfl, numeral, short, ends⟩, read⟩
    obtain ⟨rfl, rfl⟩ := Prod.mk.inj (Option.some.inj read)
    have small : n < 65536 :=
      Nat.lt_of_lt_of_le numeral.lt_pow (Nat.pow_le_pow_right (by decide) short)
    refine ⟨digits, rfl, ⟨?_, short⟩, ends⟩
    rwa [UInt16.toNat_ofNat_of_lt' small]
  · rintro ⟨digits, rfl, group, ends⟩
    refine ⟨g.toNat, rest, ⟨digits, rfl, group.value, group.short, ends⟩, ?_⟩
    rw [UInt16.ofNat_toNat]

theorem skip?_eq_some_iff {c : Char} {t rest : Text} : skip? c t = some rest ↔ t = c :: rest := by
  cases t with
  | nil => simp [skip?]
  | cons d t =>
    rw [skip?]
    split
    · simp_all
    · simp_all

/-- **Four bytes** are read from octets with dots between. -/
theorem bytes?_eq_some_iff {t rest : Text} {bytes : Vector UInt8 4} :
    bytes? t = some (bytes, rest) ↔
      ∃ literal, t = literal ++ rest ∧ Dotted literal bytes ∧ Text.Ends isDecimal rest := by
  have dot (t : Text) : Text.Ends isDecimal ('.' :: t) := Text.ends_cons.mpr (by decide)
  simp only [bytes?, Option.bind_eq_bind, Option.bind_eq_some_iff, Prod.exists,
    byte?_eq_some_iff, skip?_eq_some_iff]
  constructor
  · rintro ⟨a, _, ⟨s, rfl, first, -⟩, _, rfl, b, _, ⟨t, rfl, second, -⟩, _, rfl, c, _,
      ⟨u, rfl, third, -⟩, _, rfl, d, after, ⟨v, rfl, fourth, ends⟩, read⟩
    obtain ⟨rfl, rfl⟩ := Prod.mk.inj (Option.some.inj read)
    exact ⟨_, by simp, .mk first second third fourth, ends⟩
  · rintro ⟨_, rfl, ⟨first, second, third, fourth⟩, ends⟩
    exact ⟨_, _, ⟨_, by simp, first, dot _⟩, _, rfl, _, _, ⟨_, rfl, second, dot _⟩, _, rfl, _, _,
      ⟨_, rfl, third, dot _⟩, _, rfl, _, rest, ⟨_, rfl, fourth, ends⟩, rfl⟩

end StaticGzip.Address
