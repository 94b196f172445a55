import StaticGzip.Proofs.Calendar.Gregorian
import StaticGzip.Proofs.Text.Numeral
import StaticGzip.Proofs.Text.Run
import StaticGzip.Text.Reader

/-! # Reading times back

A sortable stamp shows the date and the time of day of the local clock to the nanosecond, and the
offset of that clock to the minute.

* **`Moment.date?`, `Moment.clock?`, `Moment.fraction?`, `Moment.zone?`** — the readers of its
  parts.
* **`Moment.ofIsoTime?`** — the moment that a stamp shows.
* **`Moment.Shown`** — the moments that a stamp shows in full.
* **`Moment.ofIsoTime?_isoTime`** — each of them is read back from its stamp. -/

namespace StaticGzip

/-! ## Numerals of a fixed width -/

namespace Text

variable {rest : Text}

/-- The value of the **digits** in front of a text, and the rest of it. -/
def number? : Reader Nat := fun t =>
  (Reader.many1? Char.isDigit t).map fun (digits, rest) => (Decimal.digitsValue digits, rest)

/-- The value of **exactly so many digits** in front of a text, and the rest of it. -/
def digits? (width : Nat) : Reader Nat := fun t =>
  let digits := t.take width
  if digits.length = width ∧ digits.all Char.isDigit then
    some (Decimal.digitsValue digits, t.drop width)
  else none

/-- Zeros in front do not change the value of a numeral. -/
@[simp] theorem digitsValue_padded (width n : Nat) : Decimal.digitsValue (padded width n) = n := by
  have zeros (k : Nat) (t : Text) :
      Decimal.digitsValue (List.replicate k '0' ++ t) = Decimal.digitsValue t := by
    induction k with
    | zero => rfl
    | succ k ih => exact ih
  rw [padded, List.leftpad, zeros, digitsValue_ofNat]

theorem isNumeral_padded (width n : Nat) : IsNumeral (padded width n) := by
  obtain ⟨ne, digits⟩ := isNumeral_ofNat n
  rw [padded, List.leftpad]
  refine ⟨List.append_ne_nil_of_right_ne_nil _ ne, List.forall_mem_append.mpr ⟨?_, digits⟩⟩
  intro c zero
  rw [List.eq_of_mem_replicate zero]
  rfl

/-- A number is **read back** from its numeral, however many zeros stand in front. -/
theorem number?_padded_append (width n : Nat) (ends : Ends Char.isDigit rest) :
    number? (padded width n ++ rest) = some (n, rest) := by
  obtain ⟨ne, digits⟩ := isNumeral_padded width n
  rw [number?, Reader.many1?, takeWhile_append digits ends, dropWhile_append digits ends]
  simp [ne]

/-- A numeral of a number that is small enough is **as wide as it should be**. -/
theorem length_padded {width n : Nat} (some : 0 < width) (fits : n < 10 ^ width) :
    (padded width n).length = width := by
  have short : (ofNat n).length ≤ width :=
    (Nat.length_toDigits_le_iff (by decide) some).mpr fits
  rw [padded, List.length_leftpad, Nat.max_eq_left short]

/-- A number is read back from its numeral of a **fixed width**, whatever follows. -/
theorem digits?_padded_append {width n : Nat} (some : 0 < width) (fits : n < 10 ^ width)
    (rest : Text) : digits? width (padded width n ++ rest) = .some (n, rest) := by
  have length := length_padded some fits
  obtain ⟨-, digits⟩ := isNumeral_padded width n
  rw [digits?, List.take_left' length, List.drop_left' length,
    if_pos ⟨length, List.all_eq_true.mpr digits⟩, digitsValue_padded]

/-- What begins with another character begins with **no digits**. -/
theorem digits?_of_not_isDigit {c : Char} (other : c.isDigit = false) (width : Nat)
    (rest : Text) : digits? (width + 1) (c :: rest) = none := by
  rw [digits?, List.take_succ_cons, List.all_cons, other, Bool.false_and]
  exact if_neg fun found => Bool.false_ne_true found.2

end Text

/-! ## Stamps -/

namespace Moment

open Text (number? digits? Ends)
open Reader (skip?)

/-- A **sign** as a factor. -/
def sign? : Reader Int
  | '+' :: rest => some (1, rest)
  | '-' :: rest => some (-1, rest)
  | _ => none

/-- A **year**: four digits, or a sign and any digits. -/
def year? : Reader Int := fun t =>
  match digits? 4 t with
  | some (n, rest) => some (n, rest)
  | none => do
    let (sign, t) ← sign? t
    let (n, rest) ← number? t
    some (sign * n, rest)

/-- A fraction of a second in nanoseconds. Without a point there is none. -/
def fraction? : Reader Nat := fun t =>
  match t with
  | '.' :: t => do
    let (digits, rest) ← Reader.many1? Char.isDigit t
    some (Decimal.digitsValue digits * 10 ^ (9 - digits.length), rest)
  | t => some (0, t)

/-- The **offset** of a clock in seconds: a sign, hours in some form, a separator, and minutes. -/
def zone? (hours? : Reader Nat) (separator : Text) : Reader Int := fun t => do
  let (sign, t) ← sign? t
  let (hours, t) ← hours? t
  let (minutes, rest) ← digits? 2 (← skip? separator t)
  if minutes < 60 then some (sign * (hours * 3600 + minutes * 60 : Nat), rest) else none

/-- A **date**: the year, and month and day by their numbers. -/
def date? : Reader Date := fun t => do
  let (year, t) ← year? t
  let (month, t) ← digits? 2 (← skip? ['-'] t)
  let (day, rest) ← digits? 2 (← skip? ['-'] t)
  some (⟨year, month, day⟩, rest)

/-- Hour, minute and second. -/
def clock? : Reader (Nat × Nat × Nat) := fun t => do
  let (hour, t) ← digits? 2 t
  let (minute, t) ← digits? 2 (← skip? [':'] t)
  let (second, rest) ← digits? 2 (← skip? [':'] t)
  some ((hour, minute, second), rest)

/-- The **moment that a stamp shows**. The 60th second of a minute is a leap second, which goes on
for a thousand million nanoseconds more than the second before it. -/
def ofIsoTime? (t : Text) : Option Moment := do
  let (date, t) ← date? t
  let ((hour, minute, second), t) ← clock? (← skip? ['T'] t)
  let (nanos, t) ← fraction? t
  let (offset, t) ← zone? number? [':'] t
  let leap := second / 60
  let sinceMidnight := hour * 3600 + minute * 60 + (second - leap)
  if t.isEmpty then
    some ⟨date.toDay * secondsPerDay + sinceMidnight - offset, leap * nanosPerSecond + nanos,
      offset⟩
  else none

/-- A moment is **shown in full** by its stamp: the offset of its clock is in whole minutes, and a
leap second is the 60th of its minute. -/
structure Shown (m : Moment) : Prop where
  minutes : m.offset % 60 = 0
  leap : m.nanos < nanosPerSecond ∨ m.nanos < 2 * nanosPerSecond ∧ m.secondOfDay % 60 = 59

variable {rest : Text}

/-- The **sign of a number** is read as the factor that its size lacks. -/
theorem exists_sign? (n : Int) : ∃ sign : Int, sign * n.natAbs = n ∧
    ∀ rest, sign? ((if n < 0 then '-' else '+') :: rest) = some (sign, rest) := by
  by_cases negative : n < 0
  · exact ⟨-1, by omega, fun rest => by rw [if_pos negative]; rfl⟩
  · exact ⟨1, by omega, fun rest => by rw [if_neg negative]; rfl⟩

/-- A **year** is read back, be it before the year 0 or after the year 9999. -/
theorem year?_yearText_append (year : Int) (ends : Ends Char.isDigit rest) :
    year? (Date.yearText year ++ rest) = some (year, rest) := by
  rw [Date.yearText]
  split
  · rename_i plain
    rw [year?, Text.digits?_padded_append (by decide) (by omega)]
    dsimp only
    rw [Int.toNat_of_nonneg plain.1]
  · have digits := Text.number?_padded_append 4 year.natAbs ends
    have noDigit : (if year < 0 then '-' else '+').isDigit = false := by split <;> decide
    obtain ⟨sign, value, read⟩ := exists_sign? year
    rw [year?, List.cons_append, Text.digits?_of_not_isDigit noDigit]
    simp only [read, digits, Option.bind_eq_bind, Option.bind_some, value]

/-- A **fraction** of a second is read back. -/
theorem fraction?_append (m : Moment) (ends : Ends Char.isDigit rest)
    (noPoint : Ends (· == '.') rest) :
    fraction? (m.fraction ++ rest) = some (m.nanos % nanosPerSecond, rest) := by
  have places (width n : Nat) (some : 0 < width) (fits : n < 10 ^ width) :
      fraction? ('.' :: Text.padded width n ++ rest) = .some (n * 10 ^ (9 - width), rest) := by
    obtain ⟨ne, digits⟩ := Text.isNumeral_padded width n
    rw [List.cons_append, fraction?, Reader.many1?, Text.takeWhile_append digits ends,
      Text.dropWhile_append digits ends]
    simp [ne, Text.length_padded some fits]
  have small : m.nanos % nanosPerSecond < 1000000000 := Nat.mod_lt _ (by decide)
  rw [fraction]
  generalize m.nanos % nanosPerSecond = n at small ⊢
  split
  · rename_i none
    rw [none, List.nil_append]
    cases rest with
    | nil => rfl
    | cons c rest =>
      have other : c ≠ '.' := by simpa using noPoint
      rw [fraction?.eq_2 _ fun _ same => other (List.cons.inj same).1]
  · split
    · rw [places 3 _ (by decide) (by omega), (by omega : n / 1000000 * 10 ^ (9 - 3) = n)]
    · split
      · rw [places 6 _ (by decide) (by omega), (by omega : n / 1000 * 10 ^ (9 - 6) = n)]
      · rw [places 9 _ (by decide) (by omega), Nat.sub_self, Nat.pow_zero, Nat.mul_one]

/-- The **offset** of a clock is read back if it is in whole minutes, and its hours are read back in
front of the separator. -/
theorem zone?_zone {m : Moment} {hours? : Reader Nat} {separator : Text}
    (aligned : m.offset % 60 = 0)
    (read : ∀ rest, hours? (Text.padded 2 ((m.offset.natAbs + 30) / 60 / 60) ++ (separator ++ rest))
      = some ((m.offset.natAbs + 30) / 60 / 60, separator ++ rest)) :
    zone? hours? separator (m.zone separator) = some (m.offset, []) := by
  have minutes : (m.offset.natAbs + 30) / 60 % 60 < 60 := Nat.mod_lt _ (by decide)
  -- The clock is off by whole minutes, so that rounding to them changes nothing.
  have size : (m.offset.natAbs + 30) / 60 / 60 * 3600 + (m.offset.natAbs + 30) / 60 % 60 * 60
      = m.offset.natAbs := by omega
  have last := Text.digits?_padded_append (by decide : 0 < 2)
    (Nat.lt_trans minutes (by decide : 60 < 10 ^ 2)) []
  rw [List.append_nil] at last
  obtain ⟨sign, value, signed⟩ := exists_sign? m.offset
  rw [zone, List.append_assoc, List.cons_append, zone?]
  simp only [signed, read, Reader.skip?_append, last, Option.bind_eq_bind, Option.bind_some]
  rw [if_pos minutes, size, value]

/-- The offset **ends** what neither sign continues. -/
theorem ends_zone (m : Moment) (separator : Text) {p : Char → Bool} (plus : p '+' = false)
    (minus : p '-' = false) : Ends p (m.zone separator) := by
  rw [zone]
  refine Text.ends_cons.mpr ?_
  split
  · exact minus
  · exact plus

variable {m : Moment}

/-- A **date** is read back. -/
theorem date?_append {d : Date} (valid : d.IsValid) (rest : Text) :
    date? (Date.yearText d.year ++ '-' :: (Text.padded 2 d.month
      ++ '-' :: (Text.padded 2 d.day ++ rest))) = some (d, rest) := by
  have dash (t : Text) : Ends Char.isDigit ('-' :: t) := Text.ends_cons.mpr (by decide)
  have skip (t : Text) : skip? ['-'] ('-' :: t) = some t := rfl
  have month : d.month < 10 ^ 2 := Nat.lt_of_le_of_lt valid.month_le (by decide)
  rw [date?, year?_yearText_append _ (dash _)]
  simp only [Option.bind_eq_bind, Option.bind_some, skip,
    Text.digits?_padded_append (by decide) month,
    Text.digits?_padded_append (by decide) valid.day_lt]

theorem secondOfDay_lt (m : Moment) : m.secondOfDay < 86400 := by
  have small := Int.emod_lt_of_pos m.localSeconds (by decide : (0 : Int) < secondsPerDay)
  have positive := Int.emod_nonneg m.localSeconds (by decide : (secondsPerDay : Int) ≠ 0)
  unfold secondOfDay
  unfold secondsPerDay at *
  omega

/-- A **time of day** is read back. -/
theorem clock?_append (m : Moment) (short : m.shownSecond < 10 ^ 2) (rest : Text) :
    clock? (m.clock ++ rest)
      = some ((m.secondOfDay / 3600, m.secondOfDay / 60 % 60, m.shownSecond), rest) := by
  have day := m.secondOfDay_lt
  have hour : m.secondOfDay / 3600 < 10 ^ 2 := by omega
  have minute : m.secondOfDay / 60 % 60 < 10 ^ 2 :=
    Nat.lt_trans (Nat.mod_lt _ (by decide)) (by decide : 60 < 10 ^ 2)
  have skip (t : Text) : skip? [':'] (':' :: t) = some t := rfl
  have text : m.clock ++ rest = Text.padded 2 (m.secondOfDay / 3600)
      ++ ':' :: (Text.padded 2 (m.secondOfDay / 60 % 60)
        ++ ':' :: (Text.padded 2 m.shownSecond ++ rest)) := by
    rw [clock, List.append_assoc, List.append_assoc, List.cons_append, List.cons_append]
  rw [text, clock?]
  simp only [Text.digits?_padded_append (by decide) hour, skip,
    Text.digits?_padded_append (by decide) minute, Text.digits?_padded_append (by decide) short,
    Option.bind_eq_bind, Option.bind_some]

/-- A moment is **read back** from its stamp. -/
theorem ofIsoTime?_isoTime (shown : m.Shown) : ofIsoTime? m.isoTime = some m := by
  have skip (t : Text) : skip? ['T'] ('T' :: t) = some t := rfl
  have zoneEnds : Ends Char.isDigit (m.zone [':']) := m.ends_zone [':'] rfl rfl
  have zoneNoPoint : Ends (· == '.') (m.zone [':']) := m.ends_zone [':'] rfl rfl
  have text : m.isoTime = Date.yearText m.date.year ++ '-' :: (Text.padded 2 m.date.month
      ++ '-' :: (Text.padded 2 m.date.day
        ++ 'T' :: (m.clock ++ (m.fraction ++ m.zone [':'])))) := by
    simp [isoTime]
  have offset : zone? number? [':'] (m.zone [':']) = some (m.offset, []) :=
    zone?_zone shown.minutes fun rest =>
      Text.number?_padded_append 2 _ (Text.ends_cons.mpr (by decide))
  have nanos : m.nanos / nanosPerSecond * nanosPerSecond + m.nanos % nanosPerSecond = m.nanos :=
    Nat.div_add_mod' m.nanos nanosPerSecond
  have date : m.date.IsValid := Date.isValid_ofDay _
  have day : m.date.toDay = m.localSeconds / secondsPerDay := Date.toDay_ofDay _
  -- A leap second is shown one further than the second before it, for which it counts.
  obtain ⟨short, leap, second⟩ : m.shownSecond < 10 ^ 2
      ∧ m.shownSecond / 60 = m.nanos / nanosPerSecond
      ∧ m.shownSecond - m.shownSecond / 60 = m.secondOfDay % 60 := by
    have leap := shown.leap
    unfold shownSecond
    unfold nanosPerSecond at leap ⊢
    omega
  have whole : m.secondOfDay / 3600 * 3600 + m.secondOfDay / 60 % 60 * 60 + m.secondOfDay % 60
      = m.secondOfDay := by omega
  have seconds : m.localSeconds / secondsPerDay * secondsPerDay + m.secondOfDay - m.offset
      = m.seconds := by
    have positive : (0 : Int) < secondsPerDay := by decide
    have secondOfDay : (m.secondOfDay : Int) = m.localSeconds % secondsPerDay :=
      Int.toNat_of_nonneg (Int.emod_nonneg m.localSeconds (Int.ne_of_gt positive))
    rw [secondOfDay, Int.mul_comm, Int.mul_ediv_add_emod, localSeconds, Int.add_sub_cancel]
  rw [text, ofIsoTime?, date?_append date]
  simp only [Option.bind_eq_bind, Option.bind_some, skip, m.clock?_append short,
    m.fraction?_append zoneEnds zoneNoPoint, offset]
  rw [second, leap, whole, day, nanos, seconds]
  rfl

/-- Moments with **one stamp** that shows them in full are the same. -/
theorem eq_of_isoTime {a b : Moment} (same : a.isoTime = b.isoTime) (ha : a.Shown) (hb : b.Shown) :
    a = b := by
  have read := ofIsoTime?_isoTime ha
  rw [same, ofIsoTime?_isoTime hb] at read
  exact (Option.some.inj read).symm

end Moment

end StaticGzip
