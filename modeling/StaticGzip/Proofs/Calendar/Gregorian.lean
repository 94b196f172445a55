import Mathlib.Data.Nat.Basic
import Mathlib.Order.Monotone.Basic
import Mathlib.Tactic.IntervalCases
import StaticGzip.Proofs.Calendar.Dates

/-! # The Gregorian calendar

The calendar by its rules: which years are leap years, how long their months are, and which date
comes after which. The days of a date are counted by whole years, whole months and days, and the
count goes on in both directions as if the rules had always been in force.

* **`Date.IsValid`, `Date.next`** — the dates of the calendar, and the date of the next day.
* **`Date.number`, `Date.number_next`** — the number of a date, one more every day.
* **`Date.isValid_ofDay`, `Date.number_ofDay`, `Date.ofDay_number`** — days and the dates of the
  calendar are each other's.
* **`Date.ofDay_succ`** — the date of the next day is the next date. -/

namespace StaticGzip.Date

/-! ## The rules -/

/-- A **leap year** is divisible by four, and by four hundred if it is divisible by a hundred. -/
def IsLeapYear (year : Int) : Prop := year % 4 = 0 ∧ (year % 100 = 0 → year % 400 = 0)

instance : DecidablePred IsLeapYear := fun _ => inferInstanceAs (Decidable (_ ∧ _))

/-- The **length of a month**. -/
def daysInMonth (year : Int) : Nat → Nat
  | 2 => if IsLeapYear year then 29 else 28
  | 4 | 6 | 9 | 11 => 30
  | _ => 31

/-- The length of a year. -/
def daysInYear (year : Int) : Nat := if IsLeapYear year then 366 else 365

/-- A date **of the calendar**. -/
structure IsValid (d : Date) : Prop where
  month_pos : 1 ≤ d.month
  month_le : d.month ≤ 12
  day_pos : 1 ≤ d.day
  day_le : d.day ≤ daysInMonth d.year d.month

theorem isValid_iff {d : Date} : d.IsValid ↔
    1 ≤ d.month ∧ d.month ≤ 12 ∧ 1 ≤ d.day ∧ d.day ≤ daysInMonth d.year d.month :=
  ⟨fun h => ⟨h.month_pos, h.month_le, h.day_pos, h.day_le⟩, fun ⟨a, b, c, e⟩ => ⟨a, b, c, e⟩⟩

instance : DecidablePred IsValid := fun _ => decidable_of_iff _ isValid_iff.symm

/-- The date of the **next day**. -/
def next (d : Date) : Date :=
  if d.day < daysInMonth d.year d.month then { d with day := d.day + 1 }
  else if d.month < 12 then ⟨d.year, d.month + 1, 1⟩
  else ⟨d.year + 1, 1, 1⟩

/-- The leap days from the year 1 up to a year. -/
def leapDaysBefore (year : Int) : Int := (year - 1) / 4 - (year - 1) / 100 + (year - 1) / 400

/-- The first of January of a year, counted from that of 1970. -/
def newYear (year : Int) : Int := 365 * (year - 1970) + (leapDaysBefore year - leapDaysBefore 1970)

/-- The days of a year before a month. -/
def daysBeforeMonth (year : Int) (month : Nat) : Nat :=
  ((List.range' 1 (month - 1)).map (daysInMonth year)).sum

/-- The **number of a date**: the days from the first of January 1970 up to it. -/
def number (d : Date) : Int := newYear d.year + daysBeforeMonth d.year d.month + (d.day - 1)

/-! ## From day to day -/

variable {d e : Date}

/-- No month is shorter than **28 days** or longer than **31**. -/
theorem daysInMonth_bounds (year : Int) (month : Nat) :
    28 ≤ daysInMonth year month ∧ daysInMonth year month ≤ 31 := by
  unfold daysInMonth
  split
  · split <;> decide
  all_goals decide

/-- The number of a day in its month has **two digits**. -/
theorem IsValid.day_lt (valid : d.IsValid) : d.day < 10 ^ 2 :=
  Nat.lt_of_le_of_lt (valid.day_le.trans (daysInMonth_bounds _ _).2) (by decide)

/-- From one first of January to the next it is **a year**. -/
theorem newYear_succ (year : Int) : newYear (year + 1) = newYear year + daysInYear year := by
  by_cases leap : IsLeapYear year
  · rw [daysInYear, if_pos leap]
    unfold IsLeapYear at leap
    unfold newYear leapDaysBefore
    omega
  · rw [daysInYear, if_neg leap]
    unfold IsLeapYear at leap
    unfold newYear leapDaysBefore
    omega

theorem daysBeforeMonth_succ (year : Int) {month : Nat} (some : 1 ≤ month) :
    daysBeforeMonth year (month + 1) = daysBeforeMonth year month + daysInMonth year month := by
  obtain ⟨n, rfl⟩ := Nat.exists_eq_add_of_le' some
  rw [daysBeforeMonth, daysBeforeMonth, Nat.add_sub_cancel, Nat.add_sub_cancel,
    List.range'_concat, List.map_append, List.sum_append]
  simp [Nat.add_comm]

/-- The months of a year **make the year**. -/
theorem daysBeforeMonth_thirteen (year : Int) : daysBeforeMonth year 13 = daysInYear year := by
  simp only [daysBeforeMonth, List.range', List.map_cons, List.map_nil, List.sum_cons, List.sum_nil,
    daysInMonth, daysInYear]
  split <;> rfl

/-- The **next date** has the next number. -/
theorem number_next (valid : d.IsValid) : d.next.number = d.number + 1 := by
  have last := valid.day_le
  have whole := daysBeforeMonth_succ d.year valid.month_pos
  unfold next
  split
  · simp only [number, Nat.cast_add, Nat.cast_one]
    omega
  · split
    · simp only [number, whole]
      omega
    · have december : d.month + 1 = 13 := by
        have := valid.month_le
        omega
      rw [december, daysBeforeMonth_thirteen] at whole
      have january : daysBeforeMonth (d.year + 1) 1 = 0 := rfl
      simp only [number, newYear_succ, january, whole]
      omega

/-- The next date **is a date of the calendar** too. -/
theorem IsValid.next (valid : d.IsValid) : d.next.IsValid := by
  have some (year : Int) (month : Nat) : 1 ≤ daysInMonth year month :=
    Nat.le_trans (by decide) (daysInMonth_bounds year month).1
  unfold Date.next
  split
  · exact ⟨valid.month_pos, valid.month_le, Nat.le_add_left _ _, ‹_›⟩
  · split
    · exact ⟨Nat.le_add_left _ _, ‹_›, Nat.le_refl _, some _ _⟩
    · exact ⟨Nat.le_refl _, Nat.le_add_left _ _, Nat.le_refl _, some _ _⟩

/-! ## Days and dates -/

/-- From March on, every five months **have 153 days**. -/
theorem daysInMonth_add_three (year : Int) {n : Nat} (h : n < 10) :
    (153 * n + 2) / 5 + daysInMonth year (n + 3) = (153 * (n + 1) + 2) / 5 := by
  interval_cases n <;> rfl

/-- March begins **306 days before the end** of the year. -/
theorem daysBeforeMonth_add_three (year : Int) {n : Nat} (h : n < 10) :
    daysBeforeMonth year (n + 3) + 306 = daysInYear year + (153 * n + 2) / 5 := by
  induction n with
  | zero =>
    unfold daysInYear
    split <;> rename_i leap <;>
      simp [daysBeforeMonth, List.range', daysInMonth, leap]
  | succ n ih =>
    have whole := ih (by omega)
    have month := daysInMonth_add_three year (by omega : n < 10)
    have next := daysBeforeMonth_succ year (by omega : 1 ≤ n + 3)
    rw [Nat.add_right_comm n 1 3, next]
    omega

/-- The **first of March** by eras, and by the next first of January. -/
theorem firstOfMarch_eq (year : Int) :
    year / 400 * daysPerEra + firstDayOfYear (year % 400).toNat - epochDay
      = newYear (year + 1) - 306 := by
  unfold newYear leapDaysBefore firstDayOfYear daysPerEra epochDay
  omega

/-- The days of a date are **counted alike** from the first of January and from the first of
March. -/
theorem toDay_eq_number (valid : d.IsValid) : d.toDay = d.number := by
  have pos := valid.month_pos
  have last := valid.month_le
  have first := valid.day_pos
  -- January and February belong to the year that began with the March before them.
  rcases Nat.lt_or_ge 2 d.month with march | january
  · have before := daysBeforeMonth_add_three d.year (by omega : d.month - 3 < 10)
    rw [Nat.sub_add_cancel march] at before
    have year := newYear_succ d.year
    have spring := firstOfMarch_eq d.year
    unfold toDay number
    rw [if_neg (by omega : ¬ d.month ≤ 2), if_pos march]
    dsimp only
    omega
  · have before : daysBeforeMonth d.year d.month + 306 = (153 * (d.month + 9) + 2) / 5 := by
      obtain first | second : d.month = 1 ∨ d.month = 2 := by omega
      · rw [first]
        rfl
      · rw [second]
        rfl
    have spring := firstOfMarch_eq (d.year - 1)
    rw [Int.sub_add_cancel] at spring
    unfold toDay number
    rw [if_pos january, if_neg (Nat.not_lt.mpr january)]
    dsimp only
    omega

/-- Every day has a date **of the calendar**. -/
theorem isValid_ofDay (day : Int) : (ofDay day).IsValid := by
  obtain ⟨era, year, dayOfYear, hy, hd, leap, -, date⟩ := exists_day_eq day
  have months : (5 * dayOfYear + 2) / 153 ≤ 11 := by omega
  have begun : (153 * ((5 * dayOfYear + 2) / 153) + 2) / 5 ≤ dayOfYear := by omega
  have ends : dayOfYear < (153 * ((5 * dayOfYear + 2) / 153 + 1) + 2) / 5 := by omega
  rw [date]
  dsimp only
  generalize (5 * dayOfYear + 2) / 153 = fromMarch at months begun ends ⊢
  -- From March to December the months have their fixed lengths. January and February come last,
  -- in the next year of the calendar, and only there a leap day can be.
  rcases Nat.lt_or_ge fromMarch 10 with early | late
  · have month := daysInMonth_add_three (era * 400 + year) early
    rw [if_pos early, if_neg (by omega), Int.add_zero]
    constructor <;> dsimp only <;> omega
  · rw [if_neg (Nat.not_lt.mpr late), if_pos (by omega)]
    obtain rfl | rfl : fromMarch = 10 ∨ fromMarch = 11 := by omega
    · have january : daysInMonth (era * 400 + year + 1) (10 - 9) = 31 := rfl
      constructor <;> dsimp only <;> omega
    · have february : daysInMonth (era * 400 + year + 1) (11 - 9)
          = if IsLeapYear (era * 400 + year + 1) then 29 else 28 := rfl
      have short : ¬ IsLeapYear (era * 400 + year + 1) → dayOfYear ≠ 365 := by
        intro common last
        obtain ⟨four, century⟩ := leap last
        refine common ⟨by omega, fun hundred => ?_⟩
        have := century (by omega)
        omega
      by_cases kind : IsLeapYear (era * 400 + year + 1)
      · rw [if_pos kind] at february
        constructor <;> dsimp only <;> omega
      · have common := short kind
        rw [if_neg kind] at february
        constructor <;> dsimp only <;> omega

/-- A day is **found again** from its date by the rules of the calendar. -/
theorem number_ofDay (day : Int) : (ofDay day).number = day := by
  rw [← toDay_eq_number (isValid_ofDay day), toDay_ofDay]

/-- The days of a month **come before** a later month. -/
theorem daysBeforeMonth_add_day_le (valid : d.IsValid) {month : Nat} (later : d.month < month) :
    daysBeforeMonth d.year d.month + d.day ≤ daysBeforeMonth d.year month := by
  have grows : Monotone (daysBeforeMonth d.year) := by
    refine monotone_nat_of_le_succ fun n => ?_
    rcases Nat.eq_zero_or_pos n with rfl | some
    · exact Nat.le_refl _
    · exact Nat.le.intro (daysBeforeMonth_succ d.year some).symm
  have whole := daysBeforeMonth_succ d.year valid.month_pos
  have next : daysBeforeMonth d.year (d.month + 1) ≤ daysBeforeMonth d.year month := grows later
  have last := valid.day_le
  omega

/-- A date lies **in its year**. -/
theorem number_bounds (valid : d.IsValid) :
    newYear d.year ≤ d.number ∧ d.number < newYear (d.year + 1) := by
  have first := valid.day_pos
  have whole := daysBeforeMonth_add_day_le valid (Nat.lt_succ_of_le valid.month_le)
  rw [daysBeforeMonth_thirteen] at whole
  rw [newYear_succ, number]
  omega

theorem newYear_le {year later : Int} (h : year < later) : newYear (year + 1) ≤ newYear later := by
  unfold newYear leapDaysBefore
  omega

/-- A date of an earlier year **comes before**. -/
theorem number_lt_of_year_lt (hd : d.IsValid) (he : e.IsValid) (earlier : d.year < e.year) :
    d.number < e.number :=
  calc d.number
    _ < newYear (d.year + 1) := (number_bounds hd).2
    _ ≤ newYear e.year := newYear_le earlier
    _ ≤ e.number := (number_bounds he).1

/-- A date of an earlier month of the year **comes before**. -/
theorem number_lt_of_month_lt (hd : d.IsValid) (he : e.IsValid) (year : d.year = e.year)
    (earlier : d.month < e.month) : d.number < e.number := by
  have first := he.day_pos
  have before := daysBeforeMonth_add_day_le hd earlier
  rw [year] at before
  rw [number, number, year]
  omega

/-- A date of the calendar is told **by its number**. -/
theorem eq_of_number_eq (hd : d.IsValid) (he : e.IsValid) (same : d.number = e.number) : d = e := by
  -- The year is told first, within it the month, and within that the day.
  have year : d.year = e.year := by
    rcases lt_trichotomy d.year e.year with before | eq | after
    · exact absurd same (number_lt_of_year_lt hd he before).ne
    · exact eq
    · exact absurd same (number_lt_of_year_lt he hd after).ne'
  have month : d.month = e.month := by
    rcases lt_trichotomy d.month e.month with before | eq | after
    · exact absurd same (number_lt_of_month_lt hd he year before).ne
    · exact eq
    · exact absurd same (number_lt_of_month_lt he hd year.symm after).ne'
  have day : d.day = e.day := by
    have dayD := hd.day_pos
    have dayE := he.day_pos
    rw [number, number, year, month] at same
    omega
  cases d
  cases e
  simp_all

/-- A date of the calendar is **found again** from its day. -/
theorem ofDay_number (valid : d.IsValid) : ofDay d.number = d :=
  eq_of_number_eq (isValid_ofDay _) valid (number_ofDay _)

/-- The date of the next day is the **next date**. -/
theorem ofDay_succ (day : Int) : ofDay (day + 1) = (ofDay day).next := by
  have valid := isValid_ofDay day
  rw [← ofDay_number valid.next, number_next valid, number_ofDay]

/-- The count begins with the first of January 1970. -/
example : ofDay 0 = ⟨1970, 1, 1⟩ := by decide

end StaticGzip.Date
