import StaticGzip.Text.Basic

/-! # Dates and times of day

A moment is a number of seconds since the start of 1970 in universal time, with nanoseconds and
the offset of the local clock. Its date is that of the Gregorian calendar, continued in both
directions.

* **`Date.ofDay`** — the date of a day number. Eras of 400 years of 146097 days begin on the first
  of March, so that a leap day is the last day of its year.
* **`Moment.logTime`** — the time as in `10/Oct/2000:13:55:36 -0700`.
* **`Moment.isoTime`** — the time as in `2000-10-10T13:55:36-07:00`.
* **`Moment.headerTime`** — the time as in `Tue, 10 Oct 2000 20:55:36 GMT`. -/

namespace StaticGzip

/-! ## Dates -/

/-- A **date** of the calendar; the month counts from 1. -/
structure Date where
  year : Int
  month : Nat
  day : Nat
deriving DecidableEq, Repr

namespace Date

/-- Days in an era of 400 years. -/
def daysPerEra : Nat := 146097

/-- Days from the first of March of the year 0 to the first of January 1970. -/
def epochDay : Nat := 719468

/-- The year within an era of a day within it. -/
def yearOfEra (dayOfEra : Nat) : Nat :=
  (dayOfEra - dayOfEra / 1460 + dayOfEra / 36524 - dayOfEra / 146096) / 365

/-- The first day within an era of a year within it. -/
def firstDayOfYear (yearOfEra : Nat) : Nat := 365 * yearOfEra + yearOfEra / 4 - yearOfEra / 100

/-- The date of a day, counted from the first of January 1970. -/
def ofDay (day : Int) : Date :=
  let shifted := day + epochDay
  let era := shifted / daysPerEra
  let dayOfEra := (shifted % daysPerEra).toNat
  let year := yearOfEra dayOfEra
  let dayOfYear := dayOfEra - firstDayOfYear year
  let fromMarch := (5 * dayOfYear + 2) / 153
  let month := if fromMarch < 10 then fromMarch + 3 else fromMarch - 9
  { year := era * 400 + year + (if month ≤ 2 then 1 else 0)
    month := month
    day := dayOfYear - (153 * fromMarch + 2) / 5 + 1 }

/-- The day of a date, counted from the first of January 1970. -/
def toDay (d : Date) : Int :=
  let year := if d.month ≤ 2 then d.year - 1 else d.year
  let era := year / 400
  let yearOfEra := (year % 400).toNat
  let fromMarch := if 2 < d.month then d.month - 3 else d.month + 9
  let dayOfYear := (153 * fromMarch + 2) / 5 + d.day - 1
  era * daysPerEra + (firstDayOfYear yearOfEra + dayOfYear : Nat) - epochDay

/-- The names of the months. -/
def monthNames : List String :=
  ["Jan", "Feb", "Mar", "Apr", "May", "Jun", "Jul", "Aug", "Sep", "Oct", "Nov", "Dec"]

/-- The name of the month. -/
def monthName (d : Date) : Text := ((monthNames.getD (d.month - 1) "").toList)

/-- The names of the days of the week, from that of the first of January 1970. -/
def weekdayNames : List String := ["Thu", "Fri", "Sat", "Sun", "Mon", "Tue", "Wed"]

/-- The name of the day of the week of a day, counted from the first of January 1970. -/
def weekdayName (day : Int) : Text := (weekdayNames.getD (day % 7).toNat "").toList

/-- The year with at least four digits; outside the years 0 to 9999 it has a sign, which counts as
one of five places. -/
def yearText (year : Int) : Text :=
  if 0 ≤ year ∧ year ≤ 9999 then Text.padded 4 year.toNat
  else (if year < 0 then '-' else '+') :: Text.padded 4 year.natAbs

end Date

/-! ## Moments -/

/-- A **moment** as the local clock shows it: seconds since the start of 1970 in universal time,
nanoseconds, and the offset of the clock in seconds. A thousand million nanoseconds or more are a
leap second. -/
structure Moment where
  seconds : Int
  nanos : Nat
  offset : Int
deriving DecidableEq, Repr

namespace Moment

/-- Nanoseconds in a second. -/
def nanosPerSecond : Nat := 1000000000

/-- Seconds in a day. -/
def secondsPerDay : Nat := 86400

/-- The seconds that the local clock has counted. -/
def localSeconds (m : Moment) : Int := m.seconds + m.offset

/-- The local date. -/
def date (m : Moment) : Date := .ofDay (m.localSeconds / secondsPerDay)

/-- The seconds since local midnight. -/
def secondOfDay (m : Moment) : Nat := (m.localSeconds % secondsPerDay).toNat

/-- The second that is shown; a leap second counts one further. -/
def shownSecond (m : Moment) : Nat := m.secondOfDay % 60 + m.nanos / nanosPerSecond

/-- Hour, minute and second with colons between. -/
def clock (m : Moment) : Text :=
  Text.padded 2 (m.secondOfDay / 3600) ++ ':' :: Text.padded 2 (m.secondOfDay / 60 % 60)
    ++ ':' :: Text.padded 2 m.shownSecond

/-- The offset as a sign, hours, a separator and minutes. Seconds are rounded to the nearest
minute, a half away from zero; the sign is that of the exact offset. -/
def zone (separator : Text) (m : Moment) : Text :=
  let minutes := (m.offset.natAbs + 30) / 60
  (if m.offset < 0 then '-' else '+') ::
    Text.padded 2 (minutes / 60) ++ separator ++ Text.padded 2 (minutes % 60)

/-- The fraction of a second in as many groups of three digits as it needs. -/
def fraction (m : Moment) : Text :=
  let n := m.nanos % nanosPerSecond
  if n = 0 then []
  else if n % 1000000 = 0 then '.' :: Text.padded 3 (n / 1000000)
  else if n % 1000 = 0 then '.' :: Text.padded 6 (n / 1000)
  else '.' :: Text.padded 9 n

/-- The **time in an access line**: day, month, year, clock and zone. -/
def logTime (m : Moment) : Text :=
  Text.padded 2 m.date.day ++ '/' :: m.date.monthName ++ '/' :: Date.yearText m.date.year
    ++ ':' :: m.clock ++ ' ' :: m.zone []

/-- The **time as a sortable stamp**: year, month, day, clock, fraction and zone. -/
def isoTime (m : Moment) : Text :=
  Date.yearText m.date.year ++ '-' :: Text.padded 2 m.date.month
    ++ '-' :: Text.padded 2 m.date.day ++ 'T' :: m.clock ++ m.fraction ++ m.zone [':']

/-- The time at the start of a log line: in universal time, to the microsecond. -/
def stamp (m : Moment) : Text :=
  let m := { m with offset := 0 }
  Date.yearText m.date.year ++ '-' :: Text.padded 2 m.date.month
    ++ '-' :: Text.padded 2 m.date.day ++ 'T' :: m.clock
    ++ '.' :: Text.padded 6 (m.nanos % nanosPerSecond / 1000) ++ ['Z']

/-- The **time in a header**: day of the week, day, month, year and clock in universal time. -/
def headerTime (m : Moment) : Text :=
  let m := { m with offset := 0 }
  Date.weekdayName (m.localSeconds / secondsPerDay) ++ ',' :: ' ' :: Text.padded 2 m.date.day
    ++ ' ' :: m.date.monthName ++ ' ' :: Date.yearText m.date.year ++ ' ' :: m.clock
    ++ " GMT".toList

end Moment

end StaticGzip
