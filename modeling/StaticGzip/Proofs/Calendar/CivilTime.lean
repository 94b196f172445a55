import StaticGzip.Proofs.Calendar.Gregorian
import StaticGzip.Proofs.Calendar.IsoTime

/-! # Civil time

A stamp shows a date of the calendar, a time of day, and the offset of the clock from universal
time. Here such a stamp is read by its form and by the rules of the calendar alone: every field has
its width, no field goes beyond its range, and the instant is counted by the lengths of years and
months.

* **`CivilTime`** — what a stamp shows, and **`CivilTime.seconds`**, the instant of it.
* **`CivilTime.ofLogTime?`, `CivilTime.ofIsoTime?`** — the readers of the two kinds of stamps.
* **`Moment.civil`** — what calendar and clock show at a moment, and **`Moment.seconds_civil`**, the
  instant of which is that of the moment.
* **`CivilTime.ofLogTime?_logTime`, `CivilTime.ofIsoTime?_isoTime`** — both stamps of a moment are
  read as what calendar and clock show. -/

namespace StaticGzip

/-! ## What a stamp shows -/

/-- A **civil time**: a date, a time of day, and the offset of the clock in seconds. -/
structure CivilTime where
  date : Date
  hour : Nat
  minute : Nat
  second : Nat
  nanos : Nat
  offset : Int
deriving DecidableEq, Repr

namespace CivilTime

/-- The **instant** of a civil time, in seconds since the start of 1970 in universal time. -/
def seconds (c : CivilTime) : Int :=
  c.date.number * 86400 + (c.hour * 3600 + c.minute * 60 + c.second : Nat) - c.offset

/-- A civil time **of the calendar and the clock**. -/
structure IsValid (c : CivilTime) : Prop where
  date : c.date.IsValid
  hour : c.hour < 24
  minute : c.minute < 60
  second : c.second < 60
  nanos : c.nanos < 1000000000

theorem isValid_iff {c : CivilTime} : c.IsValid ↔
    c.date.IsValid ∧ c.hour < 24 ∧ c.minute < 60 ∧ c.second < 60 ∧ c.nanos < 1000000000 :=
  ⟨fun h => ⟨h.date, h.hour, h.minute, h.second, h.nanos⟩, fun ⟨a, b, c, d, e⟩ => ⟨a, b, c, d, e⟩⟩

instance : DecidablePred IsValid := fun _ => decidable_of_iff _ isValid_iff.symm

end CivilTime

/-! ## Readers of its parts -/

namespace CivilTime

open Text (digits? Ends)
open Reader (skip?)
open Moment (year? date? clock? fraction? zone?)

/-- A **month** by the first three letters of its name. -/
def monthName? : Reader Nat
  | 'J' :: 'a' :: 'n' :: rest => some (1, rest)
  | 'F' :: 'e' :: 'b' :: rest => some (2, rest)
  | 'M' :: 'a' :: 'r' :: rest => some (3, rest)
  | 'A' :: 'p' :: 'r' :: rest => some (4, rest)
  | 'M' :: 'a' :: 'y' :: rest => some (5, rest)
  | 'J' :: 'u' :: 'n' :: rest => some (6, rest)
  | 'J' :: 'u' :: 'l' :: rest => some (7, rest)
  | 'A' :: 'u' :: 'g' :: rest => some (8, rest)
  | 'S' :: 'e' :: 'p' :: rest => some (9, rest)
  | 'O' :: 'c' :: 't' :: rest => some (10, rest)
  | 'N' :: 'o' :: 'v' :: rest => some (11, rest)
  | 'D' :: 'e' :: 'c' :: rest => some (12, rest)
  | _ => none

/-- The **offset** of a clock that is off by less than a day. -/
def offset? (separator : Text) : Reader Int := fun t =>
  (zone? (digits? 2) separator t).filter fun (offset, _) => offset.natAbs < 86400

/-! ## Readers of stamps -/

/-- A stamp such as `10/Oct/2000:13:55:36 -0700`. -/
def log? : Reader CivilTime := fun t => do
  let (day, t) ← digits? 2 t
  let (month, t) ← monthName? (← skip? ['/'] t)
  let (year, t) ← year? (← skip? ['/'] t)
  let ((hour, minute, second), t) ← clock? (← skip? [':'] t)
  let (offset, rest) ← offset? [] (← skip? [' '] t)
  some (⟨⟨year, month, day⟩, hour, minute, second, 0, offset⟩, rest)

/-- A stamp such as `2000-10-10T13:55:36.5-07:00`. -/
def iso? : Reader CivilTime := fun t => do
  let (date, t) ← date? t
  let ((hour, minute, second), t) ← clock? (← skip? ['T'] t)
  let (nanos, t) ← fraction? t
  let (offset, rest) ← offset? [':'] t
  some (⟨date, hour, minute, second, nanos, offset⟩, rest)

/-- What a text shows that is a **stamp of an access line** as a whole. -/
def ofLogTime? (t : Text) : Option CivilTime := (Reader.whole? log? t).filter (·.IsValid)

/-- What a text shows that is a **sortable stamp** as a whole. -/
def ofIsoTime? (t : Text) : Option CivilTime := (Reader.whole? iso? t).filter (·.IsValid)

end CivilTime

/-! ## What calendar and clock show at a moment -/

namespace Moment

/-- What **calendar and clock** show at a moment. -/
def civil (m : Moment) : CivilTime where
  date := m.date
  hour := m.secondOfDay / 3600
  minute := m.secondOfDay / 60 % 60
  second := m.secondOfDay % 60
  nanos := m.nanos
  offset := m.offset

/-- A **regular** moment is in no leap second, and the offset of its clock is a whole number of
minutes, less than a day. -/
structure Regular (m : Moment) : Prop where
  nanos : m.nanos < 1000000000
  minutes : m.offset % 60 = 0
  withinDay : m.offset.natAbs < 86400

variable {m : Moment}

/-- What is shown at a moment is **of the calendar and the clock**. -/
theorem isValid_civil (nanos : m.nanos < 1000000000) : m.civil.IsValid := by
  have day := m.secondOfDay_lt
  refine ⟨Date.isValid_ofDay _, ?_, ?_, ?_, nanos⟩ <;> dsimp only [civil] <;> omega

/-- The instant of what is shown is **that of the moment**. -/
theorem seconds_civil (m : Moment) : m.civil.seconds = m.seconds := by
  have day : m.date.number = m.localSeconds / secondsPerDay := Date.number_ofDay _
  have positive := Int.emod_nonneg m.localSeconds (by decide : (secondsPerDay : Int) ≠ 0)
  unfold CivilTime.seconds
  dsimp only [civil]
  rw [day]
  unfold secondOfDay
  unfold localSeconds secondsPerDay at *
  omega

end Moment

/-! ## Parts are read back -/

namespace CivilTime

open Text (digits? Ends)
open Reader (skip?)
open Moment (year? date? clock? fraction? zone?)

variable {m : Moment}

/-- A **month** is read back from its name. -/
theorem monthName?_append {d : Date} (valid : d.IsValid) (rest : Text) :
    monthName? (d.monthName ++ rest) = some (d.month, rest) := by
  have first := valid.month_pos
  have last := valid.month_le
  rw [Date.monthName]
  generalize d.month = month at first last
  interval_cases month <;> rfl

/-- A **time of day** is read back if it is in no leap second. -/
theorem clock?_civil (nanos : m.nanos < 1000000000) (rest : Text) :
    clock? (m.clock ++ rest)
      = some ((m.civil.hour, m.civil.minute, m.civil.second), rest) := by
  have noLeap : m.nanos / Moment.nanosPerSecond = 0 := Nat.div_eq_of_lt nanos
  have shown : m.shownSecond = m.civil.second := by
    rw [Moment.shownSecond, noLeap, Nat.add_zero]
    rfl
  have short : m.civil.second < 10 ^ 2 :=
    Nat.lt_trans (Moment.isValid_civil nanos).second (by decide)
  rw [← shown]
  exact m.clock?_append (shown ▸ short) rest

/-- The **offset** of a clock is read back. -/
theorem offset?_zone (regular : m.Regular) (separator : Text) :
    offset? separator (m.zone separator) = some (m.offset, []) := by
  have within := regular.withinDay
  have hours : (m.offset.natAbs + 30) / 60 / 60 < 10 ^ 2 := by omega
  rw [offset?, Moment.zone?_zone regular.minutes fun rest =>
    Text.digits?_padded_append (by decide) hours _]
  exact Option.filter_some_pos (decide_eq_true within)

/-! ## Stamps are read back -/

/-- The **stamp of an access line** shows calendar and clock to the second. -/
theorem ofLogTime?_logTime (regular : m.Regular) :
    ofLogTime? m.logTime = some { m.civil with nanos := 0 } := by
  have valid : CivilTime.IsValid { m.civil with nanos := 0 } :=
    { Moment.isValid_civil regular.nanos with nanos := (by decide : 0 < 1000000000) }
  have date : m.date.IsValid := valid.date
  have colon (t : Text) : Ends Char.isDigit (':' :: t) := Text.ends_cons.mpr (by decide)
  have skip (c : Char) (t : Text) : skip? [c] (c :: t) = some t := Reader.skip?_append [c] t
  have text : m.logTime = Text.padded 2 m.date.day ++ '/' :: (m.date.monthName
      ++ '/' :: (Date.yearText m.date.year ++ ':' :: (m.clock ++ ' ' :: m.zone []))) := by
    simp [Moment.logTime]
  have read : log? m.logTime = some ({ m.civil with nanos := 0 }, []) := by
    rw [text, log?]
    simp only [Text.digits?_padded_append (by decide) date.day_lt, skip, monthName?_append date,
      Moment.year?_yearText_append _ (colon _), clock?_civil regular.nanos,
      offset?_zone regular, Option.bind_eq_bind, Option.bind_some]
    rfl
  rw [ofLogTime?, Reader.whole?, read]
  exact Option.filter_some_pos (decide_eq_true valid)

/-- The **sortable stamp** shows calendar and clock to the nanosecond. -/
theorem ofIsoTime?_isoTime (regular : m.Regular) : ofIsoTime? m.isoTime = some m.civil := by
  have valid := Moment.isValid_civil regular.nanos
  have date : m.date.IsValid := valid.date
  have skip (c : Char) (t : Text) : skip? [c] (c :: t) = some t := Reader.skip?_append [c] t
  have zoneEnds : Ends Char.isDigit (m.zone [':']) := m.ends_zone [':'] rfl rfl
  have zoneNoPoint : Ends (· == '.') (m.zone [':']) := m.ends_zone [':'] rfl rfl
  have nanos : m.nanos % Moment.nanosPerSecond = m.nanos := Nat.mod_eq_of_lt regular.nanos
  have text : m.isoTime = Date.yearText m.date.year ++ '-' :: (Text.padded 2 m.date.month
      ++ '-' :: (Text.padded 2 m.date.day
        ++ 'T' :: (m.clock ++ (m.fraction ++ m.zone [':'])))) := by
    simp [Moment.isoTime]
  have read : iso? m.isoTime = some (m.civil, []) := by
    rw [text, iso?]
    simp only [Moment.date?_append date, skip, clock?_civil regular.nanos,
      m.fraction?_append zoneEnds zoneNoPoint, offset?_zone regular, nanos, Option.bind_eq_bind,
      Option.bind_some]
    rfl
  rw [ofIsoTime?, Reader.whole?, read]
  exact Option.filter_some_pos (decide_eq_true valid)

end CivilTime

end StaticGzip
