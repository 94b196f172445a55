import StaticGzip.Proofs.AccessLog.JsonLine
import StaticGzip.Proofs.AccessLog.Pattern
import StaticGzip.Proofs.AccessLog.PlainValues
import StaticGzip.Proofs.Calendar.CivilTime

/-! # The time stamps of an entry

A line has the time of its entry in one of two forms. In the text formats it is the stamp between
the first two brackets, which goes to the second; in JSON it is the text of a member and goes to the
nanosecond. A pattern may name either. All of them tell one instant and one offset of the clock.

* **`Entry.bracketed?`** — the text between the first brackets of a line.
* **`Entry.ShowsLogTime`, `Entry.ShowsIsoTime`** — a civil time that an entry shows in all its lines.
* **`Entry.line_stamps_denote_instant`** — both kinds of stamps denote the instant of the entry. -/

namespace StaticGzip.AccessLog.Entry

/-! ## Between brackets -/

/-- The text between the **first bracket** and the one that closes it. -/
def bracketed? (line : Text) : Option Text := (Text.after? '[' line).map (Text.before ']')

variable {e : Entry}

/-- A line that begins as in the common format has the **stamp between its first brackets**. -/
theorem bracketed?_common_append (e : Entry) (rest : Text) :
    bracketed? (e.common ++ rest) = some e.time.logTime := by
  have noOpen : '[' ∉ e.client ++ " - - ".toList := by
    rw [List.mem_append, not_or]
    exact ⟨e.remote.ip.plain_text.not_mem (by decide), by decide⟩
  have noClose : ']' ∉ e.time.logTime := e.time.plain_logTime.not_mem (by decide)
  -- The client's address and the two dashes have no bracket, and neither has the stamp.
  have line : e.common ++ rest = (e.client ++ " - - ".toList) ++ '[' :: (e.time.logTime
      ++ ']' :: (' ' :: quoted e.requestLine ++ ' ' :: Text.ofNat e.status
        ++ ' ' :: Text.ofNat e.bodyBytes ++ rest)) := by
    simp [common]
  rw [line, bracketed?, (Text.before_append noOpen _).2, Option.map_some,
    (Text.before_append noClose _).1]

/-! ## Civil times that an entry shows -/

/-- An entry shows a civil time **to the second**: as a variable, and between the brackets of the
text formats. -/
structure ShowsLogTime (e : Entry) (c : CivilTime) : Prop where
  placeholder : CivilTime.ofLogTime? (e.line (.custom "$time_local".toList)) = some c
  common : (bracketed? (e.line .common)).bind CivilTime.ofLogTime? = some c
  combined : (bracketed? (e.line .combined)).bind CivilTime.ofLogTime? = some c

/-- An entry shows a civil time **to the nanosecond**: as a variable, and as a member of the object
of JSON. -/
structure ShowsIsoTime (e : Entry) (c : CivilTime) : Prop where
  placeholder : CivilTime.ofIsoTime? (e.line (.custom "$time_iso8601".toList)) = some c
  json : ∃ members stamp, Json.read? (e.line .json) = some (.object members) ∧
    members.lookup "time".toList = some (.string stamp) ∧ CivilTime.ofIsoTime? stamp = some c

/-- The variable of the local time stands for the **stamp of an access line**. -/
theorem line_timeLocal (e : Entry) :
    e.line (.custom "$time_local".toList) = e.time.logTime := by
  rw [show "$time_local".toList = '$' :: "time_local".toList from rfl,
    e.line_placeholder (by decide)]
  rfl

/-- The variable of the standard time stands for the **sortable stamp**. -/
theorem line_timeIso8601 (e : Entry) :
    e.line (.custom "$time_iso8601".toList) = e.time.isoTime := by
  rw [show "$time_iso8601".toList = '$' :: "time_iso8601".toList from rfl,
    e.line_placeholder (by decide)]
  rfl

theorem showsLogTime_civil (regular : e.time.Regular) :
    e.ShowsLogTime { e.time.civil with nanos := 0 } := by
  have read := CivilTime.ofLogTime?_logTime regular
  have common : bracketed? (e.line .common) = some e.time.logTime := by
    rw [line, ← List.append_nil e.common, bracketed?_common_append]
  have combined : bracketed? (e.line .combined) = some e.time.logTime := by
    rw [line, Entry.combined, List.append_assoc, bracketed?_common_append]
  exact {
    placeholder := by rw [line_timeLocal, read]
    common := by rw [common, Option.bind_some, read]
    combined := by rw [combined, Option.bind_some, read] }

theorem showsIsoTime_civil (regular : e.time.Regular) : e.ShowsIsoTime e.time.civil := by
  have read := CivilTime.ofIsoTime?_isoTime regular
  have member : e.fields.lookup "time".toList = some (.string e.time.isoTime) := rfl
  exact {
    placeholder := by rw [line_timeIso8601, read]
    json := ⟨e.fields, e.time.isoTime, e.read?_json, member, read⟩ }

/-- **Both time stamps denote the instant of the entry**, if it is in no leap second and the clock is
off by whole minutes. Read by the rules of the calendar, the one in the text formats gives back the
seconds, and the sortable one the seconds and the nanoseconds. Both show the offset of the clock. -/
theorem line_stamps_denote_instant (regular : e.time.Regular) :
    ∃ log iso : CivilTime, e.ShowsLogTime log ∧ e.ShowsIsoTime iso ∧
      log.seconds = e.time.seconds ∧ iso.seconds = e.time.seconds ∧ iso.nanos = e.time.nanos ∧
      log.offset = e.time.offset ∧ iso.offset = e.time.offset :=
  ⟨{ e.time.civil with nanos := 0 }, e.time.civil, showsLogTime_civil regular,
    showsIsoTime_civil regular, e.time.seconds_civil, e.time.seconds_civil, rfl, rfl, rfl⟩

/-- An entry of the **leap day of the year -4**, by a clock that is behind: in universal time it is
March. Its path looks like another stamp. -/
def leapDay : Entry where
  remote := .v6 #v[0, 0, 0, 0, 0, 0, 0, 1] 0 40000
  time := ⟨-62288263800, 1, -5400⟩
  method := "GET".toList
  path := "/[01/Jan/1970:00:00:00 +0000]".toList
  query := none
  version := .v11
  status := 404
  bodyBytes := 9
  referer := none
  userAgent := none
  elapsed := .zero

/-- The stamps of a leap day, half an hour after it in universal time. -/
theorem line_stamps_denote_instant_leapDay :
    leapDay.time.Regular ∧
      bracketed? (leapDay.line .common) = some "29/Feb/-0004:23:00:00 -0130".toList ∧
      leapDay.line (.custom "$time_iso8601".toList)
        = "-0004-02-29T23:00:00.000000001-01:30".toList ∧
      ∃ log iso : CivilTime, leapDay.ShowsLogTime log ∧ leapDay.ShowsIsoTime iso ∧
        log.seconds = -62288263800 ∧ iso.seconds = -62288263800 ∧ iso.nanos = 1 ∧
        log.offset = -5400 ∧ iso.offset = -5400 := by
  have regular : leapDay.time.Regular := ⟨by decide, by decide, by decide⟩
  exact ⟨regular, by decide, (line_timeIso8601 leapDay).trans (by decide),
    line_stamps_denote_instant regular⟩

end StaticGzip.AccessLog.Entry
