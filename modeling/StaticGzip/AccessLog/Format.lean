import StaticGzip.AccessLog.Entry
import StaticGzip.Text.Json

/-! # Lines of the access log

An entry becomes a line in one of three fixed formats or by a pattern with variables.

* **`Format.common`, `Format.combined`** — the usual text formats; the second adds referer and user
  agent.
* **`Format.json`** — one object with the members in alphabetical order.
* **`Format.custom`** — a pattern in which `$name` stands for a value. A name is the longest run of
  letters, digits and underscores; an unknown one is left as it is, and values are not looked at
  again. -/

namespace StaticGzip.AccessLog

/-- The **format** of the lines. -/
inductive Format where
  | combined
  | common
  | json
  | custom (pattern : Text)
deriving DecidableEq, Repr

/-- The format that a setting names; whatever is no name is a pattern. -/
def Format.ofString (s : String) : Format :=
  if s = "combined" then .combined
  else if s = "common" then .common
  else if s = "json" then .json
  else .custom s.toList

namespace Entry

/-- A text, or a dash for none. -/
def orDash (t : Option Text) : Text := t.getD ['-']

/-- A text between quotes, as it is. -/
def quoted (t : Text) : Text := '"' :: t ++ ['"']

/-! ## Fixed formats -/

/-- The line of the **common** format. -/
def common (e : Entry) : Text :=
  e.client ++ " - - [".toList ++ e.time.logTime ++ "] ".toList ++ quoted e.requestLine
    ++ ' ' :: Text.ofNat e.status ++ ' ' :: Text.ofNat e.bodyBytes

/-- The line of the **combined** format. -/
def combined (e : Entry) : Text :=
  e.common ++ ' ' :: quoted (orDash e.referer) ++ ' ' :: quoted (orDash e.userAgent)

/-- The members of the **JSON** format. -/
def members (e : Entry) : List (String × Text) := [
  ("body_bytes", Text.ofNat e.bodyBytes),
  ("http_version", Json.string e.version.text.toList),
  ("method", Json.string e.method),
  ("path", Json.string e.path),
  ("query", Json.optional e.query),
  ("referer", Json.optional e.referer),
  ("remote_addr", Json.string e.client),
  ("request_time_us", Text.ofNat e.elapsed.micros),
  ("status", Text.ofNat e.status),
  ("time", Json.string e.time.isoTime),
  ("user_agent", Json.optional e.userAgent)]

/-- The line of the **JSON** format. -/
def json (e : Entry) : Text := Json.object e.members

/-! ## Patterns -/

/-- The values of the **variables** that a pattern may name. -/
def patternValues (e : Entry) : List (String × Text) := [
  ("remote_addr", e.client),
  ("time_local", e.time.logTime),
  ("time_iso8601", e.time.isoTime),
  ("request", e.requestLine),
  ("request_method", e.method),
  ("request_uri", e.requestUri),
  ("request_time", e.elapsed.secondsText),
  ("status", Text.ofNat e.status),
  ("body_bytes_sent", Text.ofNat e.bodyBytes),
  ("http_referer", orDash e.referer),
  ("http_user_agent", orDash e.userAgent)]

/-- The value of a variable, if there is one of that name. -/
def valueOf? (e : Entry) (name : Text) : Option Text := e.patternValues.lookup (String.ofList name)

/-- A character of a name. -/
def isNameChar (c : Char) : Bool := c.isAlphanum || c == '_'

/-- The line of a **pattern**. -/
def custom (e : Entry) : Text → Text
  | [] => []
  | '$' :: rest =>
    let name := rest.takeWhile isNameChar
    (e.valueOf? name).getD ('$' :: name) ++ custom e (rest.dropWhile isNameChar)
  | c :: rest => c :: custom e rest
termination_by pattern => pattern.length
decreasing_by
  · exact Nat.lt_succ_of_le (List.dropWhile_sublist _).length_le
  · simp

/-- The **line** of an entry in a format. -/
def line (e : Entry) : Format → Text
  | .combined => e.combined
  | .common => e.common
  | .json => e.json
  | .custom pattern => e.custom pattern

end Entry

end StaticGzip.AccessLog
