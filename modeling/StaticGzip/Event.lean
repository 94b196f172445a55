import StaticGzip.Text.Basic

/-! # Log events

What the server has to say goes out as events: how important it is, which part of the server says
it, the message, and fields that go with the message. -/

namespace StaticGzip

/-- The **level** of an event, the most important first. -/
inductive Level where
  | error
  | warn
  | info
  | debug
  | trace
deriving DecidableEq, Repr

namespace Level

/-- The name of a level. -/
def name : Level → String
  | .error => "ERROR"
  | .warn => "WARN"
  | .info => "INFO"
  | .debug => "DEBUG"
  | .trace => "TRACE"

/-- How much is let through when the level is the last one of interest. -/
def verbosity : Level → Nat
  | .error => 1
  | .warn => 2
  | .info => 3
  | .debug => 4
  | .trace => 5

/-- The verbosity tells levels apart. -/
theorem verbosity_inj {k l : Level} : k.verbosity = l.verbosity ↔ k = l := by
  cases k <;> cases l <;> decide

end Level

/-- The **value of a field**: text, which a line shows in quotes, or a word that it shows as it
is. -/
inductive FieldValue where
  | quoted (s : String)
  | plain (s : String)
deriving DecidableEq, Repr

/-- The value of a field as a string. -/
def FieldValue.text : FieldValue → String
  | quoted s => s
  | plain s => s

/-- An **event**. -/
structure Event where
  level : Level
  target : String
  message : String
  fields : List (String × FieldValue)
deriving DecidableEq, Repr

namespace Event

/-! ## The parts of the server that speak -/

/-- The part that reports on the life of the server. -/
def lifecycle : String := "gzserve::logger"

/-- The part that writes access lines. -/
def access : String := "gzserve::access"

/-- The part that looks up files. -/
def files : String := "gzserve::handler::static_files"

/-- The part that answers requests. -/
def router : String := "gzserve::handler::router"

/-- The part that accepts connections and drains them. -/
def serverLoop : String := "gzserve::server::server_loop"

/-- The part that serves one connection. -/
def connection : String := "gzserve::server::connection"

/-- The part that waits for signals. -/
def signal : String := "gzserve::server::signal"

/-! ## Events of one kind -/

/-- An event of the life of the server. -/
def info (message : String) : Event := ⟨.info, lifecycle, message, []⟩

/-- A failure. -/
def failure (message : String) : Event := ⟨.error, lifecycle, message, []⟩

/-- A warning. -/
def warning (message : String) : Event := ⟨.warn, lifecycle, message, []⟩

/-- An access line. -/
def accessLine (line : Text) : Event := ⟨.info, access, String.ofList line, []⟩

end Event

end StaticGzip
