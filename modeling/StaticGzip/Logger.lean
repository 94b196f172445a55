import StaticGzip.AccessLog.Format
import StaticGzip.Config.Settings
import StaticGzip.LogFilter
import StaticGzip.Text.Quoted

/-! # The logger

The logger writes the events that its filter lets through, one line each. It is set up once; a
variable of the environment, if it writes a filter, wins over the settings.

* **`Logger.filter`** — the filter of an environment and the settings.
* **`Logger.line`** — the line of an event. -/

namespace StaticGzip.Logger

/-! ## Lines -/

/-- A field at the end of a line. -/
def fieldText : String × FieldValue → String
  | (name, .plain s) => s!" {name}={s}"
  | (name, .quoted s) => s!" {name}={Text.quotedString s}"

/-- The **line of an event**: its level in five columns, its target, its message and its fields. -/
def line (e : Event) : String :=
  let level := String.ofList (e.level.name.toList.leftpad 5 ' ')
  s!"{level} {e.target}: {e.message}{String.join (e.fields.map fieldText)}"

/-- The lines of the events that a filter lets through. -/
def lines (f : LogFilter) (events : List Event) : List String :=
  (events.filter f.allows).map line

/-! ## Setting up -/

/-- The variable that holds a filter. -/
def filterVariable : String := "RUST_LOG"

/-- The **filter** of the logger: that of the environment if it writes one, else the one of the
settings. -/
def filter (patterns : LogFilter.Patterns) (environment : Option String) (level : String) :
    Except (Fault FilterError) LogFilter :=
  match environment.map fun s => LogFilter.ofText? patterns s.toList with
  | some (.ok f) => .ok f
  | some (.error .panic) => .error .panic
  | _ => LogFilter.ofText? patterns level.toList

/-- Why the logger could not be set up. -/
inductive SetupError where
  | filter (e : FilterError)
  | alreadySet
deriving DecidableEq, Repr

/-- The wording of a failure to set up. -/
def SetupError.message : SetupError → String
  | filter e => e.message
  | alreadySet => "a global default trace dispatcher has already been set"

/-- One more attempt to set up the logger, given the filter that is already in place. -/
def setUp (patterns : LogFilter.Patterns) (current : Option LogFilter)
    (environment : Option String) (level : String) : Except (Fault SetupError) LogFilter :=
  match filter patterns environment level, current with
  | .error fault, _ => .error (fault.map .filter)
  | .ok _, some _ => .error (.error .alreadySet)
  | .ok f, none => .ok f

/-! ## Events of connections -/

/-- The event of an accepted connection. -/
def accepted (peer : SocketAddress) : Event :=
  ⟨.debug, Event.lifecycle, s!"[Connection] Accepted from: {peer.display}", []⟩

/-- The event of a connection that could not be accepted, from the wording of its error. -/
def acceptFailed (shown : String) : Event := .failure s!"Failed to accept connection: {shown}"

/-- The event of a connection that failed, from the quoted form of its error. -/
def connectionFailed (shown : String) : Event :=
  .failure s!"Failed to serve connection: {shown}"

/-- The event of a shutdown that was requested. -/
def shutdownRequested (active : Nat) : Event :=
  .info s!"Shutdown requested, no longer accepting connections ({active} still active)"

/-- The line that frames the account of a start. -/
def rule : String := String.ofList (List.replicate 38 '=')

/-- The **account of a start**: where the server listens, what it serves, and the settings that
matter. -/
def started (addr : SocketAddress) (s : Settings) : List Event :=
  [.info rule,
    .info "Static gzip server started",
    .info s!"Listening on: http://{addr.display}",
    .info s!"Serving files from: {s.root.display}",
    .info s!"Log level: {s.logging.level}"]
  ++ (s.server.workers.map fun n => Event.info s!"Worker threads: {n}").toList
  ++ (s.performance.maxConnections.map fun n => Event.info s!"Max connections: {n}").toList
  ++ (if s.logging.accessLog then
      [Event.info s!"Access log format: {s.logging.accessLogFormat}"] else [])
  ++ [.info rule]

end StaticGzip.Logger
