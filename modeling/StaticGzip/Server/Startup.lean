import StaticGzip.Config.Process
import StaticGzip.Logger

/-! # Starting the server

The settings are loaded, the logger is set up, the worker threads are made, the address is formed,
and the port is bound, in this order. The first stage that fails ends the start. A server that has
started says so and accepts connections.

* **`StartupError`** — why a start ends, in two wordings.
* **`listenAddress?`** — the address of the settings.
* **`Launch`** — a start as far as it has come, and what it has done.
* **`start`** — a whole start. -/

namespace StaticGzip

/-- Why a **start fails**. -/
inductive StartupError where
  | config (e : ConfigError)
  | address (text : String)
  | bind (addr : SocketAddress) (source : IoError)
  | logger (words : String)
  | io (source : IoError)
deriving DecidableEq, Repr

namespace StartupError

/-- The wording of a failure. -/
def message : StartupError → String
  | config e => s!"configuration error: {e.text}"
  | address text => s!"invalid listen address {text}: {SocketAddress.invalid}"
  | bind addr source => s!"failed to bind to {addr.display}: {source.message}"
  | logger words => s!"failed to initialise logger: {words}"
  | io source => s!"I/O error: {source.message}"

/-- The inner form of a failure, as the program shows it when it ends. -/
def form : StartupError → String
  | config e => s!"Config({e.text})"
  | address text =>
    s!"Address \x7b addr: {Text.quotedString text}, source: AddrParseError(Socket) \x7d"
  | bind addr source => s!"Bind \x7b addr: {addr.display}, source: {source.form} \x7d"
  | logger words => s!"Logger({Text.quotedString words})"
  | io source => s!"Io({source.form})"

end StartupError

/-- The text of the address that the settings name. -/
def ServerSettings.addressText (s : ServerSettings) : String := s!"{s.host}:{s.port}"

/-- The **address** that the settings name. -/
def ServerSettings.listenAddress? (s : ServerSettings) : Except StartupError SocketAddress :=
  match SocketAddress.ofText? s.addressText.toList with
  | some addr => .ok addr
  | none => .error (.address s.addressText)

/-! ## Stages -/

/-- A **stage** of a start. -/
inductive Stage where
  | settings
  | logger
  | workers
  | address
  | bind
deriving DecidableEq, Repr

/-- What a start **does**: it comes to a stage, it logs an event, or it begins to accept
connections. -/
inductive Act where
  | stage (s : Stage)
  | log (e : Event)
  | accept
deriving DecidableEq, Repr

/-- The event that is logged. -/
def Act.event? : Act → Option Event
  | log e => some e
  | _ => none

/-- Why the program **ends before it accepts** connections: a stage fails, be it that the system
refuses worker threads, or the program panics. -/
inductive Halt where
  | startup (e : StartupError)
  | runtime (source : IoError)
  | panic
deriving DecidableEq, Repr

namespace Halt

/-- The inner form of what is reported. Of a panic nothing is. -/
def form? : Halt → Option String
  | startup e => some e.form
  | runtime source => some source.form
  | panic => none

/-- The end of the program by a fault of a stage. -/
def ofFault {ε : Type} (report : ε → Halt) : Fault ε → Halt
  | .error e => report e
  | .panic => panic

end Halt

/-- A start **so far**: what it has done, and its value or why it has ended. -/
structure Launch (α : Type) where
  acts : List Act
  result : Except Halt α

namespace Launch

/-- What has ended is not gone on with. -/
instance : Monad Launch where
  pure a := ⟨[], .ok a⟩
  bind l f :=
    match l.result with
    | .ok a => ⟨l.acts ++ (f a).acts, (f a).result⟩
    | .error halt => ⟨l.acts, .error halt⟩

/-- Comes to a stage that ends in a given way, and how its error is reported. -/
def attempt {ε α : Type} (s : Stage) (report : ε → Halt) (result : Except (Fault ε) α) : Launch α :=
  ⟨[.stage s], result.mapError (Halt.ofFault report)⟩

/-- Logs events. -/
def log (events : List Event) : Launch Unit := ⟨events.map .log, .ok ()⟩

/-- Begins to accept connections. -/
def accept : Launch Unit := ⟨[.accept], .ok ()⟩

/-- The events that have been logged. -/
def events {α : Type} (l : Launch α) : List Event := l.acts.filterMap Act.event?

end Launch

/-! ## Whole starts -/

/-- What a start **depends on**: the files and what the process is given; how configuration files in
other languages and regular expressions are read, and which positions are out of reach; and how it
ends to make a number of worker threads, or as many as there should be if no number is given, and to
bind a port. All of these may panic. -/
structure Surroundings where
  files : FileSystem
  process : Process
  foreign : Config.ForeignFiles
  outOfReach : Config.KeyPath.OutOfReach
  patterns : LogFilter.Patterns
  workers : Option UInt64 → Except (Fault IoError) Unit
  bind : SocketAddress → Except (Fault IoError) Unit

namespace Surroundings

/-- The settings. -/
def load (w : Surroundings) : Except (Fault ConfigError) Settings :=
  Config.loadFor w.files w.foreign w.outOfReach w.process

/-- The filter of the logger, which is set up for the first time. -/
def logger (w : Surroundings) (settings : Settings) :
    Except (Fault Logger.SetupError) LogFilter :=
  Logger.setUp w.patterns none (w.process.valueOf? Logger.filterVariable) settings.logging.level

/-- The worker threads. To ask for none at all is a panic. -/
def makeWorkers (w : Surroundings) (settings : Settings) : Except (Fault IoError) Unit :=
  if settings.server.workers = some 0 then .error .panic else w.workers settings.server.workers

end Surroundings

/-- A server that **has started**: its settings, its filter and its address. -/
structure Started where
  settings : Settings
  filter : LogFilter
  addr : SocketAddress

/-- A **whole start**. -/
def start (w : Surroundings) : Launch Started := do
  let settings ← Launch.attempt .settings (.startup ∘ .config) w.load
  let filter ← Launch.attempt .logger (.startup ∘ .logger ∘ Logger.SetupError.message)
    (w.logger settings)
  Launch.attempt .workers .runtime (w.makeWorkers settings)
  let addr ← Launch.attempt .address .startup (settings.server.listenAddress?.mapError .error)
  Launch.attempt .bind (.startup ∘ .bind addr) (w.bind addr)
  Launch.log (Logger.started addr settings)
  Launch.accept
  return ⟨settings, filter, addr⟩

end StaticGzip
