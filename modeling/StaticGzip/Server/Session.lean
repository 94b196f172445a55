import StaticGzip.Logger
import StaticGzip.Server.Connections

/-! # The life of a server

A server accepts connections until shutdown is requested. From then on it accepts none and waits
for those that are being served, as long as a connection may live. Then it stops.

* **`Session.accept`, `Session.finish`** — a connection begins and ends.
* **`Session.trigger`, `Session.advance`** — shutdown is requested, and time passes.
* **`Session.settle`** — the server stops as soon as it may. -/

namespace StaticGzip.Server

/-- What a server is doing. Draining began at a time of its clock. -/
inductive Phase where
  | accepting
  | draining (since : Nat)
  | stopped
deriving DecidableEq, Repr

/-- The **life of a server** so far: its limits, its connections, its clock in milliseconds, and
all events in order. -/
structure Session where
  limits : PerformanceSettings
  connections : Connections
  phase : Phase
  clock : Nat
  events : List Event
deriving DecidableEq, Repr

/-- How a connection ends: all its requests are answered, it fails, or its time is up. -/
inductive Ending where
  | success
  | failure (shown : String)
  | timeout
deriving DecidableEq, Repr

namespace Session

/-- A server that has just begun. -/
def begin (limits : PerformanceSettings) : Session :=
  ⟨limits, .none, .accepting, 0, []⟩

/-- The session with more events. -/
def log (s : Session) (events : List Event) : Session := { s with events := s.events ++ events }

/-! ## Connections -/

/-- The event of a connection beyond the limit. -/
def rejected (active limit : UInt64) (peer : SocketAddress) : Event :=
  .warning s!"Max connections reached: {active}/{limit}. Connection from {peer.display} rejected."

/-- A connection **begins**, and whether it is served. It is counted first and given back if it
is one too many. -/
def accept (s : Session) (peer : SocketAddress) : Session × Bool :=
  if s.phase ≠ .accepting then (s, false)
  else
    let before := s.connections.active
    let counted := { s with connections := s.connections.acquire }
    match s.limits.reachedLimit? before with
    | some limit =>
      ({ counted with connections := counted.connections.release }.log
        [rejected before limit peer], false)
    | none => (counted.log [Logger.accepted peer], true)

/-- The events of the end of a connection. -/
def endingEvents (limits : PerformanceSettings) (peer : SocketAddress) : Ending → List Event
  | .success => []
  | .failure shown => [Logger.connectionFailed shown]
  | .timeout => [⟨.debug, Event.connection,
      s!"Connection from {peer.display} closed after {limits.lifetime} second timeout", []⟩]

/-! ## Stopping -/

/-- The event of a server that has stopped. -/
def stoppedEvent : Event := ⟨.info, Event.serverLoop, "Server stopped", []⟩

/-- The event of a drain that takes too long. -/
def drainedTooLong (active deadline : UInt64) : Event :=
  .warning s!"{active} connections still active after {deadline} second drain, closing"

/-- Whether a drain that began at a time has taken as long as it may. -/
def isOverdue (s : Session) (since : Nat) : Bool :=
  s.limits.lifetime != 0 && s.limits.lifetime.toNat * 1000 ≤ s.clock - since

/-- The session after the server **stops as soon as it may**: when no connection is left, or when
the drain has taken as long as a connection may live. -/
def settle (s : Session) : Session :=
  match s.phase with
  | .draining since =>
    if s.connections.active = 0 then { s with phase := .stopped }.log [stoppedEvent]
    else if s.isOverdue since then
      { s with phase := .stopped }.log
        [drainedTooLong s.connections.active s.limits.lifetime, stoppedEvent]
    else s
  | _ => s

/-- A connection is **counted** from outside. -/
def hold (s : Session) : Session := { s with connections := s.connections.acquire }

/-- A connection is given back. -/
def release (s : Session) : Session := settle { s with connections := s.connections.release }

/-- A connection **ends**. -/
def finish (s : Session) (peer : SocketAddress) (ending : Ending) : Session :=
  (s.log (endingEvents s.limits peer ending)).release

/-- Shutdown is **requested**; a second request changes nothing. -/
def trigger (s : Session) : Session :=
  match s.phase with
  | .accepting =>
    settle ({ s with phase := .draining s.clock }.log
      [Logger.shutdownRequested s.connections.active.toNat])
  | _ => s

/-- **Time passes**, in milliseconds. -/
def advance (s : Session) (ms : Nat) : Session := settle { s with clock := s.clock + ms }

/-- Whether the server has stopped. -/
def isStopped (s : Session) : Bool := s.phase == .stopped

/-- A server without connections stops at once when shutdown is requested. -/
theorem isStopped_trigger {s : Session} (h : s.connections.active = 0)
    (accepting : s.phase = .accepting) : s.trigger.isStopped = true := by
  simp [trigger, accepting, settle, log, h, isStopped]

end Session

end StaticGzip.Server
