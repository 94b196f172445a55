import Std.Async.Signal
import Std.Async.TCP
import Std.Async.Timer
import Std.Sync.CancellationToken
import Std.Sync.Mutex
import StaticGzip.Handle
import StaticGzip.Http.Connection
import StaticGzip.Server.Program

/-! # The server on a network

This layer listens, receives, sends, reads files and the clock, and writes lines. What is answered,
what is logged and when the server stops is decided by the connection, the answer to a request and
the session. -/

namespace StaticGzip.Network

open Std.Async

/-! ## Errors, files and time -/

/-- The error number of a failed operation of the system. -/
def errno : IO.Error → Nat
  | .alreadyExists _ n _ | .otherError n _ | .resourceBusy n _ | .resourceVanished n _
  | .unsupportedOperation n _ | .hardwareFault n _ | .unsatisfiedConstraints n _
  | .illegalOperation n _ | .protocolError n _ | .timeExpired n _ | .interrupted _ n _
  | .noFileOrDirectory _ n _ | .invalidArgument _ n _ | .permissionDenied _ n _
  | .resourceExhausted _ n _ | .inappropriateType _ n _ | .noSuchThing _ n _ => n.toNat
  | .unexpectedEof | .userError _ => 0

/-- The error of a failed operation. -/
def ioError (e : IO.Error) : IoError :=
  if errno e = 0 then .custom .other (toString e) else .system (errno e)

/-- The result of an operation that may fail. -/
def attempt {α : Type} (operation : IO α) : IO (Except IoError α) := do
  try
    return .ok (← operation)
  catch e =>
    return .error (ioError e)

/-- What is known of a file from an attempt to read it. -/
def infoOf : Except IoError ByteArray → Except IoError FileMeta
  | .ok content => .ok ⟨true, content.size⟩
  | .error e =>
    match e.kind with
    | .isADirectory => .ok ⟨false, 0⟩
    | .permissionDenied | .uncategorized => .ok ⟨true, 0⟩
    | _ => .error e

/-- The files of the system as far as some paths go. -/
def filesAt (paths : List Path) : IO FileSystem := do
  let seen ← paths.mapM fun p => return (p, ← attempt (IO.FS.readBinFile p.display))
  let content (p : Path) := (seen.lookup p).getD (.error (.system 2))
  return ⟨fun p => infoOf (content p), content⟩

/-- The offset of the local clock. -/
def localOffset (now : Std.Time.Timestamp) : IO Int := do
  try
    let rules ← match ← IO.getEnv "TZ" with
      | some zone => Std.Time.Database.defaultGetZoneRules zone
      | none => Std.Time.Database.defaultGetLocalZoneRules
    return (rules.timezoneAt now).offset.second.val
  catch _ =>
    return 0

/-- The moment that the clock shows. -/
def now : IO Moment := do
  let t ← Std.Time.Timestamp.now
  let nanos := t.toNanosecondsSinceUnixEpoch.val
  let perSecond : Int := Moment.nanosPerSecond
  return ⟨nanos / perSecond, (nanos % perSecond).toNat, ← localOffset t⟩

/-- Writes lines of the log, each after the time. -/
def say (lines : List String) : IO Unit := do
  let stamp := String.ofList (← now).stamp
  for line in lines do
    IO.println s!"{stamp} {line}"
  (← IO.getStdout).flush

/-! ## Addresses -/

/-- An address as the system takes it. -/
def systemAddress : SocketAddress → Std.Net.SocketAddress
  | .v4 bytes port => .v4 ⟨⟨bytes⟩, port⟩
  | .v6 groups _ port => .v6 ⟨⟨groups⟩, port⟩

/-- An address that the system gives. -/
def ofSystemAddress : Std.Net.SocketAddress → SocketAddress
  | .v4 a => .v4 a.addr.octets a.port
  | .v6 a => .v6 a.addr.segments 0 a.port

/-! ## A running server -/

/-- How many clients may wait to be accepted. -/
def backlog : UInt32 := 128

/-- A **running server**: how it was started, its session, which its connections share, and the
token that ends its accepting. -/
structure Running where
  server : Started
  session : Std.Mutex Server.Session
  requested : Std.CancellationToken

/-- A listening socket at an address. -/
def listen (addr : SocketAddress) : IO TCP.Socket.Server := do
  let listener ← TCP.Socket.Server.mk
  listener.bind (systemAddress addr)
  listener.listen backlog
  return listener

/-- Makes a step of the session and writes what it logs. -/
def Running.step {α : Type} (r : Running) (f : Server.Session → Server.Session × α) : IO α :=
  r.session.atomically do
    let (s, a) := f (← get)
    say (Logger.lines r.server.filter s.events)
    set { s with events := [] }
    return a

/-- Answers a request and writes what is logged about it. -/
def Running.answer (r : Running) (peer : SocketAddress) (request : Http.Request) :
    IO Http.Response := do
  let began ← IO.monoNanosNow
  let settings := r.server.settings
  let route := Route.ofRequest? request.target.path request.headers
  let fs ← filesAt (route.map fun route => settings.root.joinWithin route.file).toList
  let answer ← IO.lazyPure fun _ => Handle.answer fs settings.root request
  let elapsed := (← IO.monoNanosNow) - began
  let time ← now
  let nanos := Moment.nanosPerSecond
  let circumstances : Circumstances := ⟨peer, time, ⟨elapsed / nanos, elapsed % nanos⟩⟩
  let line := accessEvents settings.logging circumstances request answer.response
  r.step fun s => (s.log (answer.events ++ line), ())
  return answer.response

/-! ## Connections -/

/-- What comes of waiting for bytes. -/
inductive Received where
  | bytes (data : ByteArray)
  | ended
  | late

/-- How many bytes are received at once. -/
def pieceSize : UInt64 := 65536

/-- Waits for bytes, but not beyond a time of the clock in milliseconds. -/
def receive (client : TCP.Socket.Client) (deadline : Option Nat) : IO Received := do
  let found (data : Option ByteArray) : Received := (data.map .bytes).getD .ended
  match deadline with
  | none => return found (← (client.recv? pieceSize).block)
  | some deadline =>
    let left := deadline - (← IO.monoMsNow)
    if left = 0 then return .late
    let wait : Async Received := do
      let alarm ← Selector.sleep (.ofNat left)
      Selectable.one #[
        .case (client.recvSelector pieceSize) fun data => return found data,
        .case alarm fun _ => return .late]
    wait.block

/-- Takes turns on a connection until it ends. -/
partial def Running.converse (r : Running) (client : TCP.Socket.Client) (peer : SocketAddress)
    (deadline : Option Nat) (c : Http.Connection) : IO Server.Ending := do
  match c.turn (r.server.settings.performance.keepAliveTimeout != 0) with
  | .wait =>
    match ← receive client deadline with
    | .bytes data => r.converse client peer deadline (c.receive data.data.toList)
    | .ended => r.converse client peer deadline c.finish
    | .late => return .timeout
  | .answer request form next =>
    let response ← r.answer peer request
    (client.send (response.wire form (← now))).block
    match next with
    | some c => r.converse client peer deadline c
    | none => return .success
  | .refuse response form e =>
    (client.send (response.wire form (← now))).block
    return .failure (Http.ConnectionError.head e).form
  | .fail e => return .failure e.form
  | .close => return .success

/-- Serves a connection that has been accepted, and gives it back when it has ended. -/
def Running.serve (r : Running) (client : TCP.Socket.Client) (peer : SocketAddress) :
    IO Unit := do
  let lifetime := r.server.settings.performance.lifetime.toNat
  let began ← IO.monoMsNow
  let deadline := if lifetime = 0 then none else some (began + 1000 * lifetime)
  let ending ← match ← attempt (r.converse client peer deadline .fresh) with
    | .ok ending => pure ending
    | .error e => pure (.failure (Http.ConnectionError.io e).form)
  let _ ← attempt client.shutdown.block
  r.step fun s => (s.finish peer ending, ())

/-- Accepts a connection and serves it on a thread of its own. -/
def Running.accept (r : Running) (client : TCP.Socket.Client) : IO Unit := do
  match ← attempt client.getPeerName with
  | .error e => r.step fun s => (s.log [Logger.acceptFailed e.message], ())
  | .ok peer =>
    let peer := ofSystemAddress peer
    if ← r.step (·.accept peer) then
      let _ ← IO.asTask (r.serve client peer) Task.Priority.dedicated
    else
      let _ ← attempt client.shutdown.block

/-! ## The life of the server -/

/-- A signal as the system knows it. -/
def systemSignal : Server.Signal → Std.Async.Signal
  | .terminate => .sigterm
  | .interrupt => .sigint

/-- Requests shutdown as soon as a signal comes, while the waiter that is returned is kept. -/
def Running.heed (r : Running) (signal : Server.Signal) : IO Signal.Waiter := do
  let waiter ← Signal.Waiter.mk (systemSignal signal) false
  let request (received : Except IO.Error Int) : IO Unit := do
    let _ ← IO.ofExcept received
    r.step fun s => ((s.log [signal.received]).trigger, ())
    r.requested.cancel
  let _ ← IO.mapTask request (← waiter.wait)
  return waiter

/-- Accepts connections until shutdown is requested. -/
partial def Running.acceptAll (r : Running) (listener : TCP.Socket.Server) : IO Unit := do
  let next : Async (Option TCP.Socket.Client) := Selectable.one #[
    .case listener.acceptSelector fun client => return some client,
    .case r.requested.selector fun _ => return none]
  match ← attempt next.block with
  | .ok none => return
  | .ok (some client) => r.accept client
  | .error e => r.step fun s => (s.log [Logger.acceptFailed e.message], ())
  r.acceptAll listener

/-- The number of the process. -/
def processNumber : IO String := do
  let status ← IO.FS.readFile "/proc/self/stat"
  return String.ofList (status.toList.takeWhile Char.isDigit)

/-- How often a server that drains looks at its clock, in milliseconds. -/
def drainPeriod : UInt32 := 10

/-- Lets time pass until the server has stopped. -/
partial def Running.drain (r : Running) (clock : Nat) : IO Unit := do
  let time ← IO.monoMsNow
  let stopped ← r.step fun s =>
    let s := s.advance (time - clock)
    (s, s.isStopped)
  if !stopped then
    IO.sleep drainPeriod
    r.drain time

/-- **Runs a server** that has logged some events at its start until a signal stops it. -/
def run (server : Started) (events : List Event) (listener : TCP.Socket.Server) : IO Unit := do
  say (Logger.lines server.filter events)
  let session ← Std.Mutex.new (Server.Session.begin server.settings.performance)
  let r : Running := ⟨server, session, ← Std.CancellationToken.new⟩
  let waiters ← [Server.Signal.terminate, .interrupt].mapM r.heed
  let watched := Server.Signal.watched (← processNumber)
  r.step fun s => (s.log [watched], ())
  r.acceptAll listener
  r.drain (← IO.monoMsNow)
  waiters.forM (·.stop)

end StaticGzip.Network
