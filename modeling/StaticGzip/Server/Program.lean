import StaticGzip.Server.Session
import StaticGzip.Server.Startup

/-! # The program

The program starts a server, runs it until a signal asks it to stop, and ends with a code. What it
has to say goes to two streams of lines. -/

namespace StaticGzip.Server

/-- A **signal** that asks the server to stop. -/
inductive Signal where
  | terminate
  | interrupt
deriving DecidableEq, Repr

/-- The name of a signal. -/
def Signal.name : Signal → String
  | .terminate => "SIGTERM"
  | .interrupt => "SIGINT"

/-- The event of a signal. -/
def Signal.received (s : Signal) : Event :=
  ⟨.info, Event.signal, s!"{s.name} received, initiating graceful shutdown", []⟩

/-- The event of signals that are being watched for, by a process of a given number. -/
def Signal.watched (process : String) : Event :=
  ⟨.debug, Event.signal, s!"Signal handlers registered (pid {process})", []⟩

/-- How the **program ends**: its code, the lines of its log, and what it reports as its failure,
which nothing tells of a crash. -/
structure Ended where
  code : UInt32
  log : List String
  report : Option (List String)
deriving DecidableEq, Repr

/-- The code of a failed start. -/
def failureCode : UInt32 := 1

/-- The code of a crash. -/
def crashCode : UInt32 := 101

/-- The events of a server that is stopped by a signal before anybody connects. -/
def stopEvents (server : Started) (signal : Signal) : List Event :=
  ((Session.begin server.settings.performance).log [signal.received]).trigger.events

/-- How the program ends after a start, if it is stopped by a signal before anybody connects. -/
def endOf (launch : Launch Started) (signal : Signal) : Ended :=
  match launch.result with
  | .ok server =>
    ⟨0, Logger.lines server.filter (launch.events ++ stopEvents server signal), some []⟩
  | .error halt =>
    match halt.form? with
    | some form => ⟨failureCode, [], some [s!"Error: {form}"]⟩
    | none => ⟨crashCode, [], none⟩

/-- The **program** from its start to the signal that ends it, if nobody connects. -/
def run (w : Surroundings) (signal : Signal) : Ended := endOf (start w) signal

end StaticGzip.Server
