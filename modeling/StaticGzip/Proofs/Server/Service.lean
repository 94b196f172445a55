import StaticGzip.Proofs.Server.Summons
import StaticGzip.Proofs.Server.Traffic

/-! # The service from the first turn of its loop to the end of its drain

The loop takes one connection after the other from the listener and calls for each one what accepts
it. Other parties go on meanwhile: tasks serve connections and give them back, calls request
shutdown, and time passes. When the loop has seen the request it is left. Then nothing is taken from
the listener any more, and the loop waits for the connections to be given back, but no longer than
one may live. Its last words are that the server has stopped.

* **`Duty`** — what the loop is doing.
* **`Service`** — the loop, the traffic, the summons, the clock, and what everybody has said.
* **`Service.Step`, `Service.Run`** — the steps of all parties, and any number of them in any
  order.
* **`Service.Step.traffic_cases`, `Service.Step.summons_cases`** — to the traffic and to the summons
  a step is one of theirs, or nothing.
* **`Service.Run.traffic`, `Service.Run.summons`** — so a run of the service is a run of each. -/

namespace StaticGzip.Server

/-! ## The loop -/

/-- What the **loop is doing**. In its turns it listens. It has taken a connection, or the listener
has failed; it accepts visit `k`, or it takes that visit back, since there were too many before.
When it is left it says so, it drains with wait `k` since some time, it finds the drain overdue and
warns, and it stops. That it was overdue is remembered with the time at which the drain began. -/
inductive Duty where
  | listening
  | taken (peer : SocketAddress)
  | failed (shown : String)
  | accepting (k : Nat)
  | rejecting (k : Nat) (before limit : UInt64)
  | closing
  | draining (k since : Nat)
  | overdue (since : Nat)
  | warned (since : Nat)
  | stopped (late : Option Nat)
deriving DecidableEq, Repr

namespace Duty

/-- The visit that the loop is accepting or taking back. -/
def visit? : Duty → Option Nat
  | accepting k | rejecting k _ _ => some k
  | listening | taken _ | failed _ | closing | draining _ _ | overdue _ | warned _ | stopped _ =>
    none

/-- Since when the loop has been draining. -/
def since? : Duty → Option Nat
  | draining _ since | overdue since | warned since => some since
  | stopped late => late
  | listening | taken _ | failed _ | accepting _ | rejecting _ _ _ | closing => none

/-- Whether the drain was overdue. -/
def isLate : Duty → Bool
  | overdue _ | warned _ | stopped (some _) => true
  | listening | taken _ | failed _ | accepting _ | rejecting _ _ _ | closing | draining _ _
  | stopped none => false

/-- Whether the loop has stopped. -/
def isStopped : Duty → Bool
  | stopped _ => true
  | listening | taken _ | failed _ | accepting _ | rejecting _ _ _ | closing | draining _ _
  | overdue _ | warned _ => false

end Duty

/-! ## The service -/

/-- Who **speaks**: the loop, or the task of a connection. -/
inductive Speaker where
  | loop
  | task
deriving DecidableEq, Repr

/-- An **entry** of the log. -/
structure Entry where
  speaker : Speaker
  event : Event
deriving DecidableEq, Repr

/-- The **service**: the traffic with the peer of every visit, the summons, what the loop is doing,
the clock in milliseconds, and all that was said. -/
structure Service where
  traffic : Traffic
  peers : List SocketAddress
  summons : Summons
  duty : Duty
  clock : Nat
  log : List Entry
deriving DecidableEq, Repr

namespace Service

/-- The service before the first turn of the loop. -/
def start (limits : PerformanceSettings) : Service :=
  ⟨.start limits, [], .start, .listening, 0, []⟩

/-- The number of connections, as it is counted. -/
def active (s : Service) : UInt64 := s.traffic.connections.active

/-- How long a connection may live in seconds, where zero is no bound. -/
def lifetime (s : Service) : UInt64 := s.traffic.limits.lifetime

/-- For every connection whether it was accepted, as soon as that is decided. -/
def accepted (s : Service) : List (Option Bool) := s.traffic.visits.map (·.stage.accepted?)

/-- The service after somebody has **said** something. -/
def say (s : Service) (speaker : Speaker) (events : List Event) : Service :=
  { s with log := s.log ++ events.map (⟨speaker, ·⟩) }

/-- What the **loop has said**. -/
def own (s : Service) : List Event :=
  (s.log.filter (·.speaker = .loop)).map (·.event)

/-- What the loop says is its own. -/
@[simp] theorem own_say_loop (s : Service) (events : List Event) :
    (s.say .loop events).own = s.own ++ events := by
  simp [own, say, List.filter_map, Function.comp_def]

/-- What a task says is not the loop's. -/
@[simp] theorem own_say_task (s : Service) (events : List Event) :
    (s.say .task events).own = s.own := by
  simp [own, say, List.filter_map, Function.comp_def]

/-! ## Steps -/

/-- A **step**: somebody calls for shutdown; the loop begins a turn or its lookout looks; it takes a
connection, or the listener fails and the loop reports it; it counts the connection at a place,
accepts visit `k`, or finds that there are too many, and rejects the visit after it was taken back;
the task of visit `k` says something while it serves, or ends; visit `k` is released, or wakes those
who wait; the loop is left, drains, goes on waiting with wait `k`, finds the drain overdue, warns
and stops; or time passes. -/
inductive Action where
  | call (a : Summons.Action)
  | turn (a : Summons.Action)
  | take (peer : SocketAddress)
  | fail (shown : String)
  | report
  | count (place : UInt64)
  | accept (k : Nat)
  | exceed (k : Nat)
  | reject (k : Nat)
  | serve (k : Nat) (events : List Event)
  | finish (k : Nat) (ending : Ending)
  | release (k : Nat)
  | wake (k : Nat)
  | leave
  | drain
  | wait (k : Nat)
  | expire
  | warn
  | stop
  | tick (ms : Nat)
deriving DecidableEq, Repr

namespace Action

/-- What a step is to the traffic. -/
def traffic? : Action → Option Server.Action
  | count place => some (.count place)
  | accept k | exceed k => some (.check k)
  | finish k ending => some (.finish k ending)
  | release k => some (.release k)
  | wake k => some (.wake k)
  | drain => some .enter
  | wait k => some (.wait k)
  | call _ | turn _ | take _ | fail _ | report | reject _ | serve _ _ | leave | expire | warn | stop
  | tick _ => none

/-- What a step is to the summons: taking a connection ends the turn, and so does a failure. -/
def summons? : Action → Option Summons.Action
  | call a | turn a => some a
  | take _ | fail _ => some .give
  | report | count _ | accept _ | exceed _ | reject _ | serve _ _ | finish _ _ | release _ | wake _
  | leave | drain | wait _ | expire | warn | stop | tick _ => none

/-- Whether a step is one of those by which a connection is taken, counted and accepted, or not. -/
def isAccepting : Action → Bool
  | take _ | fail _ | report | count _ | accept _ | exceed _ | reject _ => true
  | call _ | turn _ | serve _ _ | finish _ _ | release _ | wake _ | leave | drain | wait _ | expire
  | warn | stop | tick _ => false

end Action

/-- The **steps** that the parties can make. -/
inductive Step (s : Service) : Action → Service → Prop where
  /-- Somebody calls for shutdown. -/
  | call {a : Summons.Action} {m : Summons} (calls : a.isCall = true) (step : s.summons.Step a m) :
    Step s (.call a) { s with summons := m }
  /-- The loop begins a turn, or its lookout looks. -/
  | turn {a : Summons.Action} {m : Summons} (duty : s.duty = .listening)
      (turns : a = .begin ∨ a = .look) (step : s.summons.Step a m) :
    Step s (.turn a) { s with summons := m }
  /-- The turn ends with a connection. -/
  | take {m : Summons} (duty : s.duty = .listening) (step : s.summons.Step .give m)
      (peer : SocketAddress) :
    Step s (.take peer) { s with summons := m, duty := .taken peer }
  /-- The turn ends with a failure of the listener. -/
  | fail {m : Summons} (duty : s.duty = .listening) (step : s.summons.Step .give m)
      (shown : String) :
    Step s (.fail shown) { s with summons := m, duty := .failed shown }
  /-- The failure is reported. -/
  | report {shown : String} (duty : s.duty = .failed shown) :
    Step s .report ({ s with duty := .listening }.say .loop [Logger.acceptFailed shown])
  /-- The connection is counted. -/
  | count {peer : SocketAddress} {place : UInt64} {t : Traffic} (duty : s.duty = .taken peer)
      (step : Server.Step s.traffic (.count place) t) :
    Step s (.count place)
      { s with
        traffic := t
        peers := s.peers ++ [peer]
        duty := .accepting s.traffic.visits.length }
  /-- There is room for it, and it is handed over to a task. -/
  | accept {k : Nat} {v : Visit} {before : UInt64} {peer : SocketAddress} {t : Traffic}
      (duty : s.duty = .accepting k) (here : s.traffic.visits[k]? = some v)
      (stage : v.stage = .counted before) (room : s.traffic.limits.reachedLimit? before = none)
      (known : s.peers[k]? = some peer) (step : Server.Step s.traffic (.check k) t) :
    Step s (.accept k)
      ({ s with traffic := t, duty := .listening }.say .loop [Logger.accepted peer])
  /-- There were too many before. -/
  | exceed {k : Nat} {v : Visit} {before limit : UInt64} {t : Traffic}
      (duty : s.duty = .accepting k) (here : s.traffic.visits[k]? = some v)
      (stage : v.stage = .counted before)
      (full : s.traffic.limits.reachedLimit? before = some limit)
      (step : Server.Step s.traffic (.check k) t) :
    Step s (.exceed k) { s with traffic := t, duty := .rejecting k before limit }
  /-- The connection has been taken back, and it is rejected. -/
  | reject {k : Nat} {v : Visit} {before limit : UInt64} {peer : SocketAddress}
      (duty : s.duty = .rejecting k before limit) (here : s.traffic.visits[k]? = some v)
      (closed : v.stage.isClosed = true) (known : s.peers[k]? = some peer) :
    Step s (.reject k)
      ({ s with duty := .listening }.say .loop [Session.rejected before limit peer])
  /-- A task says something while it serves. -/
  | serve {k : Nat} {v : Visit} (here : s.traffic.visits[k]? = some v) (stage : v.stage = .served)
      (events : List Event) :
    Step s (.serve k events) (s.say .task events)
  /-- A task ends. -/
  | finish {k : Nat} {ending : Ending} {peer : SocketAddress} {t : Traffic}
      (known : s.peers[k]? = some peer) (step : Server.Step s.traffic (.finish k ending) t) :
    Step s (.finish k ending)
      ({ s with traffic := t }.say .task (Session.endingEvents s.traffic.limits peer ending))
  /-- A connection is released. -/
  | release {k : Nat} {t : Traffic} (step : Server.Step s.traffic (.release k) t) :
    Step s (.release k) { s with traffic := t }
  /-- Those who wait are woken. -/
  | wake {k : Nat} {t : Traffic} (step : Server.Step s.traffic (.wake k) t) :
    Step s (.wake k) { s with traffic := t }
  /-- The loop is left. -/
  | leave (duty : s.duty = .listening) (left : s.summons.turn = .left) :
    Step s .leave
      ({ s with duty := .closing }.say .loop [Logger.shutdownRequested s.active.toNat])
  /-- The drain begins. -/
  | drain {t : Traffic} (duty : s.duty = .closing) (step : Server.Step s.traffic .enter t) :
    Step s .drain { s with
      traffic := t, duty := .draining s.traffic.connections.waiters.length s.clock }
  /-- The wait of the drain goes on. -/
  | wait {k since : Nat} {t : Traffic} (duty : s.duty = .draining k since)
      (step : Server.Step s.traffic (.wait k) t) :
    Step s (.wait k) { s with traffic := t }
  /-- The wait has not come to its end, and the drain has taken as long as it may. -/
  | expire {k since : Nat} {woken : Bool} (duty : s.duty = .draining k since)
      (asleep : s.traffic.connections.waiters[k]? = some (.sleeping woken))
      (bounded : s.lifetime ≠ 0) (due : since + s.lifetime.toNat * 1000 ≤ s.clock) :
    Step s .expire { s with duty := .overdue since }
  /-- The loop warns that connections are left. -/
  | warn {since : Nat} (duty : s.duty = .overdue since) :
    Step s .warn
      ({ s with duty := .warned since }.say .loop [Session.drainedTooLong s.active s.lifetime])
  /-- The wait has come to its end, and the loop stops. -/
  | stop {k since : Nat} (duty : s.duty = .draining k since)
      (finished : s.traffic.connections.waiters[k]? = some .finished) :
    Step s .stop ({ s with duty := .stopped none }.say .loop [Session.stoppedEvent])
  /-- After its warning, the loop stops. -/
  | stopLate {since : Nat} (duty : s.duty = .warned since) :
    Step s .stop ({ s with duty := .stopped (some since) }.say .loop [Session.stoppedEvent])
  /-- Time passes. -/
  | tick (ms : Nat) : Step s (.tick ms) { s with clock := s.clock + ms }

/-- A **run** of the service. -/
abbrev Run : Service → List Action → Service → Prop := Trace Step

variable {s t : Service} {a : Action} {actions : List Action} {limits : PerformanceSettings}

/-! ## What a step is to the traffic and to the summons -/

/-- To the **traffic** a step is one of its own, or nothing. -/
theorem Step.traffic_cases (step : Step s a t) :
    (a.traffic? = none ∧ t.traffic = s.traffic) ∨
      ∃ b, a.traffic? = some b ∧ Server.Step s.traffic b t.traffic := by
  cases step with
  | count _ step => exact .inr ⟨_, rfl, step⟩
  | accept _ _ _ _ _ step => exact .inr ⟨_, rfl, step⟩
  | exceed _ _ _ _ step => exact .inr ⟨_, rfl, step⟩
  | finish _ step => exact .inr ⟨_, rfl, step⟩
  | release step => exact .inr ⟨_, rfl, step⟩
  | wake step => exact .inr ⟨_, rfl, step⟩
  | drain _ step => exact .inr ⟨_, rfl, step⟩
  | wait _ step => exact .inr ⟨_, rfl, step⟩
  | _ => exact .inl ⟨rfl, rfl⟩

/-- To the **summons** a step is one of its own, or nothing. -/
theorem Step.summons_cases (step : Step s a t) :
    (a.summons? = none ∧ t.summons = s.summons) ∨
      ∃ b, a.summons? = some b ∧ s.summons.Step b t.summons := by
  cases step with
  | call _ step => exact .inr ⟨_, rfl, step⟩
  | turn _ _ step => exact .inr ⟨_, rfl, step⟩
  | take _ step => exact .inr ⟨_, rfl, step⟩
  | fail _ step => exact .inr ⟨_, rfl, step⟩
  | _ => exact .inl ⟨rfl, rfl⟩

/-- A run of the service is a run of its **traffic**. -/
theorem Run.traffic (run : Run s actions t) :
    Server.Run s.traffic (actions.filterMap Action.traffic?) t.traffic := by
  induction run with
  | nil => exact .nil
  | snoc _ last ih =>
    rw [List.filterMap_append]
    rcases last.traffic_cases with ⟨none, same⟩ | ⟨b, some, step⟩
    · rwa [List.filterMap_cons_none none, List.filterMap_nil, List.append_nil, same]
    · rw [List.filterMap_cons_some some]
      exact ih.snoc step

/-- A run of the service is a run of its **summons**. -/
theorem Run.summons (run : Run s actions t) :
    Summons.Run s.summons (actions.filterMap Action.summons?) t.summons := by
  induction run with
  | nil => exact .nil
  | snoc _ last ih =>
    rw [List.filterMap_append]
    rcases last.summons_cases with ⟨none, same⟩ | ⟨b, some, step⟩
    · rwa [List.filterMap_cons_none none, List.filterMap_nil, List.append_nil, same]
    · rw [List.filterMap_cons_some some]
      exact ih.snoc step

end Service

end StaticGzip.Server
