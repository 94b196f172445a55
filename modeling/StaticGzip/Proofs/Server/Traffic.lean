import StaticGzip.Proofs.Server.Trace
import StaticGzip.Server.Session

/-! # Connections that come and go at the same time

Connections are accepted, served and given back on many threads, while others wait until there are
none. Each of them makes small steps, and the steps of all of them may come in any order.

Every connection under way is looked after at some place in memory, first by the call that accepts
it and then by its task. Two of them never share a place, and a place is a machine word, as the
counter is. No other bound is put on how many connections come, or how many are under way at once.

* **`Stage`, `Visit`** — how far a connection is, and where in memory it is looked after.
* **`Traffic`** — all visits so far, with the connections that they have counted.
* **`Step`** — the steps that the parties can make.
* **`Run`** — any number of steps in any order. -/

namespace StaticGzip.Server

/-! ## Visits -/

/-- The **stage** of a connection, from the call that accepts it to the end of the task that serves
it. The call first counts the connection and learns how many there were before. Then it compares
that number with the limit, and it either takes the connection back or hands it over to a task. The
task ends in one way or another and gives the connection back. Whoever gives back the last one has
to wake those who wait. -/
inductive Stage where
  | counted (before : UInt64)
  | excess
  | served
  | ended (ending : Ending)
  | waking (accepted : Bool)
  | closed (accepted : Bool)
deriving DecidableEq, Repr

namespace Stage

/-- Whether the call that accepts the connection has not returned. -/
def isAccepting : Stage → Bool
  | counted _ | excess | waking false => true
  | served | ended _ | waking true | closed _ => false

/-- Whether the call has counted the connection, and has neither handed it over nor taken it
back. -/
def isPending : Stage → Bool
  | counted _ | excess => true
  | served | ended _ | waking _ | closed _ => false

/-- Whether the connection was handed over, and its task has not given it back. -/
def isHeld : Stage → Bool
  | served | ended _ => true
  | counted _ | excess | waking _ | closed _ => false

/-- Whether the connection has been given back or taken back. -/
def isReleased : Stage → Bool
  | waking _ | closed _ => true
  | counted _ | excess | served | ended _ => false

/-- Whether the connection was accepted, as soon as that is decided. -/
def accepted? : Stage → Option Bool
  | counted _ => none
  | excess => some false
  | served | ended _ => some true
  | waking accepted | closed accepted => some accepted

/-- Whether the connection is to be released next, and if so, whether it had been accepted. -/
def due? : Stage → Option Bool
  | excess => some false
  | ended _ => some true
  | counted _ | served | waking _ | closed _ => none

/-- Whether nothing is left to be done. -/
def isClosed : Stage → Bool
  | closed _ => true
  | counted _ | excess | served | ended _ | waking _ => false

/-- The stage after the number before was compared with the limit. -/
def checked (limits : PerformanceSettings) (before : UInt64) : Stage :=
  if (limits.reachedLimit? before).isSome then excess else served

/-- The stage after the connection is released, when there are `active` connections. -/
def released (active : UInt64) (accepted : Bool) : Stage :=
  if active = 1 then waking accepted else closed accepted

end Stage

/-- A **visit**: the place in memory where a connection is looked after, by the call and then by
the task, and its stage. -/
structure Visit where
  place : UInt64
  stage : Stage
deriving DecidableEq, Repr

/-- The place that a visit occupies as long as something is left to be done. -/
def Visit.place? (v : Visit) : Option UInt64 := if v.stage.isClosed then none else some v.place

/-! ## Traffic -/

/-- The **traffic** of a server: its limits, the connections as they are counted, and all visits in
the order in which they were counted. -/
structure Traffic where
  limits : PerformanceSettings
  connections : Connections
  visits : List Visit
deriving DecidableEq, Repr

namespace Traffic

/-- No traffic yet. -/
def start (limits : PerformanceSettings) : Traffic := ⟨limits, .none, []⟩

/-- The **occupied places**. -/
def places (t : Traffic) : List UInt64 := t.visits.filterMap Visit.place?

/-- The **number of visits** in stages of some kind. -/
def number (t : Traffic) (p : Stage → Bool) : Nat := t.visits.countP fun v => p v.stage

/-- The number of accepted connections that are not yet released. -/
def held (t : Traffic) : Nat := t.number Stage.isHeld

/-- The number of calls that have counted a connection, and have neither handed it over nor taken
it back. -/
def pending (t : Traffic) : Nat := t.number Stage.isPending

/-- The traffic with a visit in another stage, the connections as they are counted then. -/
def move (t : Traffic) (connections : Connections) (k : Nat) (v : Visit) (stage : Stage) :
    Traffic :=
  { t with connections := connections, visits := t.visits.set k ⟨v.place, stage⟩ }

/-- The traffic with one more visit at a place, which counts its connection. -/
def arrive (t : Traffic) (place : UInt64) : Traffic :=
  { t with
    connections := t.connections.acquire
    visits := t.visits ++ [⟨place, .counted t.connections.active⟩] }

/-- The traffic after a wait went on. -/
def goOn (t : Traffic) (k : Nat) (next : Wait) : Traffic :=
  { t with connections.waiters := t.connections.waiters.set k next }

variable {t : Traffic} {k : Nat} {v : Visit}

/-- A moved visit is in its new stage, and all others are where they were. -/
theorem getElem?_move (here : t.visits[k]? = some v) (c : Connections) (stage : Stage) (j : Nat) :
    (t.move c k v stage).visits[j]? = if k = j then some ⟨v.place, stage⟩ else t.visits[j]? := by
  obtain ⟨inside, -⟩ := List.getElem?_eq_some_iff.mp here
  rw [move, List.getElem?_set, if_pos inside]

/-- A visit that arrives comes last, and all others are where they were. -/
theorem getElem?_arrive (t : Traffic) (place : UInt64) (j : Nat) :
    (t.arrive place).visits[j]?
      = if t.visits.length = j then some ⟨place, .counted t.connections.active⟩
        else t.visits[j]? := by
  rw [arrive, List.getElem?_append, List.getElem?_singleton]
  by_cases last : t.visits.length = j
  · simp [last]
  -- Beyond the last visit there is nothing, before or after.
  · by_cases inside : j < t.visits.length
    · rw [if_pos inside, if_neg last]
    · rw [if_neg inside, if_neg (by omega), if_neg last,
        List.getElem?_eq_none (Nat.not_lt.mp inside)]

/-- A wait that goes on is in its new place. -/
theorem getElem?_goOn_self {w : Wait} (here : t.connections.waiters[k]? = some w) (next : Wait) :
    (t.goOn k next).connections.waiters[k]? = some next :=
  List.getElem?_set_self (List.getElem?_eq_some_iff.mp here).1

end Traffic

/-! ## Steps -/

/-- A **step**: a call counts a connection at a place, visit `k` is compared with the limit, its
task ends, it is released, it wakes those who wait, somebody is about to wait, or the `k`-th wait
goes on. -/
inductive Action where
  | count (place : UInt64)
  | check (k : Nat)
  | finish (k : Nat) (ending : Ending)
  | release (k : Nat)
  | wake (k : Nat)
  | enter
  | wait (k : Nat)
deriving DecidableEq, Repr

variable {limits : PerformanceSettings} {t t' : Traffic} {a : Action} {actions : List Action}

/-- The **steps** that the parties can make. What is looked after at the same time stands at
different places, none of them zero. -/
inductive Step (t : Traffic) : Action → Traffic → Prop where
  /-- A connection is counted. -/
  | count {place : UInt64} (free : place ∉ t.places) (used : place ≠ 0) :
    Step t (.count place) (t.arrive place)
  /-- The number before is compared with the limit. -/
  | check {k : Nat} {v : Visit} {before : UInt64} (here : t.visits[k]? = some v)
      (stage : v.stage = .counted before) :
    Step t (.check k) (t.move t.connections k v (.checked t.limits before))
  /-- A task ends. -/
  | finish {k : Nat} {v : Visit} (here : t.visits[k]? = some v) (stage : v.stage = .served)
      (ending : Ending) :
    Step t (.finish k ending) (t.move t.connections k v (.ended ending))
  /-- A connection is released. -/
  | release {k : Nat} {v : Visit} {accepted : Bool} (here : t.visits[k]? = some v)
      (due : v.stage.due? = some accepted) :
    Step t (.release k)
      (t.move t.connections.subtract k v (.released t.connections.active accepted))
  /-- Those who wait are woken. -/
  | wake {k : Nat} {v : Visit} {accepted : Bool} (here : t.visits[k]? = some v)
      (stage : v.stage = .waking accepted) :
    Step t (.wake k) (t.move t.connections.wakeAll k v (.closed accepted))
  /-- Somebody is about to wait. -/
  | enter : Step t .enter { t with connections := t.connections.enter }
  /-- A wait goes on. -/
  | wait {k : Nat} {w next : Wait} (here : t.connections.waiters[k]? = some w)
      (goes : w.step? t.connections.active = some next) :
    Step t (.wait k) (t.goOn k next)

/-- A **run** of the traffic. -/
abbrev Run : Traffic → List Action → Traffic → Prop := Trace Step

/-- The limits never change. -/
theorem Step.limits_eq (step : Step t a t') : t'.limits = t.limits := by
  cases step <;> rfl

/-- The limits are those of the start. -/
theorem Run.limits_eq {s : Traffic} (run : Run s actions t) : t.limits = s.limits :=
  run.kept (P := fun t => t.limits = s.limits) rfl fun same step => step.limits_eq.trans same

/-! ## Steps as a function -/

/-- The traffic after a step, if it can be made. -/
def Traffic.step? (t : Traffic) : Action → Option Traffic
  | .count place => if place ∉ t.places ∧ place ≠ 0 then some (t.arrive place) else none
  | .check k => t.visits[k]?.bind fun v =>
    match v.stage with
    | .counted before => some (t.move t.connections k v (.checked t.limits before))
    | _ => none
  | .finish k ending => t.visits[k]?.bind fun v =>
    if v.stage = .served then some (t.move t.connections k v (.ended ending)) else none
  | .release k => t.visits[k]?.bind fun v => v.stage.due?.map fun accepted =>
    t.move t.connections.subtract k v (.released t.connections.active accepted)
  | .wake k => t.visits[k]?.bind fun v =>
    match v.stage with
    | .waking accepted => some (t.move t.connections.wakeAll k v (.closed accepted))
    | _ => none
  | .enter => some { t with connections := t.connections.enter }
  | .wait k => t.connections.waiters[k]?.bind fun w =>
    (w.step? t.connections.active).map (t.goOn k)

/-- The steps are **those of the function**, so what happens in a step is determined by the
step. -/
theorem step_iff : Step t a t' ↔ t.step? a = some t' := by
  constructor
  · intro step
    cases step with
    | count free used => exact if_pos ⟨free, used⟩
    | check here stage => simp [Traffic.step?, here, stage]
    | finish here stage => simp [Traffic.step?, here, stage]
    | release here due => simp [Traffic.step?, here, due]
    | wake here stage => simp [Traffic.step?, here, stage]
    | enter => rfl
    | wait here goes => simp [Traffic.step?, here, goes]
  · intro step
    cases a with
    | count place =>
      obtain ⟨⟨free, used⟩, step⟩ := Option.ite_none_right_eq_some.mp step
      obtain rfl := Option.some.inj step
      exact .count free used
    | check k =>
      obtain ⟨v, here, step⟩ := Option.bind_eq_some_iff.mp step
      cases stage : v.stage with
      | counted before =>
        rw [stage] at step
        obtain rfl := Option.some.inj step
        exact .check here stage
      | _ => exact absurd step (by simp [stage])
    | finish k ending =>
      obtain ⟨v, here, step⟩ := Option.bind_eq_some_iff.mp step
      obtain ⟨stage, step⟩ := Option.ite_none_right_eq_some.mp step
      obtain rfl := Option.some.inj step
      exact .finish here stage ending
    | release k =>
      obtain ⟨v, here, step⟩ := Option.bind_eq_some_iff.mp step
      obtain ⟨accepted, due, rfl⟩ := Option.map_eq_some_iff.mp step
      exact .release here due
    | wake k =>
      obtain ⟨v, here, step⟩ := Option.bind_eq_some_iff.mp step
      cases stage : v.stage with
      | waking accepted =>
        rw [stage] at step
        obtain rfl := Option.some.inj step
        exact .wake here stage
      | _ => exact absurd step (by simp [stage])
    | enter =>
      obtain rfl := Option.some.inj step
      exact .enter
    | wait k =>
      obtain ⟨w, here, step⟩ := Option.bind_eq_some_iff.mp step
      obtain ⟨next, goes, rfl⟩ := Option.map_eq_some_iff.mp step
      exact .wait here goes

/-- The traffic after **some steps**, if they can be made. -/
def Traffic.run? (t : Traffic) (actions : List Action) : Option Traffic :=
  actions.foldlM Traffic.step? t

/-- The runs are **those of the function**. -/
theorem run_iff : Run t actions t' ↔ t.run? actions = some t' := by
  constructor
  · intro run
    induction run with
    | nil => rfl
    | snoc run step ih =>
      rw [Traffic.run?] at ih
      rw [Traffic.run?, List.foldlM_append, ih]
      simp [step_iff.mp step]
  · intro run
    induction actions generalizing t with
    | nil =>
      obtain rfl := Option.some.inj run
      exact .nil
    | cons a actions ih =>
      rw [Traffic.run?, List.foldlM_cons] at run
      obtain ⟨next, step, rest⟩ := Option.bind_eq_some_iff.mp run
      exact .cons (step_iff.mpr step) (ih rest)

end StaticGzip.Server
