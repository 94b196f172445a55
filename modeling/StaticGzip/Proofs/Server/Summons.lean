import StaticGzip.Proofs.Server.Trace
import StaticGzip.Server.Shutdown

/-! # Calls for shutdown, and the loop that looks out for them

Shutdown may be requested by many calls at the same time, before the accept loop looks out for it,
while it does, and after it has stopped. The loop makes a new lookout in each of its turns. A turn
ends because the lookout has seen the request, and then the loop is left; or it ends because of
something else, even if the lookout could have seen the request, and then the lookout is given up.

Only the call that marks shutdown as requested goes on to notify.

* **`Caller`, `Turn`, `Summons`** — the calls, the loop, and both of them with the shutdown.
* **`Summons.Step`, `Summons.Run`** — the steps of all parties, and any number of them.
* **`Summons.Step.left`, `Summons.Step.turn_of_isCall`** — who moves the loop. -/

namespace StaticGzip.Server

/-! ## Parties -/

/-- How far a **call** that requests shutdown has come: it is about to mark shutdown as requested,
it was the first to do so and is about to notify, or it has returned, after it notified or without
it. -/
inductive Caller where
  | calling
  | first
  | returned (notified : Bool)
deriving DecidableEq, Repr

namespace Caller

/-- Whether the call was the first one. -/
def isFirst : Caller → Bool
  | first | returned true => true
  | calling | returned false => false

/-- Whether the call has notified. -/
def hasNotified : Caller → Bool
  | returned true => true
  | calling | first | returned false => false

/-- How far a call has come after it has marked shutdown as requested: if it had been before, it
returns. -/
def marked (requested : Bool) : Caller := if requested then returned false else first

/-- The call that finds shutdown not yet requested is the first one. -/
@[simp] theorem isFirst_marked (requested : Bool) : (marked requested).isFirst = !requested := by
  cases requested <;> rfl

/-- Marking is not notifying. -/
@[simp] theorem hasNotified_marked (requested : Bool) :
    (marked requested).hasNotified = false := by
  cases requested <;> rfl

/-- Only the first call notifies. -/
theorem hasNotified_iff {c : Caller} : c.hasNotified = true ↔ c = returned true := by
  cases c with
  | returned notified => cases notified <;> simp [hasNotified]
  | _ => simp [hasNotified]

end Caller

/-- Where the **loop** is: between two turns, in a turn with its lookout, or left. -/
inductive Turn where
  | between
  | watching (k : Nat)
  | left
deriving DecidableEq, Repr

/-- Where the loop is after lookout `k` has looked: left, if it has seen the request. -/
def Turn.after (shutdown : Shutdown) (k : Nat) : Turn :=
  if shutdown.lookouts[k]? = some .finished then .left else .watching k

/-- The **summons**: the shutdown, the calls that request it, and the loop that looks out for it. -/
structure Summons where
  shutdown : Shutdown
  callers : List Caller
  turn : Turn
deriving DecidableEq, Repr

namespace Summons

/-- Nobody has called, and the loop is about to begin its first turn. -/
def start : Summons := ⟨.none, [], .between⟩

/-- The lookout of the turn. -/
def lookout? (s : Summons) : Option Lookout :=
  match s.turn with
  | .watching k => s.shutdown.lookouts[k]?
  | .between | .left => none

/-- The number of notifications that were **sent**. -/
def sent (s : Summons) : Nat := s.callers.countP Caller.hasNotified

/-- Whether the first call **has returned**. -/
def HasCalled (s : Summons) : Prop := Caller.returned true ∈ s.callers

/-- The summons after a call has come further. -/
def advance (s : Summons) (shutdown : Shutdown) (k : Nat) (c : Caller) : Summons :=
  { s with shutdown := shutdown, callers := s.callers.set k c }

/-! ## Steps -/

/-- A **step**: somebody calls, call `k` marks shutdown as requested or notifies, the loop begins a
turn, its lookout looks, or the turn ends because of something else. -/
inductive Action where
  | call
  | mark (k : Nat)
  | notify (k : Nat)
  | begin
  | look
  | give
deriving DecidableEq, Repr

/-- Whether a step is made by a call. -/
def Action.isCall : Action → Bool
  | call | mark _ | notify _ => true
  | begin | look | give => false

/-- Whether a step sends a notification. -/
def Action.isNotify : Action → Bool
  | notify _ => true
  | _ => false

/-- The **steps** that the parties can make. -/
inductive Step (s : Summons) : Action → Summons → Prop where
  /-- One more call. -/
  | call : Step s .call { s with callers := s.callers ++ [.calling] }
  /-- A call marks shutdown as requested, and learns whether it had been. -/
  | mark {k : Nat} (here : s.callers[k]? = some .calling) :
    Step s (.mark k) (s.advance s.shutdown.request k (.marked s.shutdown.requested))
  /-- The first call notifies. -/
  | notify {k : Nat} (here : s.callers[k]? = some .first) :
    Step s (.notify k) (s.advance s.shutdown.notify k (.returned true))
  /-- The loop begins a turn with a new lookout. -/
  | begin (turn : s.turn = .between) :
    Step s .begin { s with
      shutdown := s.shutdown.enter, turn := .watching s.shutdown.lookouts.length }
  /-- The lookout of the turn looks. -/
  | look {k : Nat} (turn : s.turn = .watching k) :
    Step s .look { s with shutdown := s.shutdown.look k, turn := .after (s.shutdown.look k) k }
  /-- The turn ends because of something else, and its lookout is given up. -/
  | give {k : Nat} (turn : s.turn = .watching k) :
    Step s .give { s with shutdown := s.shutdown.withdraw k, turn := .between }

/-- A **run**: any number of steps of all parties in any order. -/
abbrev Run : Summons → List Action → Summons → Prop := Trace Step

variable {s t : Summons} {a : Action}

/-- Once left, the loop is **left for good**. -/
theorem Step.left (step : Step s a t) (left : s.turn = .left) : t.turn = .left := by
  cases step with
  | begin turn => exact absurd (turn.symm.trans left) (by simp)
  | look turn => exact absurd (turn.symm.trans left) (by simp)
  | give turn => exact absurd (turn.symm.trans left) (by simp)
  | _ => exact left

/-- Calls do not move the loop. -/
theorem Step.turn_of_isCall (step : Step s a t) (calls : a.isCall = true) : t.turn = s.turn := by
  cases step with
  | begin => exact absurd calls (by simp [Action.isCall])
  | look => exact absurd calls (by simp [Action.isCall])
  | give => exact absurd calls (by simp [Action.isCall])
  | _ => rfl

end Summons

end StaticGzip.Server
