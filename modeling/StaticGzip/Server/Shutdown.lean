/-! # Requesting shutdown

Shutdown is requested once; only the first request counts, and it sends one notification. Who looks
out for the request looks once and, if there is nothing to be had, stands in a queue. The
notification goes to whoever has stood there longest. With nobody in the queue it is kept as a
permit, and the next one who looks uses it up. Who gives up looking out after it was called passes
the notification on.

* **`Shutdown.request`, `Shutdown.notify`** — marking that shutdown is requested, and sending the
  notification.
* **`Shutdown.enter`, `Shutdown.look`, `Shutdown.withdraw`** — one more who looks out, one look, and
  giving up.
* **`Shutdown.trigger`, `Shutdown.wait`** — a whole request, and one more who waits for it, each
  until nobody can make a step. -/

namespace StaticGzip.Server

/-! ## Looking out -/

/-- How far a **lookout** has come: it has not looked yet, it stands in the queue, it was called by
the notification, it has seen that it was called, or it was given up. -/
inductive Lookout where
  | fresh
  | queued
  | called
  | finished
  | withdrawn
deriving DecidableEq, Repr

namespace Lookout

/-- Whether nothing happens to a lookout any more. -/
def isOver : Lookout → Bool
  | finished | withdrawn => true
  | fresh | queued | called => false

/-- A lookout that was called sees it as soon as it can. -/
def settle : Lookout → Lookout
  | called => finished
  | l => l

/-- The lookouts with the one called that has been in the queue longest. -/
def callOldest : List Lookout → List Lookout
  | [] => []
  | queued :: rest => called :: rest
  | other :: rest => other :: callOldest rest

end Lookout

/-! ## Shutdown -/

/-- The state of a **shutdown**: whether it was requested, whether there is a permit, and all
lookouts in the order in which they were made. -/
structure Shutdown where
  requested : Bool
  permit : Bool
  lookouts : List Lookout
deriving DecidableEq, Repr

namespace Shutdown

/-- Nothing requested, and nobody looking out. -/
def none : Shutdown := ⟨false, false, []⟩

/-- For each lookout whether it has seen the request. -/
def waits (s : Shutdown) : List Bool := s.lookouts.map (· == .finished)

/-- Shutdown is marked as requested. -/
def request (s : Shutdown) : Shutdown := { s with requested := true }

/-- The **notification** calls the lookout that has been in the queue longest. With an empty queue
it is kept; there is never more than one permit. -/
def notify (s : Shutdown) : Shutdown :=
  if s.lookouts.contains .queued then { s with lookouts := Lookout.callOldest s.lookouts }
  else { s with permit := true }

/-- One more lookout. -/
def enter (s : Shutdown) : Shutdown := { s with lookouts := s.lookouts ++ [.fresh] }

/-- The shutdown with a lookout as far as given. -/
def place (s : Shutdown) (k : Nat) (l : Lookout) : Shutdown :=
  { s with lookouts := s.lookouts.set k l }

/-- Lookout `k` **looks**: the first look uses the permit up if there is one, and else it ends in
the queue. -/
def look (s : Shutdown) (k : Nat) : Shutdown :=
  match s.lookouts[k]? with
  | some .fresh =>
    if s.permit then { s.place k .finished with permit := false } else s.place k .queued
  | some .called => s.place k .finished
  | _ => s

/-- Lookout `k` is **given up**, and passes the notification on if it was called. -/
def withdraw (s : Shutdown) (k : Nat) : Shutdown :=
  match s.lookouts[k]? with
  | some .called => (s.place k .withdrawn).notify
  | some .fresh | some .queued => s.place k .withdrawn
  | _ => s

/-- The shutdown after everybody who was called has seen it. -/
def settle (s : Shutdown) : Shutdown := { s with lookouts := s.lookouts.map .settle }

/-- A **request**. Only the first one notifies. -/
def trigger (s : Shutdown) : Shutdown :=
  if s.requested then s else s.request.notify.settle

/-- One more who **waits** for the request. -/
def wait (s : Shutdown) : Shutdown := s.enter.look s.lookouts.length

@[simp] theorem requested_request (s : Shutdown) : s.request.requested = true := rfl

@[simp] theorem requested_settle (s : Shutdown) : s.settle.requested = s.requested := rfl

@[simp] theorem requested_notify (s : Shutdown) : s.notify.requested = s.requested := by
  unfold notify
  split <;> rfl

@[simp] theorem requested_look (s : Shutdown) (k : Nat) :
    (s.look k).requested = s.requested := by
  unfold look
  split
  · split <;> rfl
  · rfl
  · rfl

@[simp] theorem requested_withdraw (s : Shutdown) (k : Nat) :
    (s.withdraw k).requested = s.requested := by
  unfold withdraw
  split
  · rw [requested_notify]
    rfl
  · rfl
  · rfl
  · rfl

/-- After a request it has been made. -/
@[simp] theorem requested_trigger (s : Shutdown) : s.trigger.requested = true := by
  unfold trigger
  split
  · assumption
  · simp

/-- A request that comes after another one changes nothing. -/
theorem trigger_of_requested {s : Shutdown} (h : s.requested = true) : s.trigger = s := by
  simp [trigger, h]

/-- Two requests count as one. -/
@[simp] theorem trigger_trigger (s : Shutdown) : s.trigger.trigger = s.trigger :=
  trigger_of_requested s.requested_trigger

end Shutdown

end StaticGzip.Server
