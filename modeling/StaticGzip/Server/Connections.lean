/-! # Counting connections

The number of connections being served, and those who wait until there are none. The number is a
machine word: released once too often it wraps around.

A wait is a loop. In each turn it registers to be woken, then looks at the number, and sleeps unless
the number is zero. It registers first, so that it is woken also by a release that comes between
the look and the sleep.

* **`Wait.step?`** — one step of a wait.
* **`Connections.acquire`, `Connections.subtract`, `Connections.wakeAll`** — one more, one less, and
  waking all who wait.
* **`Connections.release`, `Connections.wait`** — giving a connection back, which wakes all who wait
  if it was the last one, and one more who waits, each until nobody can make a step. -/

namespace StaticGzip.Server

/-! ## Waiting -/

/-- How far a **wait** has come: it begins a turn, it has registered and is about to look at the
number, it sleeps, or it is over. Once registered, it may have been woken. -/
inductive Wait where
  | turning
  | registered (woken : Bool)
  | sleeping (woken : Bool)
  | finished
deriving DecidableEq, Repr

namespace Wait

/-- The **next step** of a wait when there are `active` connections. Only who sleeps and has not
been woken cannot go on. -/
def step? (active : UInt64) : Wait → Option Wait
  | turning => some (registered false)
  | registered woken => some (if active = 0 then finished else sleeping woken)
  | sleeping true => some turning
  | sleeping false => none
  | finished => none

/-- **Waking** reaches everybody who has registered, asleep or not, and nobody who registers
later. -/
def wake : Wait → Wait
  | registered _ => registered true
  | sleeping _ => sleeping true
  | w => w

/-- A wait after as many steps as it can make, but not more than `n`. -/
def run (active : UInt64) : Nat → Wait → Wait
  | 0, w => w
  | n + 1, w =>
    match w.step? active with
    | some next => run active n next
    | none => w

end Wait

/-! ## Connections -/

/-- The **connections** being served: their number, and those who wait. -/
structure Connections where
  active : UInt64
  waiters : List Wait
deriving DecidableEq, Repr

namespace Connections

/-- No connection, and nobody waiting. -/
def none : Connections := ⟨0, []⟩

/-- For each wait whether it is over. -/
def waits (c : Connections) : List Bool := c.waiters.map (· == .finished)

/-- One more connection. -/
def acquire (c : Connections) : Connections := { c with active := c.active + 1 }

/-- One connection less. -/
def subtract (c : Connections) : Connections := { c with active := c.active - 1 }

/-- Waking all who wait. -/
def wakeAll (c : Connections) : Connections := { c with waiters := c.waiters.map .wake }

/-- One more who is about to wait. -/
def enter (c : Connections) : Connections := { c with waiters := c.waiters ++ [.turning] }

/-- The connections after all who wait have come as far as they can. From the moment it is woken, a
wait makes at most four steps until it is over or sleeps again. -/
def settle (c : Connections) : Connections :=
  { c with waiters := c.waiters.map (Wait.run c.active 4) }

/-- Giving a connection **back**. Only the step from one to zero wakes those who wait. -/
def release (c : Connections) : Connections :=
  if c.active = 1 then c.subtract.wakeAll.settle else c.subtract.settle

/-- One more who **waits** until there are no connections. -/
def wait (c : Connections) : Connections := c.enter.settle

@[simp] theorem active_acquire (c : Connections) : c.acquire.active = c.active + 1 := rfl

@[simp] theorem active_release (c : Connections) : c.release.active = c.active - 1 := by
  unfold release
  split <;> rfl

/-- A release takes back an acquisition. -/
@[simp] theorem active_release_acquire (c : Connections) :
    c.acquire.release.active = c.active := by simp

end Connections

end StaticGzip.Server
