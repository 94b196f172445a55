import StaticGzip.Proofs.Server.Traffic

/-! # What the server does at once is a run

The server makes all steps of an operation without interruption: it accepts a connection, or gives
one back, and then all who wait go on as far as they can. Each operation is a run of small steps, so
what holds after every run holds after every operation.

* **`Traffic.exists_run_settle`** — all who wait go on.
* **`Traffic.exists_run_giveBack`, `Traffic.exists_run_release`** — a connection is given back.
* **`Session.exists_run_accept`, `Session.exists_run_finish`** — a connection begins and ends. -/

namespace StaticGzip.Server

variable {t : Traffic} {k : Nat} {v : Visit} {s : Session} {peer : SocketAddress}

/-- The connections after one was given back, before those who wait go on. -/
def Connections.giveBack (c : Connections) : Connections :=
  if c.active = 1 then c.subtract.wakeAll else c.subtract

/-- To release a connection is to give it back and let those who wait go on. -/
theorem Connections.release_eq (c : Connections) : c.release = c.giveBack.settle := by
  unfold release giveBack
  split <;> rfl

/-- There is one connection less, whether or not anybody is woken. -/
@[simp] theorem Connections.active_giveBack (c : Connections) :
    c.giveBack.active = c.active - 1 := by
  unfold giveBack
  split <;> rfl

/-- Giving a connection back wakes those who wait if it was the last one. -/
theorem Connections.getElem?_giveBack (c : Connections) (k : Nat) :
    c.giveBack.waiters[k]? = c.waiters[k]?.map fun w => if c.active = 1 then w.wake else w := by
  unfold giveBack
  split
  · exact List.getElem?_map
  · rw [Option.map_id']
    rfl

namespace Traffic

/-! ## Waiting -/

/-- The traffic with other connections. -/
def recount (t : Traffic) (c : Connections) : Traffic := { t with connections := c }

/-- A wait that goes on stays the same wait. -/
theorem goOn_self {w : Wait} (here : t.connections.waiters[k]? = some w) : t.goOn k w = t := by
  obtain ⟨inside, rfl⟩ := List.getElem?_eq_some_iff.mp here
  rw [goOn, List.set_getElem_self]

/-- **One wait** goes on as far as it can, by steps of its own. -/
theorem exists_run_goOn {w : Wait} (n : Nat) (here : t.connections.waiters[k]? = some w) :
    ∃ actions, (∀ a ∈ actions, a = .wait k) ∧
      Run t actions (t.goOn k (w.run t.connections.active n)) := by
  induction n generalizing t w with
  | zero =>
    rw [Wait.run, goOn_self here]
    exact ⟨[], by simp, .nil⟩
  | succ n ih =>
    rw [Wait.run]
    split
    · rename_i next goes
      obtain ⟨actions, own, run⟩ := ih (getElem?_goOn_self here next)
      have twice (last : Wait) : (t.goOn k next).goOn k last = t.goOn k last := by
        simp [goOn]
      rw [twice] at run
      exact ⟨.wait k :: actions, by simpa using own, .cons (.wait here goes) run⟩
    · rw [goOn_self here]
      exact ⟨[], by simp, .nil⟩

/-- **All who wait** go on as far as they can. -/
theorem exists_run_settle (t : Traffic) :
    ∃ actions, Run t actions (t.recount t.connections.settle) := by
  -- One wait after the other; those before it have gone on already.
  have rest (later : List Wait) : ∀ (t : Traffic) (earlier : List Wait),
      t.connections.waiters = earlier ++ later → ∃ actions, Run t actions
        (t.recount ⟨t.connections.active,
          earlier ++ later.map (Wait.run t.connections.active 4)⟩) := by
    induction later with
    | nil =>
      intro t earlier split
      refine ⟨[], ?_⟩
      rw [List.map_nil, ← split]
      exact .nil
    | cons w later ih =>
      intro t earlier split
      have here : t.connections.waiters[earlier.length]? = some w := by simp [split]
      obtain ⟨first, -, run⟩ := exists_run_goOn 4 here
      obtain ⟨more, next⟩ := ih (t.goOn earlier.length (w.run t.connections.active 4))
        (earlier ++ [w.run t.connections.active 4]) (by simp [goOn, split])
      refine ⟨first ++ more, run.append ?_⟩
      simpa [goOn, recount] using next
  exact rest t.connections.waiters t [] rfl

/-- **Somebody waits**, as far as it can. -/
theorem exists_run_wait (t : Traffic) :
    ∃ actions, Run t actions (t.recount t.connections.wait) := by
  obtain ⟨actions, run⟩ := exists_run_settle (t.recount t.connections.enter)
  exact ⟨.enter :: actions, .cons .enter run⟩

/-! ## Releasing -/

/-- A visit that moves twice has moved once. -/
theorem move_move (c c' : Connections) (stage stage' : Stage) :
    (t.move c k v stage).move c' k ⟨v.place, stage⟩ stage' = t.move c' k v stage' := by
  simp [move]

/-- **A connection is given back**, and those who wait are woken if it was the last one. -/
theorem exists_run_giveBack {accepted : Bool} (here : t.visits[k]? = some v)
    (due : v.stage.due? = some accepted) :
    ∃ actions, (∀ a ∈ actions, a = .release k ∨ a = .wake k) ∧
      Run t actions (t.move t.connections.giveBack k v (.closed accepted)) := by
  have first := Step.release here due
  unfold Connections.giveBack
  -- Only who gives back the last connection has to wake the others.
  by_cases last : t.connections.active = 1
  · rw [Stage.released, if_pos last] at first
    rw [if_pos last]
    have there : (t.move t.connections.subtract k v (.waking accepted)).visits[k]?
        = some ⟨v.place, .waking accepted⟩ := by
      rw [getElem?_move here, if_pos rfl]
    have second := Step.wake there rfl
    rw [move_move] at second
    exact ⟨[.release k, .wake k], by simp, .cons first (.cons second .nil)⟩
  · rw [Stage.released, if_neg last] at first
    rw [if_neg last]
    exact ⟨[.release k], by simp, .cons first .nil⟩

/-- **A connection is given back**, and all who wait go on. -/
theorem exists_run_release {accepted : Bool} (here : t.visits[k]? = some v)
    (due : v.stage.due? = some accepted) :
    ∃ actions, Run t actions (t.move t.connections.release k v (.closed accepted)) := by
  obtain ⟨first, -, run⟩ := exists_run_giveBack here due
  obtain ⟨more, rest⟩ :=
    exists_run_settle (t.move t.connections.giveBack k v (.closed accepted))
  rw [Connections.release_eq]
  exact ⟨first ++ more, run.append rest⟩

end Traffic

/-! ## Sessions -/

namespace Session

/-- Stopping does not touch the connections. -/
theorem connections_settle (s : Session) : s.settle.connections = s.connections := by
  unfold settle
  split
  · split
    · rfl
    · split <;> rfl
  · rfl

/-- Below the limit a connection is counted and served. -/
theorem accept_of_room (accepting : s.phase = .accepting)
    (room : s.limits.reachedLimit? s.connections.active = none) :
    s.accept peer
      = (log { s with connections := s.connections.acquire } [Logger.accepted peer], true) := by
  simp [accept, accepting, room]

/-- At the limit a connection is counted and taken back. -/
theorem accept_of_reachedLimit {limit : UInt64} (accepting : s.phase = .accepting)
    (full : s.limits.reachedLimit? s.connections.active = some limit) :
    s.accept peer = (log { s with connections := s.connections.acquire.release }
      [rejected s.connections.active limit peer], false) := by
  simp [accept, accepting, full]

/-- **A connection begins** by a run of the call that accepts it: it is served, or it has been taken
back. -/
theorem exists_run_accept {place : UInt64} (accepting : s.phase = .accepting)
    (limits : s.limits = t.limits) (connections : s.connections = t.connections)
    (free : place ∉ t.places) (used : place ≠ 0) (peer : SocketAddress) :
    ∃ actions t', Run t actions t' ∧ t'.connections = (s.accept peer).1.connections ∧
      t'.visits = t.visits
        ++ [⟨place, if (s.accept peer).2 then .served else .closed false⟩] := by
  have counts : Step t (.count place) (t.arrive place) := .count free used
  have here : (t.arrive place).visits[t.visits.length]?
      = some ⟨place, .counted t.connections.active⟩ := by
    rw [Traffic.getElem?_arrive, if_pos rfl]
  -- The call is not interrupted, so it compares what it has counted itself.
  have checks := Step.check here rfl
  have last (c : Connections) (stage stage' : Stage) :
      ((t.arrive place).move c t.visits.length ⟨place, stage⟩ stage').visits
        = t.visits ++ [⟨place, stage'⟩] := by
    simp [Traffic.move, Traffic.arrive]
  cases room : s.limits.reachedLimit? s.connections.active with
  | none =>
    have served : Stage.checked (t.arrive place).limits t.connections.active = .served := by
      rw [Stage.checked, show (t.arrive place).limits = s.limits from limits.symm, ← connections,
        room]
      rfl
    rw [served] at checks
    rw [accept_of_room accepting room, connections]
    exact ⟨_, _, .cons counts (.cons checks .nil), rfl, last _ _ _⟩
  | some limit =>
    have excess : Stage.checked (t.arrive place).limits t.connections.active = .excess := by
      rw [Stage.checked, show (t.arrive place).limits = s.limits from limits.symm, ← connections,
        room]
      rfl
    rw [excess] at checks
    have there : ((t.arrive place).move (t.arrive place).connections t.visits.length
        ⟨place, .counted t.connections.active⟩ .excess).visits[t.visits.length]?
          = some ⟨place, .excess⟩ := by
      rw [Traffic.getElem?_move here, if_pos rfl]
    obtain ⟨actions, run⟩ := Traffic.exists_run_release there rfl
    rw [Traffic.move_move] at run
    rw [accept_of_reachedLimit accepting room, connections]
    exact ⟨_, _, .cons counts (.cons checks run), rfl, last _ _ _⟩

/-- **A connection ends** by a run of its task. -/
theorem exists_run_finish (connections : s.connections = t.connections)
    (here : t.visits[k]? = some v) (stage : v.stage = .served) (peer : SocketAddress)
    (ending : Ending) :
    ∃ actions, Run t actions (t.move (s.finish peer ending).connections k v (.closed true)) := by
  have ends := Step.finish here stage ending
  have there : (t.move t.connections k v (.ended ending)).visits[k]?
      = some ⟨v.place, .ended ending⟩ := by
    rw [Traffic.getElem?_move here, if_pos rfl]
  obtain ⟨actions, run⟩ := Traffic.exists_run_release there rfl
  rw [Traffic.move_move] at run
  have released : (s.finish peer ending).connections = t.connections.release := by
    rw [← connections]
    exact connections_settle _
  rw [released]
  exact ⟨.finish k ending :: actions, .cons ends run⟩

end Session

end StaticGzip.Server
