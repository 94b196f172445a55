import StaticGzip.Proofs.Server.DrainWait
import StaticGzip.Proofs.Server.LastWords
import StaticGzip.Proofs.Server.ListenerClosed
import StaticGzip.Proofs.Server.SessionRuns

/-! # Graceful shutdown

When the loop has seen the request to shut down, it accepts no more connections and waits for those
that are being served. It stops as soon as its wait has seen that there are none. Only if the drain
takes as long as a connection may live, and there is such a bound, it warns and stops nevertheless.
So unless there is a warning, no connection is cut off.

* **`Service.Run.exists_drain`, `Service.Run.exists_look`, `Service.Run.exists_expire`** — what must
  have happened by now: the drain has begun, its wait has seen zero, or it was found overdue.
* **`Service.Run.active_eq_zero`, `Traffic.isReleased_of_active`, `Service.Run.exists_finish`** —
  after a drain that came to its end there are no connections, and each has ended and been given
  back.
* **`Service.Graceful`, `Service.Run.graceful`** — the shutdown, in every run. -/

namespace StaticGzip.Server

/-! ## Connections that have ended -/

section

variable {t t' : Traffic} {a : Action} {k : Nat} {v : Visit} {stage : Stage} {c : Connections}

/-- Whether the task of a connection has ended. -/
def Stage.hasEnded : Stage → Bool
  | ended _ | waking true | closed true => true
  | counted _ | excess | served | waking false | closed false => false

/-- Whether the task of a visit has ended. -/
def Traffic.hasEnded (t : Traffic) (k : Nat) : Bool := t.visits[k]?.any (·.stage.hasEnded)

/-- A visit that moves otherwise than by ending leaves those that have ended as they are. -/
theorem Traffic.hasEnded_of_move {j : Nat} (here : t.visits[k]? = some v)
    (same : stage.hasEnded = true → v.stage.hasEnded = true)
    (done : (t.move c k v stage).hasEnded j = true) : t.hasEnded j = true := by
  rw [hasEnded, getElem?_move here] at done
  split at done
  · rename_i equal
    rw [hasEnded, ← equal, here]
    exact same done
  · exact done

/-- **A task ends** only in a step of its own. -/
theorem Step.hasEnded_cases {j : Nat} (step : Step t a t') (done : t'.hasEnded j = true) :
    t.hasEnded j = true ∨ ∃ ending, a = .finish j ending := by
  cases step with
  | count =>
    rw [Traffic.hasEnded, Traffic.getElem?_arrive] at done
    split at done
    · exact absurd done (by simp [Stage.hasEnded])
    · exact .inl done
  | check here stage =>
    refine .inl (Traffic.hasEnded_of_move here (fun h => absurd h ?_) done)
    rw [Stage.checked]
    split <;> simp [Stage.hasEnded]
  | @finish k v here stage ending =>
    by_cases same : k = j
    · exact .inr ⟨ending, by rw [same]⟩
    · rw [Traffic.hasEnded, Traffic.getElem?_move here, if_neg same] at done
      exact .inl done
  | @release k v accepted here due =>
    refine .inl (Traffic.hasEnded_of_move here (fun h => ?_) done)
    cases stage : v.stage with
    | ended => rfl
    | excess =>
      obtain rfl := Option.some.inj ((stage ▸ due : Stage.excess.due? = some accepted))
      rw [Stage.released] at h
      split at h <;> exact absurd h (by simp [Stage.hasEnded])
    | _ => exact absurd due (by simp [stage, Stage.due?])
  | @wake k v accepted here stage =>
    refine .inl (Traffic.hasEnded_of_move here (fun h => ?_) done)
    rw [stage]
    cases accepted <;> exact h
  | enter => exact .inl done
  | wait => exact .inl done

/-- What is neither held nor pending **has been given back**. -/
theorem Traffic.isReleased_of_active (counted : t.IsCounted) (idle : t.connections.active = 0)
    (here : t.visits[k]? = some v) : v.stage.isReleased = true := by
  have none : t.held + t.pending = 0 := by
    rw [← counted.active, idle]
    rfl
  have member := List.mem_of_getElem? here
  have held := List.countP_eq_zero.mp (Nat.eq_zero_of_add_eq_zero_right none) v member
  have pending := List.countP_eq_zero.mp (Nat.eq_zero_of_add_eq_zero_left none) v member
  cases stage : v.stage with
  | waking => rfl
  | closed => rfl
  | counted => exact absurd (congrArg Stage.isPending stage) pending
  | excess => exact absurd (congrArg Stage.isPending stage) pending
  | served => exact absurd (congrArg Stage.isHeld stage) held
  | ended => exact absurd (congrArg Stage.isHeld stage) held

/-- What was accepted and has been given back **has ended**. -/
theorem Stage.hasEnded_of_isReleased (released : stage.isReleased = true)
    (accepted : stage.accepted? = some true) : stage.hasEnded = true := by
  cases stage with
  | waking accepted' =>
    obtain rfl := Option.some.inj accepted
    rfl
  | closed accepted' =>
    obtain rfl := Option.some.inj accepted
    rfl
  | _ => exact absurd released (by simp [isReleased])

end

namespace Service

variable {s t u : Service} {a : Action} {actions : List Action} {limits : PerformanceSettings}
  {k since : Nat}

/-! ## What must have happened -/

/-- The time at which the drain began is the time of the step by which it **began**. -/
theorem Step.since?_cases (step : Step s a t) (drains : t.duty.since? = some since) :
    s.duty.since? = some since ∨ (a = .drain ∧ s.clock = since) := by
  cases step with
  | drain => exact .inr ⟨rfl, Option.some.inj drains⟩
  | expire duty => exact .inl (by rw [duty]; exact drains)
  | warn duty => exact .inl (by rw [duty]; exact drains)
  | stopLate duty => exact .inl (by rw [duty]; exact drains)
  | _ => simp_all [say, Duty.since?]

/-- **A drain has begun** at the time that is remembered. -/
theorem Run.exists_drain (run : Run (start limits) actions s)
    (drains : s.duty.since? = some since) :
    ∃ early middle u, actions = early ++ .drain :: middle ∧ Run (start limits) early u ∧
      Run u (.drain :: middle) s ∧ u.clock = since := by
  obtain ⟨early, a, middle, u, v, rfl, first, before, step, after, rest⟩ :=
    run.exists_step (P := fun s => s.duty.since? = some since) (by simp [start, Duty.since?]) drains
  rcases step.since?_cases after with earlier | ⟨rfl, clock⟩
  · exact absurd earlier before
  · exact ⟨early, middle, u, rfl, first, .cons step rest, clock⟩

/-- The loop **sees** the counter at zero if it is zero when the wait of the drain, which has
registered, goes on. -/
def SeesZero (s : Service) (k : Nat) : Prop :=
  (∃ since, s.duty = .draining k since) ∧
    (∃ woken, s.traffic.connections.waiters[k]? = some (.registered woken)) ∧ s.active = 0

/-- The wait of the drain comes to its end only by **seeing zero**. -/
theorem Step.finished_cases (step : Step s a t)
    (finished : t.traffic.connections.waiters[k]? = some .finished) :
    s.traffic.connections.waiters[k]? = some .finished ∨ (a = .wait k ∧ s.SeesZero k) := by
  rcases step.traffic_cases with ⟨-, same⟩ | ⟨b, some, traffic⟩
  · exact .inl (same ▸ finished)
  · rcases traffic.finished_cases finished with before | ⟨rfl, zero, registered⟩
    · exact .inl before
    · obtain rfl : a = .wait k := by
        cases a with
        | wait j => exact congrArg Action.wait (Server.Action.wait.inj (Option.some.inj some))
        | _ => exact absurd some (by simp [Action.traffic?])
      cases step with
      | wait duty => exact .inr ⟨rfl, ⟨_, duty⟩, registered, zero⟩

/-- **The loop has stopped without a warning** because its wait has looked at the counter while it
was zero. -/
theorem Run.exists_look (run : Run (start limits) actions s) (stopped : s.duty = .stopped none) :
    ∃ early later k u, actions = early ++ .wait k :: later ∧ Run (start limits) early u ∧
      Run u (.wait k :: later) s ∧ u.SeesZero k := by
  -- It has stopped in a step of its own, after its wait had come to its end.
  obtain ⟨early, a, later, u, v, rfl, first, before, step, after, rest⟩ :=
    run.exists_step (P := fun s => s.duty = .stopped none) (by simp [start]) stopped
  obtain ⟨k, finished⟩ : ∃ k : Nat, u.traffic.connections.waiters[k]? = some Wait.finished := by
    cases step with
    | stop _ finished => exact ⟨_, finished⟩
    | _ => simp_all [say]
  -- Its wait has come to its end in a step of its own as well.
  obtain ⟨early', b, middle, w, x, rfl, first', before', step', after', rest'⟩ :=
    first.exists_step (P := fun s => s.traffic.connections.waiters[k]? = some Wait.finished)
      (by simp [start, Traffic.start, Connections.none]) finished
  rcases step'.finished_cases after' with earlier | ⟨rfl, sees⟩
  · exact absurd earlier before'
  · exact ⟨early', middle ++ a :: later, k, w, by simp, first',
      .cons step' (rest'.append (.cons step rest)), sees⟩

/-- **A drain is overdue** only if there is a bound, and only after so much time. -/
theorem Run.exists_expire (run : Run (start limits) actions s) (late : Action.expire ∈ actions) :
    limits.lifetime ≠ 0 ∧ ∃ early middle later u v,
      actions = early ++ .drain :: (middle ++ .expire :: later) ∧ Run (start limits) early u ∧
        Run u (.drain :: middle) v ∧ u.clock + limits.lifetime.toNat * 1000 ≤ v.clock := by
  obtain ⟨first, later, v, w, rfl, before, step, -⟩ := run.exists_of_mem late
  cases step with
  | @expire k since woken duty _ bounded due =>
    have same : v.lifetime = limits.lifetime := congrArg PerformanceSettings.lifetime
      (Run.traffic before).limits_eq
    rw [same] at bounded due
    have drains : v.duty.since? = some since := by
      rw [duty]
      rfl
    obtain ⟨early, middle, u, rfl, began, drained, clock⟩ := Run.exists_drain before drains
    rw [← clock] at due
    exact ⟨bounded, early, middle, later, u, v, by simp, began, drained, due⟩

/-- Only a step that finds the drain overdue makes it so. -/
theorem Step.isLate_eq (step : Step s a t) :
    t.duty.isLate.toNat = s.duty.isLate.toNat + (decide (a = .expire)).toNat := by
  cases step with
  | take duty | fail duty | report duty | count duty | accept duty | exceed duty | reject duty
  | leave duty | drain duty | expire duty | warn duty | stop duty | stopLate duty =>
    rw [duty]
    rfl
  | _ => rfl

/-- The drain **was overdue** exactly if it was found so. -/
theorem Run.isLate_iff (run : Run (start limits) actions s) :
    s.duty.isLate = true ↔ Action.expire ∈ actions := by
  have counted : s.duty.isLate.toNat = actions.countP (· = .expire) :=
    (run.countP_add (p := fun a => decide (a = .expire)) Step.isLate_eq).trans (Nat.zero_add _)
  have found : 0 < actions.countP (· = .expire) ↔ Action.expire ∈ actions := by
    simp [List.countP_pos_iff]
  rw [← found, ← counted]
  cases s.duty.isLate <;> simp

/-! ## After the drain -/

/-- **After a drain that came to its end** there are no connections. -/
theorem Run.active_eq_zero (run : Run (start limits) actions s) (stopped : s.duty = .stopped none) :
    s.active = 0 := by
  obtain ⟨early, later, k, u, -, before, rest, ⟨since, duty⟩, -, zero⟩ :=
    Run.exists_look run stopped
  have orderly := Run.isOrderly before (isOrderly_start limits)
  have left : u.summons.turn = .left := by
    have suits := orderly.suits
    rw [duty] at suits
    exact suits
  -- The counter was zero when the wait looked, and it has not gone up since.
  obtain ⟨-, -, -, less⟩ :=
    Run.closed rest orderly (Run.isCounted before (Traffic.isCounted_start limits)) left
  rw [zero] at less
  exact UInt64.le_zero_iff.mp less

/-- A task that has ended did so **in a step of its own**. -/
theorem Run.exists_finish (run : Run (start limits) actions s)
    (done : s.traffic.hasEnded k = true) : ∃ ending, Action.finish k ending ∈ actions := by
  obtain ⟨early, a, later, u, v, rfl, -, before, step, after, -⟩ :=
    run.exists_step (P := fun s => s.traffic.hasEnded k = true)
      (by simp [start, Traffic.start, Traffic.hasEnded]) done
  rcases step.traffic_cases with ⟨-, same⟩ | ⟨b, some, traffic⟩
  · exact absurd (same ▸ after) before
  · rcases traffic.hasEnded_cases after with earlier | ⟨ending, rfl⟩
    · exact absurd earlier before
    · have finishes : a = .finish k ending := by
        cases a <;> simp_all [Action.traffic?]
      exact ⟨ending, by simp [finishes]⟩

/-! ## Every shutdown -/

/-- Whether the loop **has warned** that connections are left. -/
def HasWarned (s : Service) : Prop :=
  ∃ active deadline, Session.drainedTooLong active deadline ∈ s.own

/-- How the service **shuts down**, after some steps. -/
structure Graceful (limits : PerformanceSettings) (actions : List Action) (s : Service) :
    Prop where
  /-- After the loop is left no connection is taken, counted or accepted any more, and the counter
  does not go up, whatever happens. -/
  closed : s.summons.turn = .left → ∀ more t, Run s more t →
    (∀ a ∈ more, a.isAccepting = false) ∧ t.accepted = s.accepted ∧ t.active ≤ s.active
  /-- The loop says that the server has stopped once, when it stops. -/
  once : s.own.count Session.stoppedEvent = s.duty.isStopped.toNat
  /-- It says so last, and it does and says nothing more, whatever happens. -/
  last : s.duty.isStopped = true → s.own.getLast? = some Session.stoppedEvent ∧
    ∀ more t, Run s more t → t.duty = s.duty ∧ t.own = s.own
  /-- It stops only after its wait has seen the counter at zero, unless the drain was overdue. -/
  idle : s.duty.isStopped = true → Action.expire ∉ actions →
    ∃ early later k u, actions = early ++ .wait k :: later ∧ Run (start limits) early u ∧
      u.SeesZero k
  /-- The drain is overdue only if a connection has to end at some time, and only when that time has
  passed since the drain began. -/
  late : Action.expire ∈ actions → limits.lifetime ≠ 0 ∧ ∃ early middle later u v,
    actions = early ++ .drain :: (middle ++ .expire :: later) ∧ Run (start limits) early u ∧
      Run u (.drain :: middle) v ∧ u.clock + limits.lifetime.toNat * 1000 ≤ v.clock
  /-- The loop warns only if the drain was overdue. -/
  warned : s.HasWarned → Action.expire ∈ actions
  /-- If it was, it has warned when it stops. -/
  warns : s.duty.isStopped = true → Action.expire ∈ actions → s.HasWarned
  /-- If it stops without a warning there are no connections: every one has been given back, and
  every one that was accepted has ended. -/
  complete : s.duty.isStopped = true → ¬ s.HasWarned → s.active = 0 ∧
    ∀ (k : Nat) (v : Visit), s.traffic.visits[k]? = some v → v.stage.isReleased = true ∧
      (v.stage.accepted? = some true → ∃ ending, Action.finish k ending ∈ actions)

/-- **Every shutdown is graceful**, in every run. -/
theorem Run.graceful (run : Run (start limits) actions s) : Graceful limits actions s := by
  have orderly := Run.isOrderly run (isOrderly_start limits)
  have counted := Run.isCounted run (Traffic.isCounted_start limits)
  have told := Run.told run
  have late := Run.isLate_iff run
  have ended (stopped : s.duty.isStopped = true) (onTime : s.duty.isLate = false) :
      s.duty = .stopped none := by
    cases duty : s.duty with
    | stopped late =>
      cases late with
      | none => rfl
      | some since => exact absurd onTime (by simp [duty, Duty.isLate])
    | _ => exact absurd stopped (by simp [duty, Duty.isStopped])
  have warns (stopped : s.duty.isStopped = true) (found : s.duty.isLate = true) :
      s.HasWarned := by
    refine told.hasWarned_iff.mpr ?_
    cases duty : s.duty with
    | stopped late =>
      cases late with
      | none => exact absurd found (by simp [duty, Duty.isLate])
      | some since => exact ⟨since, .inr rfl⟩
    | _ => exact absurd stopped (by simp [duty, Duty.isStopped])
  refine ⟨?_, told.count_stoppedEvent, ?_, ?_, Run.exists_expire run, ?_, ?_, ?_⟩
  · intro left more t later
    exact (Run.closed later orderly counted left).2
  · intro stopped
    exact ⟨told.getLast?_eq stopped, fun more t later => Run.of_isStopped later stopped⟩
  · intro stopped never
    have onTime := Bool.eq_false_iff.mpr (mt late.mp never)
    obtain ⟨early, later, k, u, split, before, -, sees⟩ :=
      Run.exists_look run (ended stopped onTime)
    exact ⟨early, later, k, u, split, before, sees⟩
  · intro warned
    refine late.mp ?_
    obtain ⟨since, duty | duty⟩ := told.hasWarned_iff.mp warned
    · rw [duty]
      rfl
    · rw [duty]
      rfl
  · intro stopped found
    exact warns stopped (late.mpr found)
  · intro stopped silent
    have onTime := Bool.eq_false_iff.mpr (mt (warns stopped) silent)
    have zero := Run.active_eq_zero run (ended stopped onTime)
    refine ⟨zero, fun k v here => ?_⟩
    have released := Traffic.isReleased_of_active counted zero here
    refine ⟨released, fun accepted => Run.exists_finish run ?_⟩
    rw [Traffic.hasEnded, here, Option.any_some]
    exact Stage.hasEnded_of_isReleased released accepted

/-- A guest who connects twice where there is room for one connection. -/
def guest : SocketAddress := .v4 #v[10, 0, 0, 1] 40000

/-- The life of a server that is asked to stop while it serves that guest, and stops when the
connection ends. -/
def farewell (limits : PerformanceSettings) : Session :=
  ((((Session.begin limits).accept guest).1.accept guest).1.trigger).finish guest .success

/-- The shutdown of that server is a run of the service, in which everything comes to its end. -/
theorem graceful_farewell :
    let limits : PerformanceSettings := ⟨75, 30, 30, some 1⟩
    ∃ actions s, Run (start limits) actions s ∧ Graceful limits actions s ∧
      s.Shows (farewell limits) ∧ (farewell limits).phase = .stopped ∧
      s.traffic.visits = [⟨16, .closed true⟩, ⟨32, .closed false⟩] := by
  intro limits
  obtain ⟨_, s₁, run₁, shows₁, visits₁, peers₁⟩ := exists_run_accept_of_room
    (shows_start limits) rfl (by decide : (16 : UInt64) ∉ []) (by decide) guest rfl
  have free : 32 ∉ s₁.traffic.places := by
    rw [Traffic.places, visits₁]
    decide
  obtain ⟨_, s₂, run₂, shows₂, visits₂, peers₂⟩ := exists_run_accept_of_reachedLimit
    shows₁ rfl free (by decide) guest rfl
  have run := run₁.append run₂
  obtain ⟨_, s₃, run₃, shows₃, visits₃, peers₃⟩ :=
    exists_run_trigger shows₂ (Summons.Run.isSound (Run.summons run))
  rw [visits₂, visits₁] at visits₃
  rw [peers₂, peers₁] at peers₃
  obtain ⟨_, s₄, run₄, shows₄, visits₄, -⟩ := exists_run_finish shows₃
    (by rw [visits₃]; rfl) rfl (by rw [peers₃]; rfl : s₃.peers[0]? = some guest) .success
  rw [visits₃] at visits₄
  have whole := (run.append run₃).append run₄
  have stopped : (farewell ⟨75, 30, 30, some 1⟩).phase = .stopped := by decide +kernel
  exact ⟨_, s₄, whole, Run.graceful whole, shows₄, stopped, visits₄⟩

end Service

end StaticGzip.Server
