import StaticGzip.Proofs.Server.ConnectionCount

/-! # Nobody waits in vain, and nobody stops waiting too early

Who waits for the last connection registers, looks at the counter and sleeps. The counter may reach
zero at any moment, leave it and reach it again. But whoever takes it from one to zero wakes all who
have registered by then, so a sleeper that was not woken either sees connections or is about to be
woken.

* **`Traffic.IsAlert`** — no sleeper has missed the release of the last connection.
* **`Step.isAlert`, `Run.isAlert`** — every step and every run leave it so.
* **`Step.finished_cases`, `Run.exists_look`** — a wait is over only if it has itself seen zero.
* **`Traffic.exists_run_finished`** — with no connections, whoever need not be woken comes to an
  end by its own steps.
* **`Watch`, `Run.watch`** — those who wait, in every run. -/

namespace StaticGzip.Server

variable {limits : PerformanceSettings} {t t' : Traffic} {a : Action} {actions : List Action}
  {k : Nat} {v : Visit} {stage : Stage} {c : Connections}

namespace Traffic

/-- **Somebody is about to wake** those who wait: a release has taken the counter from one to zero,
and has not woken anybody yet. -/
def IsWaking (t : Traffic) : Prop :=
  ∃ (j : Nat) (v : Visit) (accepted : Bool), t.visits[j]? = some v ∧ v.stage = .waking accepted

/-- The traffic is **alert** if there are connections, or somebody is about to wake all others,
whenever somebody sleeps without having been woken. -/
def IsAlert (t : Traffic) : Prop :=
  ∀ k : Nat, t.connections.waiters[k]? = some (Wait.sleeping false) →
    t.connections.active ≠ 0 ∨ t.IsWaking

/-- Whoever is about to wake the others is still so after another visit has moved. -/
theorem IsWaking.move (waking : t.IsWaking) (here : t.visits[k]? = some v)
    (other : ∀ accepted, v.stage ≠ .waking accepted) (c : Connections) (stage : Stage) :
    (t.move c k v stage).IsWaking := by
  obtain ⟨j, u, accepted, there, wakes⟩ := waking
  refine ⟨j, u, accepted, ?_, wakes⟩
  rw [getElem?_move here, if_neg, there]
  rintro rfl
  obtain rfl := Option.some.inj (here.symm.trans there)
  exact other accepted wakes

end Traffic

/-! ## Sleepers -/

/-- Only who has seen connections falls asleep without having been woken. -/
theorem Wait.active_ne_zero_of_step? {active : UInt64} {w : Wait}
    (goes : w.step? active = some (sleeping false)) : active ≠ 0 := by
  rintro rfl
  cases w with
  | registered woken => exact absurd goes (by simp [step?])
  | sleeping woken => cases woken <;> exact absurd goes (by simp [step?])
  | _ => exact absurd goes (by simp [step?])

/-- Who has been woken does not sleep on. -/
theorem Wait.wake_ne_sleeping (w : Wait) : w.wake ≠ sleeping false := by
  cases w <;> simp [wake]

/-- Waking changes every wait. -/
theorem Connections.getElem?_wakeAll (c : Connections) (k : Nat) :
    c.wakeAll.waiters[k]? = c.waiters[k]?.map Wait.wake := List.getElem?_map

/-- Whoever is about to wait comes last. -/
theorem Connections.getElem?_enter {w : Wait} (h : c.enter.waiters[k]? = some w) :
    c.waiters[k]? = some w ∨ w = .turning := by
  rw [enter, List.getElem?_append] at h
  split at h
  · exact .inl h
  · exact .inr (List.mem_singleton.mp (List.mem_of_getElem? h))

/-- A wait that goes on leaves all others where they were. -/
theorem Traffic.getElem?_goOn {w next w' : Wait} {j : Nat}
    (here : t.connections.waiters[j]? = some w)
    (h : (t.goOn j next).connections.waiters[k]? = some w') :
    (j = k ∧ next = w') ∨ t.connections.waiters[k]? = some w' := by
  obtain ⟨inside, -⟩ := List.getElem?_eq_some_iff.mp here
  rw [goOn, List.getElem?_set, if_pos inside] at h
  by_cases same : j = k
  · rw [if_pos same] at h
    exact .inl ⟨same, Option.some.inj h⟩
  · rw [if_neg same] at h
    exact .inr h

/-- **Every step** leaves the traffic alert, if it is counted right. -/
theorem Step.isAlert (step : Step t a t') (counted : t.IsCounted) (alert : t.IsAlert) :
    t'.IsAlert := by
  intro k asleep
  cases step with
  | count free used =>
    -- The counter does not wrap around, so it is not zero after counting.
    have more := counted.toNat_acquire free used
    refine .inl fun zero => ?_
    rw [show t.connections.acquire.active = 0 from zero] at more
    exact absurd more (by simp)
  | check here stage =>
    refine (alert k asleep).imp_right fun waking => waking.move here ?_ _ _
    rw [stage]
    exact fun accepted => Stage.noConfusion
  | finish here stage =>
    refine (alert k asleep).imp_right fun waking => waking.move here ?_ _ _
    rw [stage]
    exact fun accepted => Stage.noConfusion
  | @release j v accepted here due =>
    -- Whoever takes the counter from one to zero is about to wake all others.
    by_cases last : t.connections.active = 1
    · have wakes : Stage.released t.connections.active accepted = .waking accepted := if_pos last
      rw [wakes]
      refine .inr ⟨j, ⟨v.place, .waking accepted⟩, accepted, ?_, rfl⟩
      rw [Traffic.getElem?_move here, if_pos rfl]
    · have less := counted.toNat_subtract here due
      refine .inl fun zero => last (UInt64.toNat_inj.mp ?_)
      rw [← less, show t.connections.subtract.active = 0 from zero]
      rfl
  | wake here stage =>
    -- Nobody is left who sleeps without having been woken.
    obtain ⟨w, -, woken⟩ :=
      Option.map_eq_some_iff.mp ((t.connections.getElem?_wakeAll k).symm.trans asleep)
    exact absurd woken w.wake_ne_sleeping
  | enter =>
    rcases Connections.getElem?_enter asleep with before | turning
    · exact alert k before
    · exact Wait.noConfusion turning
  | wait here goes =>
    rcases Traffic.getElem?_goOn here asleep with ⟨-, rfl⟩ | before
    -- Whoever falls asleep has just seen connections.
    · exact .inl (Wait.active_ne_zero_of_step? goes)
    · exact alert k before

/-- Nobody sleeps at the start. -/
theorem Traffic.isAlert_start (limits : PerformanceSettings) : (start limits).IsAlert := by
  intro k asleep
  exact absurd asleep (by simp [start, Connections.none])

/-- **Every run** leaves the traffic alert. -/
theorem Run.isAlert (run : Run (.start limits) actions t) : t.IsAlert := by
  refine (run.kept (P := fun t => t.IsCounted ∧ t.IsAlert) ?_ ?_).2
  · exact ⟨Traffic.isCounted_start limits, Traffic.isAlert_start limits⟩
  · rintro a t t' ⟨counted, alert⟩ step
    exact ⟨step.isCounted counted, step.isAlert counted alert⟩

/-! ## Looks -/

/-- A wait ends only by looking, and only if it sees zero. -/
theorem Wait.of_step?_finished {active : UInt64} {w : Wait}
    (goes : w.step? active = some finished) :
    active = 0 ∧ ∃ woken, w = registered woken := by
  cases w with
  | registered woken =>
    by_cases zero : active = 0
    · exact ⟨zero, woken, rfl⟩
    · exact absurd goes (by simp [step?, zero])
  | sleeping woken => cases woken <;> exact absurd goes (by simp [step?])
  | _ => exact absurd goes (by simp [step?])

/-- A wait is over only after it has **seen zero** in a step of its own. -/
theorem Step.finished_cases (step : Step t a t')
    (finished : t'.connections.waiters[k]? = some .finished) :
    t.connections.waiters[k]? = some .finished ∨
      a = .wait k ∧ t.connections.active = 0 ∧
        ∃ woken, t.connections.waiters[k]? = some (.registered woken) := by
  cases step with
  | wake here stage =>
    obtain ⟨w, before, woken⟩ :=
      Option.map_eq_some_iff.mp ((t.connections.getElem?_wakeAll k).symm.trans finished)
    cases w with
    | finished => exact .inl before
    | _ => exact Wait.noConfusion woken
  | enter =>
    rcases Connections.getElem?_enter finished with before | turning
    · exact .inl before
    · exact Wait.noConfusion turning
  | @wait j w next here goes =>
    rcases Traffic.getElem?_goOn here finished with ⟨rfl, rfl⟩ | before
    · obtain ⟨zero, woken, rfl⟩ := Wait.of_step?_finished goes
      exact .inr ⟨rfl, zero, woken, here⟩
    · exact .inl before
  | _ => exact .inl finished

/-- **Whoever has stopped waiting** has looked at the counter while it was zero. -/
theorem Run.exists_look {s : Traffic} (run : Run s actions t)
    (started : s.connections.waiters[k]? ≠ some .finished)
    (finished : t.connections.waiters[k]? = some .finished) :
    ∃ before after u woken, actions = before ++ .wait k :: after ∧ Run s before u ∧
      u.connections.waiters[k]? = some (.registered woken) ∧ u.connections.active = 0 := by
  induction run with
  | nil => exact absurd finished started
  | @snoc actions a t t' run step ih =>
    rcases step.finished_cases finished with earlier | ⟨rfl, zero, woken, registered⟩
    -- It has looked before, or it looks in this very step.
    · obtain ⟨before, after, u, woken, rfl, look⟩ := ih earlier
      exact ⟨before, after ++ [a], u, woken, by simp, look⟩
    · exact ⟨actions, [], t, woken, rfl, run, registered, zero⟩

/-! ## Coming to an end -/

/-- Whoever still waits and need not be woken can make a step. -/
theorem Wait.exists_step? {w : Wait} (active : UInt64) (waits : w ≠ finished)
    (awake : w ≠ sleeping false) : ∃ next, w.step? active = some next := by
  cases w with
  | turning => exact ⟨_, rfl⟩
  | registered woken => exact ⟨_, rfl⟩
  | sleeping woken =>
    cases woken with
    | false => exact absurd rfl awake
    | true => exact ⟨_, rfl⟩
  | finished => exact absurd rfl waits

namespace Traffic

/-- One step more leads as far. -/
theorem exists_run_finished_of_step? {w next : Wait} {n : Nat}
    (here : t.connections.waiters[k]? = some w)
    (goes : w.step? t.connections.active = some next)
    (rest : ∃ t', Run (t.goOn k next) (List.replicate n (.wait k)) t' ∧
      t'.connections.waiters[k]? = some .finished) :
    ∃ t', Run t (List.replicate (n + 1) (.wait k)) t' ∧
      t'.connections.waiters[k]? = some .finished := by
  obtain ⟨t', run, finished⟩ := rest
  exact ⟨t', .cons (.wait here goes) run, finished⟩

/-- With no connections, a wait that need not be woken comes to its **end** by at most three
steps. -/
theorem exists_run_finished {w : Wait} (here : t.connections.waiters[k]? = some w)
    (idle : t.connections.active = 0) (awake : w ≠ .sleeping false) :
    ∃ n ≤ 3, ∃ t', Run t (List.replicate n (.wait k)) t' ∧
      t'.connections.waiters[k]? = some .finished := by
  have look {t : Traffic} {woken : Bool}
      (here : t.connections.waiters[k]? = some (.registered woken))
      (idle : t.connections.active = 0) :
      ∃ t', Run t (List.replicate 1 (.wait k)) t' ∧ t'.connections.waiters[k]? = some .finished :=
    exists_run_finished_of_step? here (congrArg some (if_pos idle))
      ⟨_, .nil, getElem?_goOn_self here _⟩
  have turn {t : Traffic} (here : t.connections.waiters[k]? = some .turning)
      (idle : t.connections.active = 0) :
      ∃ t', Run t (List.replicate 2 (.wait k)) t' ∧ t'.connections.waiters[k]? = some .finished :=
    exists_run_finished_of_step? here rfl (look (getElem?_goOn_self here _) idle)
  cases w with
  | turning => exact ⟨2, by decide, turn here idle⟩
  | registered woken => exact ⟨1, by decide, look here idle⟩
  | sleeping woken =>
    cases woken with
    | false => exact absurd rfl awake
    | true =>
      exact ⟨3, by decide,
        exists_run_finished_of_step? here rfl (turn (getElem?_goOn_self here _) idle)⟩
  | finished => exact ⟨0, by decide, t, .nil, here⟩

end Traffic

/-! ## Everybody who waits -/

/-- The **watch** of those who wait, after some steps. -/
structure Watch (limits : PerformanceSettings) (actions : List Action) (t : Traffic) : Prop where
  /-- Whoever sleeps without having been woken has connections to wait for, or is about to be
  woken by whoever took the counter from one to zero. -/
  asleep : ∀ k : Nat, t.connections.waiters[k]? = some (Wait.sleeping false) →
    t.connections.active ≠ 0 ∨ t.IsWaking
  /-- With no connections and everybody woken, nobody is stuck: whoever still waits can make a step,
  and comes to an end by steps of its own. -/
  free : t.connections.active = 0 → ¬ t.IsWaking →
    ∀ (k : Nat) (w : Wait), t.connections.waiters[k]? = some w →
      (w ≠ .finished → ∃ t', Step t (.wait k) t') ∧
      ∃ n ≤ 3, ∃ t', Run t (List.replicate n (.wait k)) t' ∧
        t'.connections.waiters[k]? = some .finished
  /-- Whoever has stopped waiting has looked at the counter while it was zero, during its wait. -/
  seen : ∀ k : Nat, t.connections.waiters[k]? = some Wait.finished →
    ∃ before after u woken, actions = before ++ .wait k :: after ∧ Run (.start limits) before u ∧
      u.connections.waiters[k]? = some (.registered woken) ∧ u.connections.active = 0

/-- **Nobody waits in vain, and nobody stops waiting too early**, in every run. -/
theorem Run.watch (run : Run (.start limits) actions t) : Watch limits actions t where
  asleep := run.isAlert
  free idle quiet k w here := by
    have awake : w ≠ .sleeping false := by
      rintro rfl
      rcases run.isAlert k here with busy | waking
      · exact busy idle
      · exact quiet waking
    refine ⟨fun waits => ?_, Traffic.exists_run_finished here idle awake⟩
    obtain ⟨next, goes⟩ := Wait.exists_step? t.connections.active waits awake
    exact ⟨_, .wait here goes⟩
  seen k finished := run.exists_look (by simp [Traffic.start, Connections.none]) finished

/-- One wait that sleeps twice, because a second connection arrives between the release of the first
one and the waking, and another wait that begins after the second one was released. -/
def vigil : List Action :=
  [.enter, .wait 0, .count 16, .wait 0, .check 0, .finish 0 .success, .release 0, .count 32,
    .wake 0, .wait 0, .wait 0, .wait 0, .check 1, .finish 1 .timeout, .release 1, .enter, .wait 1,
    .wait 1, .wake 1, .wait 0]

/-- The watch of that vigil, after which the first wait is about to look again. -/
theorem watch_vigil :
    let limits : PerformanceSettings := ⟨75, 30, 30, none⟩
    ∃ t, Run (.start limits) vigil t ∧ Watch limits vigil t ∧
      t.connections = ⟨0, [.turning, .finished]⟩ := by
  intro limits
  have run : Run (.start limits) vigil
      ⟨limits, ⟨0, [.turning, .finished]⟩, [⟨16, .closed true⟩, ⟨32, .closed true⟩]⟩ :=
    run_iff.mpr (by decide +kernel)
  exact ⟨_, run, run.watch, rfl⟩

end StaticGzip.Server
