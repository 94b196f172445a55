import StaticGzip.Proofs.Server.ConnectionCount

/-! # No more connections than the limit allows

A call that has counted its connection and found room for it will hand it over later, whatever
happens in between. Such connections are promised a place. Together with those that are held they
never exceed the limit, although the counter itself may.

* **`Traffic.IsLimited`, `Run.isLimited`** — the limit in every run.
* **`Run.count_release`** — no connection is released twice, and who is closed was released once.
* **`Run.follows`** — what a call learns when it counts decides whether it accepts.
* **`Accounts`, `Run.accounts`** — the account of the connections in every run. -/

namespace StaticGzip.Server

variable {limits : PerformanceSettings} {t t' : Traffic} {a : Action} {actions : List Action}
  {k : Nat} {v : Visit} {stage : Stage} {c : Connections}

/-! ## The limit -/

/-- Whether a connection has been counted and will be accepted. -/
def Stage.isPromised (limits : PerformanceSettings) : Stage → Bool
  | counted before => (limits.reachedLimit? before).isNone
  | excess | served | ended _ | waking _ | closed _ => false

/-- There is room for a connection below the limit, and only there. -/
theorem reachedLimit?_eq_none_iff {limit before : UInt64}
    (bounded : limits.maxConnections = some limit) :
    limits.reachedLimit? before = none ↔ before.toNat < limit.toNat := by
  rw [PerformanceSettings.reachedLimit?, bounded, Option.filter_some, ← UInt64.lt_iff_toNat_lt,
    ← UInt64.not_le]
  split <;> simp_all

namespace Traffic

/-- The number of connections that are promised a place. -/
def promised (t : Traffic) : Nat := t.number (Stage.isPromised t.limits)

/-- The traffic **keeps to its limit** if no more connections are held or promised. -/
def IsLimited (t : Traffic) : Prop :=
  ∀ limit, t.limits.maxConnections = some limit → t.held + t.promised ≤ limit.toNat

/-- **One visit moves**, and the traffic keeps to its limit if the visit takes up no more. -/
theorem IsLimited.move (limited : t.IsLimited) (here : t.visits[k]? = some v)
    (balance : stage.isHeld.toNat + (stage.isPromised t.limits).toNat
      ≤ v.stage.isHeld.toNat + (v.stage.isPromised t.limits).toNat) :
    (t.move c k v stage).IsLimited := by
  intro limit bounded
  have before := limited limit bounded
  have held : (t.move c k v stage).held + v.stage.isHeld.toNat = t.held + stage.isHeld.toNat :=
    number_move here Stage.isHeld c stage
  have promised : (t.move c k v stage).promised + (v.stage.isPromised t.limits).toNat
      = t.promised + (stage.isPromised t.limits).toNat := number_move here _ c stage
  omega

/-- One visit **arrives**, and the traffic keeps to its limit: if there is room for one more beside
all that is counted, there is room beside all that is held or promised. -/
theorem IsLimited.arrive (limited : t.IsLimited) (counted : t.IsCounted) (place : UInt64) :
    (t.arrive place).IsLimited := by
  intro limit bounded
  have before := limited limit bounded
  have held : (t.arrive place).held = t.held + 0 := number_arrive t place _
  have promised : (t.arrive place).promised
      = t.promised + (Stage.isPromised t.limits (.counted t.connections.active)).toNat :=
    number_arrive t place _
  have atMost : t.promised ≤ t.pending := by
    refine t.number_le_number fun stage h => ?_
    cases stage with
    | counted before => rfl
    | _ => exact absurd h (by simp [Stage.isPromised])
  have active := counted.active
  rw [held, promised, Stage.isPromised]
  cases room : t.limits.reachedLimit? t.connections.active with
  | none =>
    -- The counter is below the limit, and it tells at least what is held or promised.
    have below := (reachedLimit?_eq_none_iff bounded).mp room
    rw [Option.isNone_none, Bool.toNat_true]
    omega
  | some reached =>
    rw [Option.isNone_some, Bool.toNat_false]
    omega

end Traffic

/-- **Every step** keeps to the limit, if the traffic is counted right. -/
theorem Step.isLimited (step : Step t a t') (counted : t.IsCounted) (limited : t.IsLimited) :
    t'.IsLimited := by
  cases step with
  | @count place => exact limited.arrive counted place
  | @check k v before here stage =>
    refine limited.move here ?_
    rw [stage, Stage.checked]
    -- Whether it is accepted has been promised when it was counted.
    cases room : t.limits.reachedLimit? before <;> simp [Stage.isHeld, Stage.isPromised, room]
  | finish here stage =>
    refine limited.move here ?_
    rw [stage]
    exact Nat.le_refl 1
  | @release k v accepted here =>
    refine limited.move here ?_
    rw [Stage.released]
    split <;> exact Nat.zero_le _
  | wake here stage => exact limited.move here (Nat.zero_le _)
  | enter => exact limited
  | wait => exact limited

/-- **Every run** keeps to the limit. -/
theorem Run.isLimited (run : Run (.start limits) actions t) : t.IsLimited := by
  refine (run.kept (P := fun t => t.IsCounted ∧ t.IsLimited) ?_ ?_).2
  · exact ⟨Traffic.isCounted_start limits, fun limit _ => Nat.zero_le _⟩
  · rintro a t t' ⟨counted, limited⟩ step
    exact ⟨step.isCounted counted, step.isLimited counted limited⟩

/-! ## Releases -/

namespace Traffic

/-- Whether a visit has been released. -/
def isReleased (t : Traffic) (k : Nat) : Bool := t.visits[k]?.any (·.stage.isReleased)

/-- Only the visit that moves can be released by moving. -/
theorem isReleased_move (here : t.visits[k]? = some v) (c : Connections) (stage : Stage)
    (j : Nat) :
    (t.move c k v stage).isReleased j = if k = j then stage.isReleased else t.isReleased j := by
  rw [isReleased, getElem?_move here]
  by_cases same : k = j
  · rw [if_pos same, if_pos same, Option.any_some]
  · rw [if_neg same, if_neg same, isReleased]

/-- A visit that moves without being released changes nothing. -/
theorem isReleased_move_of_eq (here : t.visits[k]? = some v)
    (same : stage.isReleased = v.stage.isReleased) (c : Connections) (j : Nat) :
    (t.move c k v stage).isReleased j = t.isReleased j := by
  rw [isReleased_move here, same]
  split
  · rename_i equal
    rw [isReleased, ← equal, here, Option.any_some]
  · rfl

/-- A visit that arrives has not been released. -/
theorem isReleased_arrive (t : Traffic) (place : UInt64) (j : Nat) :
    (t.arrive place).isReleased j = t.isReleased j := by
  rw [isReleased, getElem?_arrive]
  split
  · rename_i last
    rw [isReleased, List.getElem?_eq_none (Nat.le_of_eq last)]
    rfl
  · rfl

end Traffic

/-- A step releases a visit exactly if it is the release of that visit, which was not released
before. -/
theorem Step.isReleased_eq (step : Step t a t') (j : Nat) :
    (t'.isReleased j).toNat = (t.isReleased j).toNat + if a = .release j then 1 else 0 := by
  cases step with
  | count => rw [Traffic.isReleased_arrive]; rfl
  | check here stage =>
    rw [Traffic.isReleased_move_of_eq here (by rw [stage, Stage.checked]; split <;> rfl)]
    rfl
  | finish here stage =>
    rw [Traffic.isReleased_move_of_eq here (by rw [stage]; rfl)]
    rfl
  | @release k v accepted here due =>
    -- What is due has not been released, and it is released now.
    have before : t.isReleased k = false := by
      rw [Traffic.isReleased, here, Option.any_some]
      cases h : v.stage <;> simp_all [Stage.due?, Stage.isReleased]
    have after : (Stage.released t.connections.active accepted).isReleased = true := by
      rw [Stage.released]
      split <;> rfl
    rw [Traffic.isReleased_move here, after]
    by_cases same : k = j
    · subst same
      simp [before]
    · simp [same]
  | wake here stage =>
    rw [Traffic.isReleased_move_of_eq here (by rw [stage]; rfl)]
    rfl
  | enter => rfl
  | wait => rfl

/-- **Releases are never repeated.** In every run a visit is released once if it is marked as
released, and else not at all. -/
theorem Run.count_release (run : Run (.start limits) actions t) (k : Nat) :
    actions.count (.release k) = (t.isReleased k).toNat := by
  induction run with
  | nil => rfl
  | @snoc actions a t t' run step ih =>
    rw [List.count_append, ih, step.isReleased_eq, List.count_singleton]
    simp only [beq_iff_eq]

/-- Whether a step counts a connection. -/
def Action.isCount : Action → Bool
  | count _ => true
  | _ => false

/-- **Every visit is counted once.** -/
theorem Run.countP_isCount (run : Run (.start limits) actions t) :
    actions.countP Action.isCount = t.visits.length := by
  induction run with
  | nil => rfl
  | snoc run step ih =>
    rw [List.countP_append, ih, List.countP_singleton]
    cases step <;> simp [Action.isCount, Traffic.arrive, Traffic.move, Traffic.goOn]

/-! ## Decisions -/

/-- When a connection is to be released, it is decided whether it was accepted. -/
theorem Stage.accepted?_of_due? {accepted : Bool} (due : stage.due? = some accepted) :
    stage.accepted? = some accepted := by
  cases stage with
  | excess => exact due
  | ended ending => exact due
  | _ => exact absurd due (by simp [due?])

/-- A stage that **follows** from the number that was there before: nothing is decided, or the
connection was accepted exactly if there was room. -/
def Stage.Follows (limits : PerformanceSettings) (before : UInt64) (stage : Stage) : Prop :=
  stage = .counted before ∨ stage.accepted? = some (limits.reachedLimit? before).isNone

/-- What has been decided is not decided anew. -/
theorem Stage.Follows.of_decided {before : UInt64} {next : Stage} {accepted : Bool}
    (follows : stage.Follows limits before) (decided : stage.accepted? = some accepted)
    (kept : next.accepted? = some accepted) : next.Follows limits before := by
  rcases follows with rfl | follows
  · exact absurd decided (by simp [accepted?])
  · exact .inr (by rw [kept, ← decided, follows])

/-- The comparison decides by the number that was there before. -/
theorem Stage.Follows.checked {before number : UInt64}
    (follows : Stage.Follows limits before (.counted number)) :
    Stage.Follows limits before (.checked limits number) := by
  rcases follows with same | decided
  · obtain rfl := Stage.counted.inj same
    refine .inr ?_
    unfold Stage.checked
    cases limits.reachedLimit? number <;> rfl
  · exact absurd decided (by simp [accepted?])

/-- A step of any visit leaves every visit in a stage that follows, if it does so itself. -/
theorem Traffic.follows_move {u : Visit} {j : Nat} {before : UInt64}
    (moves : t.visits[j]? = some u) (here : t.visits[k]? = some v)
    (follows : v.stage.Follows limits before)
    (next : u.stage.Follows limits before → stage.Follows limits before) (c : Connections) :
    ∃ v', (t.move c j u stage).visits[k]? = some v' ∧ v'.stage.Follows limits before := by
  rw [getElem?_move moves]
  by_cases same : j = k
  · subst same
    obtain rfl := Option.some.inj (moves.symm.trans here)
    exact ⟨_, if_pos rfl, next follows⟩
  · exact ⟨v, by rw [if_neg same, here], follows⟩

/-- Every step of a visit follows from the same number. -/
theorem Step.follows {before : UInt64} (step : Step t a t') (here : t.visits[k]? = some v)
    (follows : v.stage.Follows t.limits before) :
    ∃ v', t'.visits[k]? = some v' ∧ v'.stage.Follows t'.limits before := by
  rw [step.limits_eq]
  cases step with
  | count =>
    have inside := (List.getElem?_eq_some_iff.mp here).1
    exact ⟨v, by rw [Traffic.getElem?_arrive, if_neg (Nat.ne_of_gt inside), here], follows⟩
  | check moves stage =>
    refine Traffic.follows_move moves here follows (fun follows => ?_) _
    rw [stage] at follows
    exact follows.checked
  | finish moves stage =>
    refine Traffic.follows_move moves here follows (fun follows => ?_) _
    rw [stage] at follows
    exact follows.of_decided rfl rfl
  | release moves due =>
    refine Traffic.follows_move moves here follows (fun follows => ?_) _
    refine follows.of_decided (Stage.accepted?_of_due? due) ?_
    rw [Stage.released]
    split <;> rfl
  | wake moves stage =>
    refine Traffic.follows_move moves here follows (fun follows => ?_) _
    rw [stage] at follows
    exact follows.of_decided rfl rfl
  | enter => exact ⟨v, here, follows⟩
  | wait => exact ⟨v, here, follows⟩

/-- **What a call learns when it counts** decides whether it accepts, whatever else happens. -/
theorem Run.follows {place : UInt64} (run : Run (t.arrive place) actions t') :
    ∃ v, t'.visits[t.visits.length]? = some v ∧
      v.stage.Follows t'.limits t.connections.active := by
  induction run with
  | nil => exact ⟨⟨place, .counted t.connections.active⟩, by simp [Traffic.arrive], .inl rfl⟩
  | snoc run step ih =>
    obtain ⟨v, here, follows⟩ := ih
    exact step.follows here follows

/-! ## The account of the connections -/

/-- The **account** of the connections after some steps. -/
structure Accounts (limits : PerformanceSettings) (actions : List Action) (t : Traffic) :
    Prop where
  /-- The counter tells how many connections are accepted and not yet released, and how many calls
  have counted a connection that they have neither handed over nor taken back. -/
  active : t.connections.active.toNat = t.held + t.pending
  /-- Counting one more never wraps the counter around. -/
  count : ∀ place t', Step t (.count place) t' →
    t'.connections.active.toNat = t.connections.active.toNat + 1
  /-- Nothing is released at zero, so releasing never wraps the counter around. -/
  release : ∀ k t', Step t (.release k) t' →
    t'.connections.active.toNat + 1 = t.connections.active.toNat
  /-- No more connections are accepted and not yet released than the limit allows. -/
  limit : ∀ m, limits.maxConnections = some m → t.held ≤ m.toNat
  /-- Every connection was counted once. -/
  counted : actions.countP Action.isCount = t.visits.length
  /-- Every connection, accepted or not, was released at most once, and once if it has come to its
  end. -/
  released : ∀ k v, t.visits[k]? = some v →
    actions.count (.release k) = if v.stage.isReleased then 1 else 0
  /-- However a task has ended, and also when a call has found its connection to be one too many,
  the connection can be released. -/
  due : ∀ k v accepted, t.visits[k]? = some v → v.stage.due? = some accepted →
    ∃ t', Step t (.release k) t'
  /-- A connection that is counted while no other call is accepting one will be rejected exactly if
  the limit was reached by the connections that were accepted and not yet released. -/
  sequential : (∀ v ∈ t.visits, v.stage.isAccepting = false) →
    ∀ place t' more u v accepted, Step t (.count place) t' → Run t' more u →
      u.visits[t.visits.length]? = some v → v.stage.accepted? = some accepted →
      ∀ m, limits.maxConnections = some m → (accepted = false ↔ t.held = m.toNat)

/-- Calls that are pending are accepting. -/
theorem Traffic.pending_eq_zero (quiet : ∀ v ∈ t.visits, v.stage.isAccepting = false) :
    t.pending = 0 := by
  refine List.countP_eq_zero.mpr fun v hv pending => ?_
  have := quiet v hv
  cases h : v.stage <;> simp_all [Stage.isAccepting, Stage.isPending]

/-- A call that counts while no other call is accepting **rejects** its connection exactly if the
limit is reached. -/
theorem Run.rejected_iff {place m : UInt64} {more : List Action} {u : Traffic} {accepted : Bool}
    (run : Run (.start limits) actions t) (quiet : ∀ v ∈ t.visits, v.stage.isAccepting = false)
    (later : Run (t.arrive place) more u) (here : u.visits[t.visits.length]? = some v)
    (decided : v.stage.accepted? = some accepted) (bounded : limits.maxConnections = some m) :
    accepted = false ↔ t.held = m.toNat := by
  obtain ⟨v', here', follows⟩ := later.follows
  obtain rfl := Option.some.inj (here'.symm.trans here)
  have same : u.limits = limits := later.limits_eq.trans run.limits_eq
  -- No call is pending, so the counter tells what is held.
  have active : t.connections.active.toNat = t.held := by
    rw [run.isCounted.active, Traffic.pending_eq_zero quiet, Nat.add_zero]
  have limited := run.isLimited m (run.limits_eq ▸ bounded)
  have room : limits.reachedLimit? t.connections.active = none ↔ t.held < m.toNat := by
    rw [reachedLimit?_eq_none_iff bounded, active]
  rcases follows with undecided | follows
  · rw [undecided] at decided
    exact absurd decided (by simp [Stage.accepted?])
  · rw [decided, same] at follows
    rw [Option.some.inj follows, Option.isNone_eq_false_iff, Option.isSome_iff_ne_none, ne_eq,
      room]
    omega

/-- **Connections are counted, limited and released** as they should, in every run. -/
theorem Run.accounts (run : Run (.start limits) actions t) : Accounts limits actions t where
  active := run.isCounted.active
  count := by
    rintro place t' ⟨free, used⟩
    exact run.isCounted.toNat_acquire free used
  release := by
    rintro k t' (_ | _ | _ | ⟨here, due⟩)
    exact run.isCounted.toNat_subtract here due
  limit m bounded := by
    have limited := run.isLimited m (run.limits_eq ▸ bounded)
    exact Nat.le_trans (Nat.le_add_right _ _) limited
  counted := run.countP_isCount
  released k v here := by
    rw [run.count_release, Traffic.isReleased, here, Option.any_some]
    cases v.stage.isReleased <;> rfl
  due k v accepted here due := ⟨_, .release here due⟩
  sequential := by
    rintro quiet place t' more u v accepted ⟨-, -⟩ later here decided m bounded
    exact run.rejected_iff quiet later here decided bounded

/-- Two calls that accept at the same time when there is room for one connection: the second one is
compared first and rejected, and a third connection is accepted after the first one has ended. -/
def crowd : List Action :=
  [.count 16, .count 32, .check 1, .check 0, .release 1, .finish 0 .timeout, .release 0, .wake 0,
    .count 32, .check 2]

/-- The account of that crowd, in which the counter has been above the limit. -/
theorem accounts_crowd :
    let limits : PerformanceSettings := ⟨75, 30, 30, some 1⟩
    ∃ t, Run (.start limits) crowd t ∧ Accounts limits crowd t ∧
      t.visits = [⟨16, .closed true⟩, ⟨32, .closed false⟩, ⟨32, .served⟩] := by
  intro limits
  have run : Run (.start limits) crowd
      ⟨limits, ⟨1, []⟩, [⟨16, .closed true⟩, ⟨32, .closed false⟩, ⟨32, .served⟩]⟩ :=
    run_iff.mpr (by decide +kernel)
  exact ⟨_, run, run.accounts, rfl⟩

end StaticGzip.Server
