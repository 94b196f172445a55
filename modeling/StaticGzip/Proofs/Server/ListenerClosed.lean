import StaticGzip.Proofs.Server.ConnectionLimit
import StaticGzip.Proofs.Server.Service

/-! # No connection is accepted after the loop is left

Only the loop takes connections, and it accepts one before it takes the next. So when it is left no
visit is waiting to be accepted: every connection that was counted is decided, and those that were
accepted are with their tasks, whether or not these have done anything yet. From then on the counter
only goes down.

* **`Traffic.AcceptsOnly`, `Duty.Suits`, `Service.IsOrderly`** — the visit that the loop accepts,
  and the turn it is in.
* **`Service.Run.isOrderly`** — in every run.
* **`Service.Run.closed`** — what every run leaves as it is after the loop is left. -/

namespace StaticGzip.Server

/-! ## Traffic that nobody adds to -/

section

variable {t t' : Traffic} {a : Action} {k : Nat} {k? : Option Nat} {v : Visit} {stage : Stage}
  {c : Connections}

/-- Whether a step counts a connection or decides about one. -/
def Action.isAccepting : Action → Bool
  | count _ | check _ => true
  | finish _ _ | release _ | wake _ | enter | wait _ => false

/-- A visit that moves within a decision leaves all decisions as they are. -/
theorem Traffic.map_accepted?_move (here : t.visits[k]? = some v)
    (same : stage.accepted? = v.stage.accepted?) :
    (t.move c k v stage).visits.map (·.stage.accepted?) = t.visits.map (·.stage.accepted?) := by
  obtain ⟨inside, rfl⟩ := List.getElem?_eq_some_iff.mp here
  rw [move, List.map_set, same]
  exact List.ext_getElem (by simp) fun j _ _ => by
    rw [List.getElem_set]
    split
    · rename_i equal
      subst equal
      rw [List.getElem_map]
    · rfl

/-- Unless a step counts a connection or decides about one, **all decisions stay**. -/
theorem Step.map_accepted?_eq (step : Step t a t') (quiet : a.isAccepting = false) :
    t'.visits.map (·.stage.accepted?) = t.visits.map (·.stage.accepted?) := by
  cases step with
  | count => exact absurd quiet (by simp [Action.isAccepting])
  | check => exact absurd quiet (by simp [Action.isAccepting])
  | finish here stage => exact Traffic.map_accepted?_move here (by rw [stage]; rfl)
  | @release k v accepted here due =>
    refine Traffic.map_accepted?_move here ?_
    rw [Stage.accepted?_of_due? due, Stage.released]
    split <;> rfl
  | wake here stage => exact Traffic.map_accepted?_move here (by rw [stage]; rfl)
  | enter => rfl
  | wait => rfl

/-- Unless a step counts a connection, **the counter does not go up**. -/
theorem Step.active_le (step : Step t a t') (counted : t.IsCounted)
    (quiet : a.isAccepting = false) : t'.connections.active ≤ t.connections.active := by
  cases step with
  | count => exact absurd quiet (by simp [Action.isAccepting])
  | release here due =>
    have less := counted.toNat_subtract here due
    exact UInt64.le_iff_toNat_le.mpr (Nat.le.intro less)
  | _ => exact UInt64.le_refl _

/-- **Only one visit** at most is being accepted. -/
def Traffic.AcceptsOnly (t : Traffic) (k? : Option Nat) : Prop :=
  ∀ (k : Nat) (v : Visit), t.visits[k]? = some v → v.stage.isAccepting = true → k? = some k

namespace Traffic.AcceptsOnly

/-- A visit that moves without beginning to be accepted changes nothing. -/
theorem move (only : t.AcceptsOnly k?) (here : t.visits[k]? = some v)
    (begins : stage.isAccepting = true → v.stage.isAccepting = true) :
    (t.move c k v stage).AcceptsOnly k? := by
  intro j u there accepting
  rw [getElem?_move here] at there
  by_cases same : k = j
  · rw [if_pos same] at there
    obtain rfl := Option.some.inj there
    exact same ▸ only k v here (begins accepting)
  · rw [if_neg same] at there
    exact only j u there accepting

/-- Whoever arrives is the only one to be accepted, if nobody was. -/
theorem arrive (only : t.AcceptsOnly none) (place : UInt64) :
    (t.arrive place).AcceptsOnly (some t.visits.length) := by
  intro j u there accepting
  rw [getElem?_arrive] at there
  by_cases last : t.visits.length = j
  · rw [last]
  · rw [if_neg last] at there
    exact absurd (only j u there accepting) (by simp)

/-- As soon as that visit is not being accepted any more, none is. -/
theorem settled (only : t.AcceptsOnly (some k)) (here : t.visits[k]? = some v)
    (done : v.stage.isAccepting = false) : t.AcceptsOnly none := by
  intro j u there accepting
  obtain rfl := Option.some.inj (only j u there accepting)
  obtain rfl := Option.some.inj (here.symm.trans there)
  exact absurd accepting (by simp [done])

end Traffic.AcceptsOnly

/-- Unless a step counts a connection, **no visit begins to be accepted**. -/
theorem Step.acceptsOnly (step : Step t a t') (quiet : a.isCount = false)
    (only : t.AcceptsOnly k?) : t'.AcceptsOnly k? := by
  cases step with
  | count => exact absurd quiet (by simp [Action.isCount])
  | check here stage => exact only.move here fun _ => by rw [stage]; rfl
  | finish here stage => exact only.move here fun h => absurd h (by simp [Stage.isAccepting])
  | @release k v accepted here due =>
    refine only.move here fun h => ?_
    -- Only what was excess is still being accepted when it wakes the others.
    cases stage : v.stage with
    | excess => rfl
    | ended ending =>
      obtain rfl := Option.some.inj ((stage ▸ due : (Stage.ended ending).due? = some accepted))
      rw [Stage.released] at h
      split at h <;> exact absurd h (by simp [Stage.isAccepting])
    | _ => exact absurd due (by simp [stage, Stage.due?])
  | wake here stage => exact only.move here fun h => absurd h (by simp [Stage.isAccepting])
  | enter => exact only
  | wait => exact only

end

/-! ## The visit that the loop accepts -/

/-- The turns that **suit** what the loop is doing: between two of them it handles what it has
taken, and after it is left it ends its work. -/
def Duty.Suits : Duty → Turn → Prop
  | .listening, _ => True
  | .taken _, turn | .failed _, turn | .accepting _, turn | .rejecting _ _ _, turn =>
    turn = .between
  | .closing, turn | .draining _ _, turn | .overdue _, turn | .warned _, turn | .stopped _, turn =>
    turn = .left

namespace Service

variable {s t : Service} {a : Action} {actions more : List Action} {limits : PerformanceSettings}

/-- The service is **orderly**: the loop does what suits its turn, and no visit is being accepted
but the one that it accepts. -/
structure IsOrderly (s : Service) : Prop where
  suits : s.duty.Suits s.summons.turn
  only : s.traffic.AcceptsOnly s.duty.visit?

/-- The service is orderly at the start. -/
theorem isOrderly_start (limits : PerformanceSettings) : (start limits).IsOrderly where
  suits := trivial
  only := fun k v here => absurd here (by simp [start, Traffic.start])

/-- Every step leaves the loop doing **what suits its turn**. -/
theorem Step.suits (step : Step s a t) (suits : s.duty.Suits s.summons.turn) :
    t.duty.Suits t.summons.turn := by
  cases step with
  | @call a m calls step =>
    have same : m.turn = s.summons.turn := step.turn_of_isCall calls
    rwa [← same] at suits
  | @turn a m duty =>
    have listens : s.duty.Suits m.turn := by rw [duty]; trivial
    exact listens
  | take _ step | fail _ step => cases step with | give => rfl
  | leave duty left => exact left
  | count duty | exceed duty | drain duty | expire duty | warn duty | stop duty | stopLate duty =>
    exact (duty ▸ suits :)
  | report | accept | reject => trivial
  | _ => exact suits

/-- Every step leaves **no visit being accepted** but the one that the loop accepts. -/
theorem Step.only (step : Step s a t) (only : s.traffic.AcceptsOnly s.duty.visit?) :
    t.traffic.AcceptsOnly t.duty.visit? := by
  cases step with
  | count duty step =>
    rw [duty] at only
    cases step with
    | count => exact only.arrive _
  | @accept k v before peer t duty here stage room known step =>
    rw [duty] at only
    have after := step.acceptsOnly rfl only
    cases step with
    | @check k v' before' here' stage' =>
      obtain rfl := Option.some.inj (here.symm.trans here')
      obtain rfl := Stage.counted.inj (stage.symm.trans stage')
      -- There is room, so the visit is with its task from now on.
      have served : Stage.checked s.traffic.limits before = .served := by
        rw [Stage.checked, room]
        rfl
      refine after.settled (v := ⟨v.place, .served⟩) ?_ rfl
      rw [served]
      exact (Traffic.getElem?_move here _ _ _).trans (if_pos rfl)
  | exceed duty _ _ _ step =>
    rw [duty] at only
    exact step.acceptsOnly rfl only
  | @reject k v before limit peer duty here closed =>
    rw [duty] at only
    refine only.settled here ?_
    cases h : v.stage with
    | closed accepted => rfl
    | _ => exact absurd closed (by simp [h, Stage.isClosed])
  | finish _ step | release step | wake step | wait _ step => exact step.acceptsOnly rfl only
  | drain duty step => exact step.acceptsOnly rfl (duty ▸ only :)
  | take duty | fail duty | report duty | leave duty | expire duty | warn duty | stop duty
  | stopLate duty => exact (duty ▸ only :)
  | _ => exact only

/-- **Every step** leaves the service orderly. -/
theorem Step.isOrderly (step : Step s a t) (orderly : s.IsOrderly) : t.IsOrderly where
  suits := step.suits orderly.suits
  only := step.only orderly.only

/-- **Every run** leaves the service orderly. -/
theorem Run.isOrderly (run : Run s actions t) (orderly : s.IsOrderly) : t.IsOrderly :=
  run.kept orderly fun orderly step => step.isOrderly orderly

/-- Every run leaves the traffic counted right. -/
theorem Run.isCounted (run : Run s actions t) (counted : s.traffic.IsCounted) :
    t.traffic.IsCounted :=
  run.traffic.kept counted fun counted step => step.isCounted counted

/-! ## After the loop is left -/

/-- After the loop is left, **no step accepts** a connection. -/
theorem Step.isAccepting_eq_false (step : Step s a t) (orderly : s.IsOrderly)
    (left : s.summons.turn = .left) : a.isAccepting = false := by
  have suits := orderly.suits
  rw [left] at suits
  cases step with
  | take _ step | fail _ step =>
    cases step with | give turn => exact absurd (turn.symm.trans left) (by simp)
  | report duty | count duty | accept duty | exceed duty | reject duty =>
    exact absurd (duty ▸ suits :) (by simp [Duty.Suits])
  | _ => rfl

/-- A step that accepts nothing is none to the traffic that counts or decides. -/
theorem Action.isAccepting_of_traffic? {b : Server.Action} (quiet : a.isAccepting = false)
    (h : a.traffic? = some b) : b.isAccepting = false := by
  cases a with
  | count | accept | exceed => exact absurd quiet (by simp [isAccepting])
  | finish | release | wake | drain | wait =>
    obtain rfl := Option.some.inj h
    rfl
  | _ => exact absurd h (by simp [traffic?])

/-- A step that accepts nothing leaves all decisions as they are, and **the counter does not go
up**. -/
theorem Step.of_not_isAccepting (step : Step s a t) (counted : s.traffic.IsCounted)
    (quiet : a.isAccepting = false) : t.accepted = s.accepted ∧ t.active ≤ s.active := by
  rcases step.traffic_cases with ⟨-, same⟩ | ⟨b, some, step⟩
  · rw [accepted, accepted, active, active, same]
    exact ⟨rfl, UInt64.le_refl _⟩
  · have quiet := Action.isAccepting_of_traffic? quiet some
    exact ⟨step.map_accepted?_eq quiet, step.active_le counted quiet⟩

/-- **After the loop is left** it stays so, nothing is accepted any more, and the counter does not
go up. -/
theorem Run.closed (run : Run s more t) (orderly : s.IsOrderly) (counted : s.traffic.IsCounted)
    (left : s.summons.turn = .left) :
    t.summons.turn = .left ∧ (∀ a ∈ more, a.isAccepting = false) ∧ t.accepted = s.accepted ∧
      t.active ≤ s.active := by
  induction run with
  | nil => exact ⟨left, by simp, rfl, UInt64.le_refl _⟩
  | @snoc more a t u run step ih =>
    obtain ⟨left, quiet, accepted, active⟩ := ih
    have last := step.isAccepting_eq_false (Run.isOrderly run orderly) left
    obtain ⟨same, less⟩ := step.of_not_isAccepting (Run.isCounted run counted) last
    refine ⟨?_, ?_, same.trans accepted, UInt64.le_trans less active⟩
    · rcases step.summons_cases with ⟨-, same⟩ | ⟨b, -, step⟩
      · rw [same, left]
      · exact step.left left
    · intro b hb
      rcases List.mem_append.mp hb with hb | hb
      · exact quiet b hb
      · rwa [List.mem_singleton.mp hb]

end Service

end StaticGzip.Server
