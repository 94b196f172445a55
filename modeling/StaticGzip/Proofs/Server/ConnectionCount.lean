import Mathlib.Algebra.Group.Nat.Defs
import Mathlib.Data.Finset.Card
import Mathlib.Data.Finset.Range
import StaticGzip.Proofs.Server.Trace
import StaticGzip.Proofs.Server.Traffic

/-! # Connections are counted right

The counter is raised before it is compared with the limit, so for a moment it may stand above the
limit, and releases of other connections may come in between. Still it never tells anything but the
number of connections that are held or pending.

* **`Traffic.number_move`, `Traffic.number_arrive`** — a step of a visit changes the numbers of
  visits by that visit.
* **`Traffic.IsPlaced`, `Traffic.IsPlaced.length_lt`** — visits under way stand at different places,
  so they are fewer than a machine word can count.
* **`Traffic.IsCounted`** — the counter tells how many connections are held or pending.
* **`Step.isCounted`, `Run.isCounted`** — every step and every run leave it so. -/

namespace StaticGzip.Server

variable {limits : PerformanceSettings} {t t' : Traffic} {a : Action} {actions : List Action}
  {k : Nat} {v : Visit} {stage : Stage} {c : Connections}

/-- What is to be released is held if it was accepted, and else it is pending; it is under way. -/
theorem Stage.of_due? {accepted : Bool} (due : stage.due? = some accepted) :
    stage.isHeld = accepted ∧ (stage.isPending = !accepted) ∧ stage.isClosed = false := by
  cases stage with
  | excess =>
    obtain rfl := Option.some.inj due
    exact ⟨rfl, rfl, rfl⟩
  | ended ending =>
    obtain rfl := Option.some.inj due
    exact ⟨rfl, rfl, rfl⟩
  | _ => exact absurd due (by simp [due?])

/-! ## Numbers of visits -/

namespace Traffic

/-- **One visit moves**, and the numbers change by it alone. -/
theorem number_move (here : t.visits[k]? = some v) (p : Stage → Bool) (c : Connections)
    (stage : Stage) :
    (t.move c k v stage).number p + (p v.stage).toNat = t.number p + (p stage).toNat :=
  countP_set_add here (fun v => p v.stage) ⟨v.place, stage⟩

/-- One visit **arrives**. -/
theorem number_arrive (t : Traffic) (place : UInt64) (p : Stage → Bool) :
    (t.arrive place).number p = t.number p + (p (.counted t.connections.active)).toNat := by
  rw [number, arrive, List.countP_append, List.countP_singleton]
  cases p (.counted t.connections.active) <;> rfl

/-- A kind of stages that implies another one has no more visits. -/
theorem number_le_number {p q : Stage → Bool} (t : Traffic)
    (implies : ∀ stage, p stage = true → q stage = true) : t.number p ≤ t.number q :=
  List.countP_mono_left fun v _ => implies v.stage

/-! ## Places -/

/-- The places of a first visit and of those after it. -/
theorem filterMap_place?_cons (v : Visit) (visits : List Visit) :
    (v :: visits).filterMap Visit.place?
      = v.place?.toList ++ visits.filterMap Visit.place? := by
  cases h : v.place? <;> simp [h]

/-- Replacing one visit by another that occupies no other place adds no place. -/
theorem filterMap_set_sublist {visits : List Visit} {v' : Visit} (here : visits[k]? = some v)
    (stays : v'.place?.toList.Sublist v.place?.toList) :
    ((visits.set k v').filterMap Visit.place?).Sublist (visits.filterMap Visit.place?) := by
  induction visits generalizing k with
  | nil => exact absurd here (by simp)
  | cons first visits ih =>
    cases k with
    | zero =>
      obtain rfl : first = v := by simpa using here
      rw [List.set_cons_zero, filterMap_place?_cons, filterMap_place?_cons]
      exact stays.append_right _
    | succ k =>
      rw [List.getElem?_cons_succ] at here
      rw [List.set_cons_succ, filterMap_place?_cons, filterMap_place?_cons]
      exact (ih here).append_left _

/-- A visit under way occupies its place until it leaves, and **no other one**. -/
theorem places_move_sublist (here : t.visits[k]? = some v) (under : v.stage.isClosed = false)
    (c : Connections) (stage : Stage) : (t.move c k v stage).places.Sublist t.places := by
  refine filterMap_set_sublist here ?_
  have occupied : v.place? = some v.place := by simp [Visit.place?, under]
  rw [occupied, Visit.place?]
  split <;> simp

/-- The places that are occupied are **all different**, and none is zero. -/
def IsPlaced (t : Traffic) : Prop := (0 :: t.places).Nodup

/-- No more visits are **under way** than there are places. -/
theorem IsPlaced.length_lt (placed : t.IsPlaced) : t.places.length + 1 ≤ 2 ^ 64 := by
  -- Places are different numbers below the size of a machine word, and zero is one number more.
  have different : ((0 :: t.places).map UInt64.toNat).Nodup :=
    List.Nodup.map (fun _ _ => UInt64.toNat_inj.mp) placed
  have card := List.toFinset_card_of_nodup different
  have words : ((0 :: t.places).map UInt64.toNat).toFinset ⊆ Finset.range (2 ^ 64) := by
    intro n hn
    obtain ⟨place, -, rfl⟩ := List.mem_map.mp (List.mem_toFinset.mp hn)
    exact Finset.mem_range.mpr place.toNat_lt
  have bound := Finset.card_le_card words
  rw [card, Finset.card_range, List.length_map, List.length_cons] at bound
  exact bound

/-- Whoever arrives occupies its place. -/
theorem places_arrive (t : Traffic) (place : UInt64) :
    (t.arrive place).places = t.places ++ [place] := by
  rw [places, arrive, List.filterMap_append]
  rfl

/-- Arriving at a free place keeps the places different. -/
theorem IsPlaced.arrive {place : UInt64} (placed : t.IsPlaced) (free : place ∉ t.places)
    (used : place ≠ 0) : (t.arrive place).IsPlaced := by
  rw [IsPlaced, places_arrive, ← List.cons_append, List.nodup_append]
  refine ⟨placed, List.nodup_singleton place, ?_⟩
  intro p hp q hq
  rw [List.mem_singleton] at hq
  rw [hq]
  rintro rfl
  rcases List.mem_cons.mp hp with zero | occupied
  · exact used zero
  · exact free occupied

/-- Visits that are held or pending are under way. -/
theorem held_add_pending_le (t : Traffic) : t.held + t.pending ≤ t.places.length := by
  unfold held pending number places
  rw [List.length_filterMap_eq_countP]
  induction t.visits with
  | nil => exact Nat.le_refl 0
  | cons v visits ih =>
    simp only [List.countP_cons]
    have one : (if v.stage.isHeld = true then 1 else 0)
        + (if v.stage.isPending = true then 1 else 0)
          ≤ if v.place?.isSome = true then 1 else 0 := by
      unfold Visit.place?
      cases v.stage <;> simp [Stage.isHeld, Stage.isPending, Stage.isClosed]
    omega

/-! ## The counter -/

/-- The traffic is **counted right**: its places are all different, and the counter tells how many
connections are held or pending. -/
structure IsCounted (t : Traffic) : Prop where
  placed : t.IsPlaced
  active : t.connections.active.toNat = t.held + t.pending

/-- No traffic is counted right. -/
theorem isCounted_start (limits : PerformanceSettings) : (start limits).IsCounted where
  placed := List.nodup_singleton 0
  active := rfl

/-- **Counting** one more connection does not wrap the counter around. -/
theorem IsCounted.toNat_acquire {place : UInt64} (counted : t.IsCounted)
    (free : place ∉ t.places) (used : place ≠ 0) :
    t.connections.acquire.active.toNat = t.connections.active.toNat + 1 := by
  -- Even with the new visit there are fewer visits under way than the counter can tell.
  have bound := (counted.placed.arrive free used).length_lt
  have under := t.held_add_pending_le
  rw [places_arrive, List.length_append, List.length_singleton] at bound
  rw [Connections.active_acquire, UInt64.toNat_add, counted.active, UInt64.toNat_one]
  exact Nat.mod_eq_of_lt (by omega)

/-- A connection that is to be released is held or pending. -/
theorem pos_of_due {accepted : Bool} (here : t.visits[k]? = some v)
    (due : v.stage.due? = some accepted) : 0 < t.held + t.pending := by
  have member := List.mem_of_getElem? here
  obtain ⟨held, pending, -⟩ := Stage.of_due? due
  cases accepted with
  | false => exact Nat.add_pos_right _ (List.countP_pos_iff.mpr ⟨v, member, pending⟩)
  | true => exact Nat.add_pos_left (List.countP_pos_iff.mpr ⟨v, member, held⟩) _

/-- **Releasing** a connection does not wrap the counter around. -/
theorem IsCounted.toNat_subtract {accepted : Bool} (counted : t.IsCounted)
    (here : t.visits[k]? = some v) (due : v.stage.due? = some accepted) :
    t.connections.subtract.active.toNat + 1 = t.connections.active.toNat := by
  -- The visit itself is counted, so the counter is not zero.
  have positive := pos_of_due here due
  rw [← counted.active] at positive
  have one : (1 : UInt64) ≤ t.connections.active := UInt64.le_iff_toNat_le.mpr positive
  rw [Connections.subtract, UInt64.toNat_sub_of_le _ _ one, UInt64.toNat_one]
  exact Nat.sub_add_cancel positive

/-- **One visit moves**, and the traffic stays counted right if the counter moves with it. -/
theorem IsCounted.move (counted : t.IsCounted) (here : t.visits[k]? = some v)
    (under : v.stage.isClosed = false)
    (balance : c.active.toNat + v.stage.isHeld.toNat + v.stage.isPending.toNat
      = t.connections.active.toNat + stage.isHeld.toNat + stage.isPending.toNat) :
    (t.move c k v stage).IsCounted where
  placed := counted.placed.sublist ((places_move_sublist here under c stage).cons_cons 0)
  active := by
    have held : (t.move c k v stage).held + v.stage.isHeld.toNat = t.held + stage.isHeld.toNat :=
      number_move here Stage.isHeld c stage
    have pending : (t.move c k v stage).pending + v.stage.isPending.toNat
        = t.pending + stage.isPending.toNat := number_move here Stage.isPending c stage
    have active := counted.active
    have counter : (t.move c k v stage).connections.active.toNat = c.active.toNat := rfl
    omega

/-- One visit **arrives**, and the traffic stays counted right. -/
theorem IsCounted.arrive {place : UInt64} (counted : t.IsCounted) (free : place ∉ t.places)
    (used : place ≠ 0) : (t.arrive place).IsCounted where
  placed := counted.placed.arrive free used
  active := by
    have held : (t.arrive place).held = t.held + 0 := number_arrive t place _
    have pending : (t.arrive place).pending = t.pending + 1 := number_arrive t place _
    rw [held, pending, Nat.add_zero, ← Nat.add_assoc, ← counted.active]
    exact counted.toNat_acquire free used

end Traffic

/-- **Every step** leaves the traffic counted right. -/
theorem Step.isCounted (step : Step t a t') (counted : t.IsCounted) : t'.IsCounted := by
  cases step with
  | count free used => exact counted.arrive free used
  | @check k v before here stage =>
    refine counted.move here (by rw [stage]; rfl) ?_
    rw [stage, Stage.checked]
    split <;> rfl
  | finish here stage ending =>
    refine counted.move here (by rw [stage]; rfl) ?_
    rw [stage]
    rfl
  | @release k v accepted here due =>
    obtain ⟨held, pending, under⟩ := Stage.of_due? due
    -- The counter and the number of visits that are held or pending go down by one together.
    have counter := counted.toNat_subtract here due
    refine counted.move here under ?_
    rw [held, pending, Stage.released]
    split <;> cases accepted <;> exact counter
  | wake here stage =>
    refine counted.move here (by rw [stage]; rfl) ?_
    rw [stage]
    rfl
  | enter => exact ⟨counted.placed, counted.active⟩
  | wait here goes => exact ⟨counted.placed, counted.active⟩

/-- **Every run** leaves the traffic counted right. -/
theorem Run.isCounted (run : Run (.start limits) actions t) : t.IsCounted :=
  run.kept (Traffic.isCounted_start limits) fun counted step => step.isCounted counted

end StaticGzip.Server
