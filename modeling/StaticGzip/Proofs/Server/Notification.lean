import StaticGzip.Proofs.Server.Summons

/-! # There is one notification

Lookouts of former turns are over: each has seen the request or was given up. So there is at most
one who stands in the queue or was called, the lookout of the turn. A notification that goes to it
comes back as the permit when the turn ends because of something else.

* **`Turn.Fits`** — only the lookout of the turn is not over.
* **`Shutdown.Holds`** — the notifications that are kept, with the lookout of the turn, or used up,
  and what every operation does to them.
* **`Summons.IsSound`** — as many as were sent, and that is no more than one.
* **`Summons.Step.isSound`, `Summons.Run.isSound`** — in every step and every run. -/

namespace StaticGzip.Server

/-! ## Lookouts -/

/-- The lookouts **fit** where the loop is: only the lookout of the turn is not over, and it comes
last. -/
inductive Turn.Fits : Turn → List Lookout → Prop where
  | between {past : List Lookout} (passed : ∀ l ∈ past, l.isOver = true) : Fits .between past
  | watching {past : List Lookout} {l : Lookout} (passed : ∀ l ∈ past, l.isOver = true)
      (watches : l.isOver = false) : Fits (.watching past.length) (past ++ [l])
  | left {past : List Lookout} (passed : ∀ l ∈ past, l.isOver = true) : Fits .left past

namespace Lookout

variable {past : List Lookout} {l : Lookout}

/-- Nobody who is not over is among those who are. -/
theorem not_mem_of_isOver (passed : ∀ l ∈ past, l.isOver = true) (waits : l.isOver = false) :
    l ∉ past := by
  intro h
  rw [passed l h] at waits
  exact absurd waits (by simp)

/-- Calling passes by those who are over. -/
theorem callOldest_append (passed : ∀ l ∈ past, l.isOver = true) :
    callOldest (past ++ [queued]) = past ++ [called] := by
  induction past with
  | nil => rfl
  | cons l past ih =>
    have rest := ih fun l hl => passed l (List.mem_cons_of_mem _ hl)
    have first := passed l List.mem_cons_self
    cases l with
    | finished => exact congrArg (finished :: ·) rest
    | withdrawn => exact congrArg (withdrawn :: ·) rest
    | _ => exact absurd first (by simp [isOver])

/-- Whoever is over was not called. -/
theorem count_called_append (passed : ∀ l ∈ past, l.isOver = true) (l : Lookout) :
    (past ++ [l]).count called = if l = called then 1 else 0 := by
  rw [List.count_append, List.count_eq_zero_of_not_mem (not_mem_of_isOver passed rfl), Nat.zero_add,
    List.count_singleton]
  simp only [beq_iff_eq]

end Lookout

namespace Shutdown

variable {requested permit : Bool} {past : List Lookout} {l : Lookout}

/-- A notification calls the lookout of the turn, if it is in the queue. -/
theorem notify_of_queued (passed : ∀ l ∈ past, l.isOver = true) :
    (⟨requested, permit, past ++ [.queued]⟩ : Shutdown).notify
      = ⟨requested, permit, past ++ [.called]⟩ := by
  rw [notify, if_pos (by simp), Lookout.callOldest_append passed]

/-- A notification is kept if nobody is in the queue. -/
theorem notify_of_not_mem {s : Shutdown} (h : Lookout.queued ∉ s.lookouts) :
    s.notify = { s with permit := true } := by
  rw [notify, if_neg (by simpa using h)]

/-- What the lookout of the turn finds when it **looks**. -/
theorem look_append (requested permit : Bool) (past : List Lookout) (l : Lookout) :
    (⟨requested, permit, past ++ [l]⟩ : Shutdown).look past.length
      = match l with
        | .fresh => if permit then ⟨requested, false, past ++ [.finished]⟩
          else ⟨requested, false, past ++ [.queued]⟩
        | .called => ⟨requested, permit, past ++ [.finished]⟩
        | l => ⟨requested, permit, past ++ [l]⟩ := by
  cases l <;> cases permit <;> simp [look, place]

/-- What becomes of the lookout of the turn when it is **given up**. -/
theorem withdraw_append (passed : ∀ l ∈ past, l.isOver = true) (watches : l.isOver = false) :
    (⟨requested, permit, past ++ [l]⟩ : Shutdown).withdraw past.length
      = ⟨requested, permit || decide (l = .called), past ++ [.withdrawn]⟩ := by
  have unqueued : Lookout.queued ∉ past ++ [.withdrawn] := by
    simpa using Lookout.not_mem_of_isOver passed rfl
  cases l with
  | called =>
    have left : (⟨requested, permit, past ++ [.called]⟩ : Shutdown).withdraw past.length
        = (⟨requested, permit, past ++ [.withdrawn]⟩ : Shutdown).notify := by
      simp [withdraw, place]
    rw [left, notify_of_not_mem unqueued]
    simp
  | fresh => simp [withdraw, place]
  | queued => simp [withdraw, place]
  | _ => exact absurd watches (by simp [Lookout.isOver])

end Shutdown

/-! ## Notifications -/

namespace Turn.Fits

variable {turn : Turn} {lookouts : List Lookout}

/-- Whoever is not over is the lookout of the turn. -/
theorem eq_watching (fits : turn.Fits lookouts) {l : Lookout} (h : l ∈ lookouts)
    (waits : l.isOver = false) :
    ∃ past, (∀ l ∈ past, l.isOver = true) ∧ turn = .watching past.length
      ∧ lookouts = past ++ [l] := by
  cases fits with
  | between passed => exact absurd h (Lookout.not_mem_of_isOver passed waits)
  | @watching past l' passed watches =>
    rcases List.mem_append.mp h with h | h
    · exact absurd h (Lookout.not_mem_of_isOver passed waits)
    · rw [List.mem_singleton.mp h]
      exact ⟨past, passed, rfl, rfl⟩
  | left passed => exact absurd h (Lookout.not_mem_of_isOver passed waits)

end Turn.Fits

namespace Shutdown

variable {s : Shutdown} {turn : Turn} {n k : Nat}

/-- A shutdown and the loop **hold some notifications** between them: kept as the permit, with a
lookout that was called, or seen by leaving the loop. -/
structure Holds (s : Shutdown) (turn : Turn) (n : Nat) : Prop where
  /-- Only the lookout of the turn is not over. -/
  fits : turn.Fits s.lookouts
  /-- Nobody is in the queue while there is a permit. -/
  unqueued : s.permit = true → Lookout.queued ∉ s.lookouts
  /-- The notifications in all places together. -/
  total : s.permit.toNat + s.lookouts.count .called + (if turn = .left then 1 else 0) = n

namespace Holds

/-- Nobody who is over is in the queue. -/
theorem queued_not_mem {past : List Lookout} {l : Lookout}
    (passed : ∀ l ∈ past, l.isOver = true) (other : l ≠ .queued) :
    Lookout.queued ∉ past ++ [l] := by
  intro h
  rcases List.mem_append.mp h with h | h
  · exact Lookout.not_mem_of_isOver passed rfl h
  · exact other (List.mem_singleton.mp h).symm

/-- **Notifying** adds one notification, with the lookout in the queue or as the permit. -/
theorem notify (holds : s.Holds turn 0) : s.notify.Holds turn 1 := by
  obtain ⟨fits, unqueued, total⟩ := holds
  by_cases queued : Lookout.queued ∈ s.lookouts
  -- It is the lookout of the turn that is in the queue.
  · obtain ⟨requested, permit, lookouts⟩ := s
    obtain ⟨past, passed, rfl, rfl⟩ := fits.eq_watching queued rfl
    rw [notify_of_queued passed]
    simp only [Lookout.count_called_append passed] at total
    refine ⟨.watching passed rfl, fun _ => queued_not_mem passed (by simp), ?_⟩
    simp only [Lookout.count_called_append passed, if_true]
    simp at total ⊢
    exact total
  · rw [notify_of_not_mem queued]
    refine ⟨fits, fun _ => queued, ?_⟩
    have none : s.lookouts.count .called = 0 ∧ (if turn = .left then 1 else 0) = 0 := by omega
    rw [none.1, none.2]
    rfl

/-- A turn **begins** with a lookout that has not looked. -/
theorem enter (holds : s.Holds .between n) : s.enter.Holds (.watching s.lookouts.length) n := by
  obtain ⟨requested, permit, lookouts⟩ := s
  obtain ⟨fits, unqueued, total⟩ := holds
  cases fits with
  | between passed =>
    refine ⟨.watching passed rfl, fun _ => queued_not_mem passed (by simp), ?_⟩
    simpa [Shutdown.enter] using total

/-- In a turn the lookout of the turn comes last. -/
theorem lookouts_eq (holds : s.Holds (.watching k) n) :
    ∃ past l, (∀ m ∈ past, m.isOver = true) ∧ l.isOver = false ∧ k = past.length ∧
      s.lookouts = past ++ [l] := by
  generalize lookouts : s.lookouts = all
  have fits := holds.fits
  rw [lookouts] at fits
  cases fits with
  | watching passed watches => exact ⟨_, _, passed, watches, rfl, rfl⟩

/-- The end of a turn leaves only lookouts that are over. -/
theorem isOver_append {past : List Lookout} {l : Lookout} (passed : ∀ l ∈ past, l.isOver = true)
    (last : l.isOver = true) : ∀ m ∈ past ++ [l], m.isOver = true := by
  intro m hm
  rcases List.mem_append.mp hm with hm | hm
  · exact passed m hm
  · rwa [List.mem_singleton.mp hm]

/-- Where a look leads: out of the loop if the lookout of the turn has seen the request. -/
theorem after_append (requested permit : Bool) (past : List Lookout) (l : Lookout) :
    Turn.after ⟨requested, permit, past ++ [l]⟩ past.length
      = if l = .finished then .left else .watching past.length := by
  simp [Turn.after]

/-- A **look** takes the notification if there is one, and then the loop is left. -/
theorem look (holds : s.Holds (.watching k) n) :
    (s.look k).Holds (.after (s.look k) k) n := by
  obtain ⟨past, l, passed, watches, rfl, last⟩ := holds.lookouts_eq
  obtain ⟨requested, permit, lookouts⟩ := s
  obtain rfl : lookouts = past ++ [l] := last
  obtain ⟨-, unqueued, total⟩ := holds
  simp only [Lookout.count_called_append passed] at total
  rw [look_append]
  cases l with
  | fresh =>
    cases permit with
    | true =>
      refine ⟨?_, by simp, ?_⟩
      · rw [if_pos rfl, after_append]
        exact .left (isOver_append (l := .finished) passed rfl)
      · simpa [after_append, Lookout.count_called_append passed] using total
    | false =>
      refine ⟨?_, by simp, ?_⟩
      · rw [if_neg (by simp), after_append]
        exact .watching passed rfl
      · simpa [after_append, Lookout.count_called_append passed] using total
  | queued =>
    refine ⟨?_, unqueued, ?_⟩
    · rw [after_append]
      exact .watching passed rfl
    · simpa [after_append, Lookout.count_called_append passed] using total
  | called =>
    refine ⟨?_, fun _ => queued_not_mem passed (by simp), ?_⟩
    · rw [after_append]
      exact .left (isOver_append (l := .finished) passed rfl)
    · simpa [after_append, Lookout.count_called_append passed] using total
  | _ => exact absurd watches (by simp [Lookout.isOver])

/-- With a notification to be had, a look **sees it**, and the loop is left. -/
theorem after_look (holds : s.Holds (.watching k) 1) : Turn.after (s.look k) k = .left := by
  obtain ⟨past, l, passed, watches, rfl, last⟩ := holds.lookouts_eq
  obtain ⟨requested, permit, lookouts⟩ := s
  obtain rfl : lookouts = past ++ [l] := last
  obtain ⟨-, unqueued, total⟩ := holds
  simp only [Lookout.count_called_append passed] at total
  rw [look_append]
  cases l with
  | fresh =>
    obtain rfl : permit = true := by simpa using total
    rw [if_pos rfl, after_append, if_pos rfl]
  | queued =>
    obtain rfl : permit = true := by simpa using total
    exact absurd (List.mem_append_right _ List.mem_cons_self) (unqueued rfl)
  | called => rw [after_append, if_pos rfl]
  | _ => exact absurd watches (by simp [Lookout.isOver])

/-- A turn that **ends otherwise** gives the notification of its lookout back, so that it becomes
the permit. There is no permit besides, since there is no second notification. -/
theorem withdraw (holds : s.Holds (.watching k) n) (one : n ≤ 1) :
    (s.withdraw k).Holds .between n := by
  obtain ⟨past, l, passed, watches, rfl, last⟩ := holds.lookouts_eq
  obtain ⟨requested, permit, lookouts⟩ := s
  obtain rfl : lookouts = past ++ [l] := last
  obtain ⟨-, -, total⟩ := holds
  simp only [Lookout.count_called_append passed] at total
  rw [withdraw_append passed watches]
  refine ⟨.between (isOver_append (l := .withdrawn) passed rfl),
    fun _ => queued_not_mem passed (by simp), ?_⟩
  rw [Lookout.count_called_append passed, ← total]
  cases l with
  | called =>
    cases permit with
    | false => simp
    | true => simp at total; omega
  | fresh => simp
  | queued => simp
  | _ => exact absurd watches (by simp [Lookout.isOver])

end Holds

end Shutdown

/-! ## Every run -/

namespace Summons

variable {s t : Summons} {a : Action} {actions : List Action} {k : Nat}

/-- The summons is **sound**: one call was the first if shutdown is marked as requested, and the
notifications that were sent are held. -/
structure IsSound (s : Summons) : Prop where
  marked : s.callers.countP Caller.isFirst = s.shutdown.requested.toNat
  holds : s.shutdown.Holds s.turn s.sent

/-- Nobody has called at the start. -/
theorem isSound_start : start.IsSound where
  marked := rfl
  holds := ⟨.between (by simp [start, Shutdown.none]), by simp [start, Shutdown.none], rfl⟩

namespace IsSound

/-- Whoever has notified was the first to call. -/
theorem sent_le_countP (callers : List Caller) :
    callers.countP Caller.hasNotified ≤ callers.countP Caller.isFirst := by
  refine List.countP_mono_left fun c _ h => ?_
  cases c with
  | returned notified => cases notified <;> exact h
  | _ => exact absurd h (by simp [Caller.hasNotified])

/-- **One notification at most** is sent. -/
theorem sent_le_one (sound : s.IsSound) : s.sent ≤ 1 := by
  have marked := sent_le_countP s.callers
  rw [sound.marked] at marked
  exact Nat.le_trans marked (Bool.toNat_le _)

/-- Marking shutdown as requested sends nothing. -/
theorem sent_mark (here : s.callers[k]? = some .calling) :
    (s.advance s.shutdown.request k (.marked s.shutdown.requested)).sent = s.sent := by
  have none := countP_set_add here Caller.hasNotified (.marked s.shutdown.requested)
  rw [Caller.hasNotified_marked] at none
  exact none

/-- The call that **marks shutdown as requested** is the first one exactly if it had not been. -/
theorem mark (sound : s.IsSound) (here : s.callers[k]? = some .calling) :
    (s.advance s.shutdown.request k (.marked s.shutdown.requested)).IsSound where
  marked := by
    have one := countP_set_add here Caller.isFirst (.marked s.shutdown.requested)
    rw [Caller.isFirst_marked, sound.marked] at one
    refine one.trans ?_
    cases s.shutdown.requested <;> rfl
  holds := by
    rw [sent_mark here]
    exact ⟨sound.holds.fits, sound.holds.unqueued, sound.holds.total⟩

/-- The call that **notifies** is the first one, and nothing was sent before. -/
theorem notify (sound : s.IsSound) (here : s.callers[k]? = some .first) :
    (s.advance s.shutdown.notify k (.returned true)).IsSound := by
  have more : (s.callers.set k (.returned true)).countP Caller.hasNotified = s.sent + 1 :=
    countP_set_add here Caller.hasNotified (.returned true)
  have first : (s.callers.set k (.returned true)).countP Caller.isFirst
      = s.callers.countP Caller.isFirst :=
    Nat.add_right_cancel (countP_set_add here Caller.isFirst (.returned true))
  rw [sound.marked] at first
  have nothing : s.sent = 0 := by
    have le := sent_le_countP (s.callers.set k (.returned true))
    have one := Bool.toNat_le s.shutdown.requested
    omega
  refine ⟨?_, ?_⟩
  · rw [advance, Shutdown.requested_notify]
    exact first
  · have sent : (s.advance s.shutdown.notify k (.returned true)).sent = 1 := by
      rw [nothing] at more
      exact more
    have holds := sound.holds
    rw [nothing] at holds
    rw [sent]
    exact holds.notify

end IsSound

/-- **Every step** leaves the summons sound. -/
theorem Step.isSound (step : Step s a t) (sound : s.IsSound) : t.IsSound := by
  cases step with
  | call =>
    have callers (p : Caller → Bool) (none : p .calling = false) :
        (s.callers ++ [Caller.calling]).countP p = s.callers.countP p := by
      rw [List.countP_append, List.countP_singleton, none]
      rfl
    refine ⟨?_, ?_⟩
    · rw [callers Caller.isFirst rfl]
      exact sound.marked
    · rw [sent, callers Caller.hasNotified rfl]
      exact sound.holds
  | mark here => exact sound.mark here
  | notify here => exact sound.notify here
  | begin turn =>
    have holds := sound.holds
    rw [turn] at holds
    exact ⟨sound.marked, holds.enter⟩
  | @look k turn =>
    have holds := sound.holds
    rw [turn] at holds
    refine ⟨?_, holds.look⟩
    rw [Shutdown.requested_look]
    exact sound.marked
  | @give k turn =>
    have holds := sound.holds
    rw [turn] at holds
    refine ⟨?_, holds.withdraw sound.sent_le_one⟩
    rw [Shutdown.requested_withdraw]
    exact sound.marked

/-- **Every run** leaves the summons sound. -/
theorem Run.isSound (run : Run start actions s) : s.IsSound :=
  run.kept isSound_start fun sound step => step.isSound sound

end Summons

end StaticGzip.Server
