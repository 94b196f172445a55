import Mathlib.Logic.ExistsUnique
import StaticGzip.Proofs.Server.Notification

/-! # A request to shut down is neither lost nor heard twice

Once the first call has returned, its notification is in one place: it is kept as the permit, the
lookout of the turn was called, or the loop is left. Wherever it is, the lookout that looks next
sees it.

* **`Summons.Place`, `Summons.IsAt`, `Summons.numberAt`** — where the notification is.
* **`Summons.Heard`, `Summons.Run.heard`** — what becomes of it, in every run.
* **`Summons.exists_run_wait`, `Summons.exists_run_call`, `Summons.exists_run_trigger`** — a wait, a
  call and a request that are not interrupted are runs. -/

namespace StaticGzip.Server

namespace Summons

variable {s t : Summons} {a : Action} {actions : List Action} {k : Nat}

/-! ## Where the notification is -/

/-- The **places** where the notification can be: it is kept as the permit, the lookout of the turn
was called, or the loop has heeded it and is left. -/
inductive Place where
  | kept
  | called
  | heeded
deriving DecidableEq, Repr

/-- Whether there is a notification **at a place**. -/
def IsAt (s : Summons) : Place → Prop
  | .kept => s.shutdown.permit = true
  | .called => s.lookout? = some .called
  | .heeded => s.turn = .left

/-- How many notifications there are **at a place**. -/
def numberAt (s : Summons) : Place → Nat
  | .kept => s.shutdown.permit.toNat
  | .called => if s.lookout? = some .called then 1 else 0
  | .heeded => if s.turn = .left then 1 else 0

/-- There is a notification at a place exactly if the number of those there is **not zero**. -/
theorem isAt_iff (s : Summons) (p : Place) : s.IsAt p ↔ 0 < s.numberAt p := by
  cases p with
  | kept =>
    rw [IsAt, numberAt]
    cases s.shutdown.permit <;> decide
  | called =>
    rw [IsAt, numberAt]
    split <;> simp [*]
  | heeded =>
    rw [IsAt, numberAt]
    split <;> simp [*]

namespace IsSound

/-- Nobody but the lookout of the turn can have been called. -/
theorem count_called (sound : s.IsSound) :
    s.shutdown.lookouts.count .called = if s.lookout? = some .called then 1 else 0 := by
  obtain ⟨shutdown, callers, turn⟩ := s
  have fits := sound.holds.fits
  generalize lookouts : shutdown.lookouts = all at fits ⊢
  cases fits with
  | between passed => exact List.count_eq_zero_of_not_mem (Lookout.not_mem_of_isOver passed rfl)
  | watching passed watches =>
    rw [Lookout.count_called_append passed]
    simp [lookout?, lookouts]
  | left passed => exact List.count_eq_zero_of_not_mem (Lookout.not_mem_of_isOver passed rfl)

/-- The notifications at all places are those that were **sent**. -/
theorem total (sound : s.IsSound) :
    s.numberAt .kept + s.numberAt .called + s.numberAt .heeded = s.sent := by
  rw [numberAt, numberAt, numberAt, ← sound.count_called]
  exact sound.holds.total

/-- The first call has returned exactly if a notification was sent. -/
theorem hasCalled_iff (sound : s.IsSound) : s.HasCalled ↔ s.sent = 1 := by
  have one := sound.sent_le_one
  have any : 0 < s.sent ↔ s.HasCalled := by
    rw [sent, List.countP_pos_iff]
    simp only [Caller.hasNotified_iff, exists_eq_right]
    rfl
  rw [← any]
  omega

/-- After the first call has returned, the notification is **in one place**. -/
theorem existsUnique (sound : s.IsSound) (called : s.HasCalled) : ∃! p, s.IsAt p := by
  have total := sound.total
  rw [sound.hasCalled_iff.mp called] at total
  simp only [isAt_iff]
  -- The three numbers add up to one, so not all of them are zero, and no two of them are not.
  have somewhere : ∃ p, 0 < s.numberAt p := by
    by_cases kept : 0 < s.numberAt .kept
    · exact ⟨_, kept⟩
    by_cases waits : 0 < s.numberAt .called
    · exact ⟨_, waits⟩
    exact ⟨.heeded, by omega⟩
  have same (p q : Place) (hp : 0 < s.numberAt p) (hq : 0 < s.numberAt q) : q = p := by
    cases p <;> cases q <;> first | rfl | omega
  obtain ⟨p, hp⟩ := somewhere
  exact ⟨p, hp, fun q hq => same p q hp hq⟩

/-- Before that, there is none. -/
theorem not_isAt (sound : s.IsSound) (silent : ¬ s.HasCalled) (p : Place) : ¬ s.IsAt p := by
  have total := sound.total
  have one := sound.sent_le_one
  rw [sound.hasCalled_iff] at silent
  rw [isAt_iff]
  cases p <;> omega

/-- As long as the first call has not returned, it is **about to notify**. -/
theorem exists_first (sound : s.IsSound) (requested : s.shutdown.requested = true)
    (silent : ¬ s.HasCalled) : ∃ k : Nat, s.callers[k]? = some Caller.first := by
  have marked := sound.marked
  rw [requested, Bool.toNat_true] at marked
  obtain ⟨c, hc, first⟩ := List.countP_pos_iff.mp (by omega : 0 < s.callers.countP Caller.isFirst)
  obtain rfl : c = .first := by
    cases c with
    | calling => exact absurd first (by simp [Caller.isFirst])
    | first => rfl
    | returned notified =>
      cases notified with
      | true => exact absurd hc silent
      | false => exact absurd first (by simp [Caller.isFirst])
  exact List.getElem?_of_mem hc

/-- After the first call has returned, **any look** leaves the loop. -/
theorem turn_of_look (sound : s.IsSound) (called : s.HasCalled) (step : Step s .look t) :
    t.turn = .left := by
  cases step with
  | look turn =>
    have holds := sound.holds
    rw [turn, sound.hasCalled_iff.mp called] at holds
    exact holds.after_look

/-- The loop **can look**, after it has begun a turn if it was between two of them. -/
theorem exists_run_left (sound : s.IsSound) (called : s.HasCalled) (stays : s.turn ≠ .left) :
    ∃ steps t, (steps = [.look] ∨ steps = [.begin, .look]) ∧ Run s steps t ∧ t.turn = .left := by
  cases turn : s.turn with
  | between =>
    have begins := Step.begin turn
    have looks := Step.look (s := { s with
      shutdown := s.shutdown.enter, turn := .watching s.shutdown.lookouts.length }) rfl
    exact ⟨_, _, .inr rfl, .cons begins (.single looks),
      (begins.isSound sound).turn_of_look called looks⟩
  | watching k =>
    have looks := Step.look turn
    exact ⟨_, _, .inl rfl, .single looks, sound.turn_of_look called looks⟩
  | left => exact absurd turn stays

end IsSound

/-- Every step that notifies is the only one to add to the notifications. -/
theorem Step.sent_eq (step : Step s a t) : t.sent = s.sent + a.isNotify.toNat := by
  cases step with
  | call =>
    rw [sent, List.countP_append, List.countP_singleton]
    rfl
  | mark here => exact IsSound.sent_mark here
  | notify here => exact countP_set_add here Caller.hasNotified (.returned true)
  | _ => rfl

/-- A notification that is sent at most once was sent if it is among the steps. -/
theorem Action.countP_eq_one_iff (once : actions.countP isNotify ≤ 1) :
    actions.countP isNotify = 1 ↔ ∃ k, notify k ∈ actions := by
  have any : 0 < actions.countP isNotify ↔ ∃ k, notify k ∈ actions := by
    rw [List.countP_pos_iff]
    constructor
    · rintro ⟨a, made, notifies⟩
      cases a with
      | notify k => exact ⟨k, made⟩
      | _ => exact absurd notifies (by simp [isNotify])
    · rintro ⟨k, made⟩
      exact ⟨_, made, rfl⟩
  rw [← any]
  omega

/-- What becomes of a **request to shut down**, after some steps. -/
structure Heard (actions : List Action) (s : Summons) : Prop where
  /-- However many calls there are, no more than one notification is sent. -/
  once : actions.countP Action.isNotify ≤ 1
  /-- The first call has returned exactly if it was sent. -/
  called : s.HasCalled ↔ ∃ k, Action.notify k ∈ actions
  /-- As soon as shutdown is marked as requested, it is sent or about to be. -/
  due : s.shutdown.requested = true → ¬ s.HasCalled →
    ∃ k t, Step s (.notify k) t ∧ t.HasCalled
  /-- Once it is sent, it is in exactly one place: kept as the permit, with the lookout of the turn,
  or used up by leaving the loop. -/
  somewhere : s.HasCalled → ∃! p, s.IsAt p
  /-- Before, there is none at any place, so the loop is not left. -/
  nowhere : ¬ s.HasCalled → ∀ p, ¬ s.IsAt p
  /-- Once it is sent, the lookout that looks next sees it, and the loop is left. -/
  heeded : s.HasCalled → ∀ t, Step s .look t → t.turn = .left
  /-- The loop can look, after it has begun a turn if it was between two of them. -/
  reached : s.HasCalled → s.turn ≠ .left →
    ∃ steps t, (steps = [.look] ∨ steps = [.begin, .look]) ∧ Run s steps t ∧ t.turn = .left
  /-- The loop is left for good. -/
  left : s.turn = .left → ∀ a t, Step s a t → t.turn = .left

/-- **A request to shut down is neither lost nor heard twice**, in every run. -/
theorem Run.heard (run : Run start actions s) : Heard actions s := by
  have sound := run.isSound
  have sent : s.sent = actions.countP Action.isNotify :=
    (run.countP_add (p := Action.isNotify) Step.sent_eq).trans (Nat.zero_add _)
  refine ⟨sent ▸ sound.sent_le_one, ?_, ?_, sound.existsUnique, sound.not_isAt,
    fun called t => sound.turn_of_look called, sound.exists_run_left,
    fun left a t step => step.left left⟩
  · rw [sound.hasCalled_iff, sent]
    exact Action.countP_eq_one_iff (sent ▸ sound.sent_le_one)
  · intro requested silent
    obtain ⟨k, here⟩ := sound.exists_first requested silent
    exact ⟨k, _, .notify here, List.mem_set (List.getElem?_eq_some_iff.mp here).1 _⟩

/-- Two calls at the same time, the first of which notifies while the lookout of the first turn
stands in the queue. The turn ends because of something else, and so does the second turn, whose
lookout has not even looked. -/
def race : List Action :=
  [.begin, .call, .call, .mark 1, .look, .mark 0, .notify 1, .give, .begin, .give, .begin, .look]

/-- What becomes of the request in that race: the lookout of the third turn sees it. -/
theorem heard_race :
    ∃ s, Run start race s ∧ Heard race s ∧ s.turn = .left ∧
      s.callers = [.returned false, .returned true] ∧
      s.shutdown = ⟨true, false, [.withdrawn, .withdrawn, .finished]⟩ := by
  have run : Run start race
      ⟨⟨true, false, [.withdrawn, .withdrawn, .finished]⟩, [.returned false, .returned true],
        .left⟩ :=
    .cons (.begin rfl) <| .cons .call <| .cons .call <| .cons (.mark rfl) <| .cons (.look rfl) <|
      .cons (.mark rfl) <| .cons (.notify rfl) <| .cons (.give rfl) <| .cons (.begin rfl) <|
      .cons (.give rfl) <| .cons (.begin rfl) <| .single (.look (k := 2) rfl)
  exact ⟨_, run, run.heard, rfl, rfl, rfl⟩

/-! ## What is done at once -/

/-- To **wait** is to begin a turn and look. -/
theorem exists_run_wait (turn : s.turn = .between) :
    ∃ t, Run s [.begin, .look] t ∧ t.shutdown = s.shutdown.wait := by
  have looks := Step.look (s := { s with
    shutdown := s.shutdown.enter, turn := .watching s.shutdown.lookouts.length }) rfl
  exact ⟨_, .cons (.begin turn) (.single looks), rfl⟩

/-- Nothing settles as long as no lookout was called. -/
theorem settle_of_not_mem {s : Shutdown} (h : Lookout.called ∉ s.lookouts) : s.settle = s := by
  have same : s.lookouts.map .settle = s.lookouts := by
    refine (List.map_congr_left fun l hl => ?_).trans (List.map_id _)
    cases l with
    | called => exact absurd hl h
    | _ => rfl
  rw [Shutdown.settle, same]

/-- A lookout of the turn that was called **settles** by looking. -/
theorem settle_of_lookout? (sound : s.IsSound) (turn : s.turn = .watching k)
    (called : s.shutdown.lookouts[k]? = some .called) : s.shutdown.settle = s.shutdown.look k := by
  have holds := sound.holds
  rw [turn] at holds
  obtain ⟨past, l, passed, -, rfl, last⟩ := holds.lookouts_eq
  obtain ⟨⟨requested, permit, lookouts⟩, callers, turn⟩ := s
  obtain rfl : lookouts = past ++ [l] := last
  obtain rfl : l = .called := by simpa using called
  have rest := settle_of_not_mem (s := ⟨requested, permit, past⟩)
    (Lookout.not_mem_of_isOver passed rfl)
  have past_eq : past.map .settle = past := congrArg Shutdown.lookouts rest
  rw [Shutdown.look_append, Shutdown.settle, List.map_append, past_eq]
  rfl

/-- The **first call** that is not interrupted notifies and moves nobody. -/
theorem exists_run_call (first : s.shutdown.requested = false) :
    ∃ steps, (∀ a ∈ steps, a.isCall = true) ∧ Run s steps
      { s with
        shutdown := s.shutdown.request.notify, callers := s.callers ++ [.returned true] } := by
  -- The call comes last among all calls.
  have last (c : Caller) : (s.callers ++ [c])[s.callers.length]? = some c := by simp
  have replaced (c d : Caller) : (s.callers ++ [c]).set s.callers.length d = s.callers ++ [d] := by
    simp
  have marks := Step.mark (s := { s with callers := s.callers ++ [.calling] }) (last _)
  simp only [advance, replaced, first] at marks
  have notifies := Step.notify (s := { s with
    shutdown := s.shutdown.request, callers := s.callers ++ [.first] }) (last _)
  simp only [advance, replaced] at notifies
  refine ⟨_, ?_, .cons .call (.cons marks (.single notifies))⟩
  simp [Action.isCall]

/-- The first **request** is a call that is not interrupted. If it calls the lookout of the turn,
that one looks at once. -/
theorem exists_run_trigger (sound : s.IsSound) (first : s.shutdown.requested = false) :
    ∃ steps t, Run s steps t ∧ t.shutdown = s.shutdown.trigger := by
  obtain ⟨steps, -, run⟩ := exists_run_call first
  have later := run.kept sound fun sound step => step.isSound sound
  rw [Shutdown.trigger, if_neg (by simp [first])]
  by_cases called : Lookout.called ∈ s.shutdown.request.notify.lookouts
  · obtain ⟨past, -, turn, lookouts⟩ := later.holds.fits.eq_watching called rfl
    have looks := Step.look (s := { s with
      shutdown := s.shutdown.request.notify, callers := s.callers ++ [.returned true] }) turn
    have there : s.shutdown.request.notify.lookouts[past.length]? = some .called := by
      rw [show s.shutdown.request.notify.lookouts = _ from lookouts, List.getElem?_concat_length]
    exact ⟨_, _, run.snoc looks, (settle_of_lookout? later turn there).symm⟩
  · exact ⟨_, _, run, (settle_of_not_mem called).symm⟩

end Summons

end StaticGzip.Server
