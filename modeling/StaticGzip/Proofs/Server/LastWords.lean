import StaticGzip.Proofs.Server.Service

/-! # What the loop says

As long as it is not left, the loop speaks of connections only. Then it says that shutdown was
requested, it warns if it finds the drain overdue, and its last words are that the server has
stopped. What it has said never changes, it only grows. So at any time what the loop is doing tells
how its log ends.

* **`Admission`** — the events that speak of connections.
* **`Duty.lastWords`, `Duty.Told`** — how the log of the loop ends.
* **`Service.Run.told`** — in every run.
* **`Duty.Told.count_stoppedEvent`, `Duty.Told.getLast?_eq`, `Duty.Told.hasWarned_iff`** — when the
  log has the end of the server, that it comes last, and when it has the warning. -/

namespace StaticGzip.Server

/-! ## Events of connections -/

/-- What the loop says about **connections**: one was accepted, or rejected, or there was none
because the listener has failed. -/
inductive Admission : Event → Prop where
  | accepted (peer : SocketAddress) : Admission (Logger.accepted peer)
  | rejected (before limit : UInt64) (peer : SocketAddress) :
    Admission (Session.rejected before limit peer)
  | failed (shown : String) : Admission (Logger.acceptFailed shown)

namespace Admission

variable {e : Event}

/-- None of them tells of the end of the server. -/
theorem ne_stoppedEvent (h : Admission e) : e ≠ Session.stoppedEvent := by
  refine ne_of_apply_ne Event.level ?_
  cases h <;> exact Level.noConfusion

/-- None of them is the warning that connections are left. -/
theorem ne_drainedTooLong (h : Admission e) (active deadline : UInt64) :
    e ≠ Session.drainedTooLong active deadline := by
  cases h with
  | accepted peer => exact ne_of_apply_ne Event.level Level.noConfusion
  | failed shown => exact ne_of_apply_ne Event.level Level.noConfusion
  | rejected before limit peer =>
    -- Both are warnings, but only one of them ends with a full stop.
    have dot : (toString " rejected.").toList.getLast? = some '.' := by decide
    have letter : (toString " second drain, closing").toList.getLast? = some 'g' := by decide
    refine ne_of_apply_ne (·.message.toList.getLast?) ?_
    simp [Session.rejected, Session.drainedTooLong, Event.warning, dot, letter]

end Admission

/-! ## Last words -/

namespace Duty

/-- The **last words** of the loop as far as it has come, if there were `n` connections when it was
left and `m` when it warned. -/
def lastWords (lifetime : UInt64) (n : Nat) (m : UInt64) : Duty → List Event
  | listening | taken _ | failed _ | accepting _ | rejecting _ _ _ => []
  | closing | draining _ _ | overdue _ => [Logger.shutdownRequested n]
  | warned _ => [Logger.shutdownRequested n, Session.drainedTooLong m lifetime]
  | stopped none => [Logger.shutdownRequested n, Session.stoppedEvent]
  | stopped (some _) =>
    [Logger.shutdownRequested n, Session.drainedTooLong m lifetime, Session.stoppedEvent]

/-- The loop **has told** what it has to by now: about connections, and then its last words. -/
def Told (d : Duty) (lifetime : UInt64) (own : List Event) : Prop :=
  ∃ admissions n m, (∀ e ∈ admissions, Admission e) ∧
    own = admissions ++ d.lastWords lifetime n m

namespace Told

variable {d : Duty} {lifetime : UInt64} {own : List Event} {e : Event}

/-- The loop may speak of one more connection, as long as it has no last words. -/
theorem admission (told : d.Told lifetime own) (silent : ∀ n m, d.lastWords lifetime n m = [])
    (h : Admission e) : listening.Told lifetime (own ++ [e]) := by
  obtain ⟨admissions, n, m, all, rfl⟩ := told
  refine ⟨admissions ++ [e], n, m, ?_, ?_⟩
  · intro e' he'
    rcases List.mem_append.mp he' with he' | he'
    · exact all e' he'
    · rwa [List.mem_singleton.mp he']
  · rw [silent, List.append_nil, lastWords, List.append_nil]

/-- When it is left, the loop says so. -/
theorem leave (told : listening.Told lifetime own) (active : Nat) :
    closing.Told lifetime (own ++ [Logger.shutdownRequested active]) := by
  obtain ⟨admissions, n, m, all, rfl⟩ := told
  exact ⟨admissions, active, m, all, by simp [lastWords]⟩

/-- It warns if the drain is overdue. -/
theorem warn {since : Nat} (told : (overdue since).Told lifetime own) (active : UInt64) :
    (warned since).Told lifetime (own ++ [Session.drainedTooLong active lifetime]) := by
  obtain ⟨admissions, n, m, all, rfl⟩ := told
  exact ⟨admissions, n, active, all, by simp [lastWords]⟩

/-- It stops after its drain. -/
theorem stop {k since : Nat} (told : (draining k since).Told lifetime own) :
    (stopped none).Told lifetime (own ++ [Session.stoppedEvent]) := by
  obtain ⟨admissions, n, m, all, rfl⟩ := told
  exact ⟨admissions, n, m, all, by simp [lastWords]⟩

/-- It stops after its warning. -/
theorem stopLate {since : Nat} (told : (warned since).Told lifetime own) :
    (stopped (some since)).Told lifetime (own ++ [Session.stoppedEvent]) := by
  obtain ⟨admissions, n, m, all, rfl⟩ := told
  exact ⟨admissions, n, m, all, by simp [lastWords]⟩

/-- The end of the server is told **once**, and only if the loop has stopped. -/
theorem count_stoppedEvent (told : d.Told lifetime own) :
    own.count Session.stoppedEvent = d.isStopped.toNat := by
  obtain ⟨admissions, n, m, all, rfl⟩ := told
  have none : admissions.count Session.stoppedEvent = 0 :=
    List.count_eq_zero.mpr fun h => (all _ h).ne_stoppedEvent rfl
  have requested : Logger.shutdownRequested n ≠ Session.stoppedEvent := by
    refine ne_of_apply_ne Event.target ?_
    show Event.lifecycle ≠ Event.serverLoop
    decide
  have warning : Session.drainedTooLong m lifetime ≠ Session.stoppedEvent :=
    ne_of_apply_ne Event.level Level.noConfusion
  rw [List.count_append, none, Nat.zero_add]
  cases d with
  | stopped late => cases late <;> simp [lastWords, isStopped, requested, warning]
  | _ => simp [lastWords, isStopped, requested, warning]

/-- The end of the server is told **last**. -/
theorem getLast?_eq (told : d.Told lifetime own) (stopped : d.isStopped = true) :
    own.getLast? = some Session.stoppedEvent := by
  obtain ⟨admissions, n, m, -, rfl⟩ := told
  cases d with
  | stopped late => cases late <;> simp [lastWords]
  | _ => exact absurd stopped (by simp [isStopped])

/-- The loop **warns** only if the drain was overdue, and it does so before it stops. -/
theorem hasWarned_iff (told : d.Told lifetime own) :
    (∃ active deadline, Session.drainedTooLong active deadline ∈ own) ↔
      ∃ since, d = warned since ∨ d = stopped (some since) := by
  obtain ⟨admissions, n, m, all, rfl⟩ := told
  have requested (active deadline) :
      Session.drainedTooLong active deadline ≠ Logger.shutdownRequested n :=
    ne_of_apply_ne Event.level Level.noConfusion
  have ended (active deadline) : Session.drainedTooLong active deadline ≠ Session.stoppedEvent :=
    ne_of_apply_ne Event.level Level.noConfusion
  have last (active deadline) :
      Session.drainedTooLong active deadline ∈ admissions ++ d.lastWords lifetime n m ↔
        Session.drainedTooLong active deadline ∈ d.lastWords lifetime n m := by
    rw [List.mem_append, or_iff_right]
    exact fun h => (all _ h).ne_drainedTooLong active deadline rfl
  simp only [last]
  cases d with
  | warned since =>
    refine iff_of_true ⟨m, lifetime, ?_⟩ ⟨since, .inl rfl⟩
    simp [lastWords]
  | stopped late =>
    cases late with
    | some since =>
      refine iff_of_true ⟨m, lifetime, ?_⟩ ⟨since, .inr rfl⟩
      simp [lastWords]
    | none => simp [lastWords, requested, ended]
  | _ => simp [lastWords, requested]

end Told

end Duty

/-! ## Every run -/

namespace Service

variable {s t : Service} {a : Action} {actions : List Action} {limits : PerformanceSettings}

/-- The limits never change. -/
theorem Step.limits_eq (step : Step s a t) : t.traffic.limits = s.traffic.limits := by
  rcases step.traffic_cases with ⟨-, same⟩ | ⟨b, -, step⟩
  · rw [same]
  · exact step.limits_eq

/-- **Every step** leaves the loop with what it has to have told. -/
theorem Step.told (step : Step s a t) (told : s.duty.Told s.lifetime s.own) :
    t.duty.Told t.lifetime t.own := by
  have same : t.lifetime = s.lifetime := congrArg PerformanceSettings.lifetime step.limits_eq
  rw [same]
  cases step with
  | take duty | fail duty | count duty | exceed duty | drain duty | expire duty =>
    exact (duty ▸ told :)
  | report duty =>
    rw [duty] at told
    rw [own_say_loop]
    exact told.admission (fun _ _ => rfl) (.failed _)
  | accept duty =>
    rw [duty] at told
    rw [own_say_loop]
    exact told.admission (fun _ _ => rfl) (.accepted _)
  | reject duty =>
    rw [duty] at told
    rw [own_say_loop]
    exact told.admission (fun _ _ => rfl) (.rejected _ _ _)
  | serve | finish =>
    rw [own_say_task]
    exact told
  | leave duty =>
    rw [duty] at told
    rw [own_say_loop]
    exact told.leave _
  | warn duty =>
    rw [duty] at told
    rw [own_say_loop]
    exact told.warn _
  | stop duty =>
    rw [duty] at told
    rw [own_say_loop]
    exact told.stop
  | stopLate duty =>
    rw [duty] at told
    rw [own_say_loop]
    exact told.stopLate
  | _ => exact told

/-- **Every run** leaves the loop with what it has to have told. -/
theorem Run.told (run : Run (start limits) actions s) : s.duty.Told s.lifetime s.own :=
  run.kept (P := fun s => s.duty.Told s.lifetime s.own) ⟨[], 0, 0, by simp, rfl⟩
    fun told step => step.told told

/-- **After the loop has stopped** it does and says nothing more, whatever the others do. -/
theorem Step.of_isStopped (step : Step s a t) (stopped : s.duty.isStopped = true) :
    t.duty = s.duty ∧ t.own = s.own := by
  cases step with
  | serve | finish => exact ⟨rfl, own_say_task _ _⟩
  | call | release | wake | wait | tick => exact ⟨rfl, rfl⟩
  -- All the others are steps of the loop, which makes them only before it stops.
  | turn duty | take duty | fail duty | report duty | count duty | accept duty | exceed duty
  | reject duty | leave duty | drain duty | expire duty | warn duty | stop duty | stopLate duty =>
    exact absurd stopped (by simp [duty, Duty.isStopped])

/-- A run that begins after the loop has stopped leaves what it was doing and what it has said. -/
theorem Run.of_isStopped (run : Run s actions t) (stopped : s.duty.isStopped = true) :
    t.duty = s.duty ∧ t.own = s.own := by
  refine run.kept (P := fun t => t.duty = s.duty ∧ t.own = s.own) ⟨rfl, rfl⟩ ?_
  rintro a t u ⟨duty, own⟩ step
  obtain ⟨duty', own'⟩ := step.of_isStopped (duty ▸ stopped)
  exact ⟨duty'.trans duty, own'.trans own⟩

end Service

end StaticGzip.Server
