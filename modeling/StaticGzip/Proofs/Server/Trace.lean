/-! # Runs of a system

A system makes labelled steps, and a run is any number of them one after another. What one step
keeps, a run keeps; what one step adds to a number, a run adds up.

* **`Trace`** — the runs of a step relation, with their labels in order.
* **`Trace.kept`, `Trace.countP_add`** — from one step to a run.
* **`Trace.exists_step`, `Trace.exists_of_mem`** — from a run back to one step.
* **`countP_set_add`** — one member of a list changes, and a count changes by it alone. -/

namespace StaticGzip.Server

/-- A **run** of a step relation: steps one after another, with their labels. -/
inductive Trace {State Action : Type} (Step : State → Action → State → Prop) (s : State) :
    List Action → State → Prop where
  | nil : Trace Step s [] s
  | snoc {actions : List Action} {a : Action} {t u : State} (run : Trace Step s actions t)
      (step : Step t a u) : Trace Step s (actions ++ [a]) u

namespace Trace

variable {State Action : Type} {Step : State → Action → State → Prop} {s t u : State}
  {actions more : List Action} {a : Action}

/-- Runs after one another make a run. -/
theorem append (run : Trace Step s actions t) (rest : Trace Step t more u) :
    Trace Step s (actions ++ more) u := by
  induction rest with
  | nil => rwa [List.append_nil]
  | snoc _ last ih =>
    rw [← List.append_assoc]
    exact ih.snoc last

/-- A step before a run makes a run. -/
theorem cons (step : Step s a t) (rest : Trace Step t actions u) :
    Trace Step s (a :: actions) u :=
  (nil.snoc step).append rest

/-- One step is a run. -/
theorem single (step : Step s a t) : Trace Step s [a] t := nil.snoc step

/-- What holds at the start and is **kept by every step** holds at the end of every run. -/
theorem kept {P : State → Prop} (run : Trace Step s actions t) (start : P s)
    (step : ∀ {a t u}, P t → Step t a u → P u) : P t := by
  induction run with
  | nil => exact start
  | snoc _ last ih => exact step ih last

/-- What did not hold at the start but holds at the end was **brought about by some step**. -/
theorem exists_step {P : State → Prop} (run : Trace Step s actions t) (start : ¬ P s) (done : P t) :
    ∃ earlier a later u v, actions = earlier ++ a :: later ∧ Trace Step s earlier u ∧ ¬ P u ∧
      Step u a v ∧ P v ∧ Trace Step v later t := by
  induction run with
  | nil => exact absurd done start
  | @snoc actions a t u run last ih =>
    by_cases before : P t
    · obtain ⟨earlier, b, later, v, w, rfl, first, not, step, holds, rest⟩ := ih before
      exact ⟨earlier, b, later ++ [a], v, w, by simp, first, not, step, holds, rest.snoc last⟩
    · exact ⟨actions, a, [], t, u, rfl, run, before, last, done, .nil⟩

/-- **Every step of a run** is made from some state on the way. -/
theorem exists_of_mem (run : Trace Step s actions t) (made : a ∈ actions) :
    ∃ earlier later u v, actions = earlier ++ a :: later ∧ Trace Step s earlier u ∧ Step u a v ∧
      Trace Step v later t := by
  induction run with
  | nil => exact absurd made (by simp)
  | @snoc actions b t u run last ih =>
    rcases List.mem_append.mp made with made | made
    · obtain ⟨earlier, later, v, w, rfl, first, step, rest⟩ := ih made
      exact ⟨earlier, later ++ [b], v, w, by simp, first, step, rest.snoc last⟩
    · obtain rfl := List.mem_singleton.mp made
      exact ⟨actions, [], t, u, rfl, run, last, .nil⟩

/-- What each step **adds to a number** is added up by a run. -/
theorem countP_add {p : Action → Bool} {m : State → Nat} (run : Trace Step s actions t)
    (step : ∀ {a t u}, Step t a u → m u = m t + (p a).toNat) :
    m t = m s + actions.countP p := by
  induction run with
  | nil => rfl
  | @snoc actions a t u _ last ih =>
    rw [step last, ih, List.countP_append, List.countP_singleton, Nat.add_assoc]
    cases p a <;> rfl

end Trace

/-- Replacing **one member** of a list changes a count by the two members alone. -/
theorem countP_set_add {α : Type} {l : List α} {k : Nat} {v : α} (here : l[k]? = some v)
    (p : α → Bool) (v' : α) :
    (l.set k v').countP p + (p v).toNat = l.countP p + (p v').toNat := by
  obtain ⟨inside, rfl⟩ := List.getElem?_eq_some_iff.mp here
  have counted : p l[k] = true → 0 < l.countP p := fun h =>
    List.countP_pos_iff.mpr ⟨_, List.getElem_mem inside, h⟩
  rw [List.countP_set inside]
  cases old : p l[k] with
  | false => cases p v' <;> simp
  | true =>
    have := counted old
    cases p v' <;> simp <;> omega

end StaticGzip.Server
