import StaticGzip.Fault

/-! # Results that may be errors

What is known of steps that succeed when all of them together do, and of the step that fails when
they do not. Steps may also panic, and none of several steps does if each of them is safe.

* **`bind_eq_ok_iff`, `bind_eq_error_iff`** — one step after another.
* **`mapError_eq_ok_iff`, `mapError_eq_error_iff`** — a step whose error is reported in other words.
* **`exists_of_mapM_ok`** — the same step for each of some things.
* **`Safe`** — a step that does not panic, with what comes of it, and **`Safe.bind`, `Safe.mapM`,
  `Safe.foldlM`**, several such steps. -/

namespace StaticGzip

variable {ε δ α β : Type}

/-- Two steps in a row succeed exactly if the first one does, and the second one with its result. -/
theorem bind_eq_ok_iff {x : Except ε α} {f : α → Except ε β} {b : β} :
    (x >>= f) = .ok b ↔ ∃ a, x = .ok a ∧ f a = .ok b := by
  cases x <;> simp [bind, Except.bind]

/-- Two steps in a row fail exactly if the first one does, or if it succeeds and the second one
fails with its result. -/
theorem bind_eq_error_iff {x : Except ε α} {f : α → Except ε β} {e : ε} :
    (x >>= f) = .error e ↔ x = .error e ∨ ∃ a, x = .ok a ∧ f a = .error e := by
  cases x <;> simp [bind, Except.bind]

@[simp] theorem mapError_ok (f : ε → δ) (a : α) :
    (Except.ok a : Except ε α).mapError f = .ok a := rfl

@[simp] theorem mapError_error (f : ε → δ) (e : ε) :
    (Except.error e : Except ε α).mapError f = .error (f e) := rfl

/-- An error that is reported further out is still an error. -/
theorem mapError_eq_ok_iff {x : Except ε α} {f : ε → δ} {a : α} :
    x.mapError f = .ok a ↔ x = .ok a := by
  cases x <;> simp

/-- What is reported further out is an error that arose further in. -/
theorem mapError_eq_error_iff {x : Except ε α} {f : ε → δ} {d : δ} :
    x.mapError f = .error d ↔ ∃ e, x = .error e ∧ f e = d := by
  cases x <;> simp

/-- If a step succeeds for all of some things, everything that comes of it comes of **one of the
things**. -/
theorem exists_of_mapM_ok {f : α → Except ε β} {as : List α} {bs : List β}
    (h : as.mapM f = .ok bs) : ∀ b ∈ bs, ∃ a, f a = .ok b := by
  induction as generalizing bs with
  | nil =>
    cases h
    exact fun b there => absurd there List.not_mem_nil
  | cons a as ih =>
    rw [List.mapM_cons] at h
    obtain ⟨b, first, h⟩ := bind_eq_ok_iff.mp h
    obtain ⟨others, rest, h⟩ := bind_eq_ok_iff.mp h
    cases h
    exact List.forall_mem_cons.mpr ⟨⟨a, first⟩, ih rest⟩

/-! ## Steps that do not panic -/

/-- A step is **safe**: it does not panic, though it may fail, and what comes of it is as it should
be. -/
inductive Safe (P : α → Prop) : Except (Fault ε) α → Prop where
  | ok {a : α} (h : P a) : Safe P (.ok a)
  | error (e : ε) : Safe P (.error (.error e))

namespace Safe

variable {P : α → Prop} {Q : β → Prop} {x : Except (Fault ε) α}

theorem ne_panic (h : Safe P x) : x ≠ .error .panic := by
  cases h <;> exact nofun

theorem of_ne_panic (h : x ≠ .error .panic) : Safe (fun _ => True) x := by
  match x with
  | .ok a => exact .ok trivial
  | .error (.error e) => exact .error e
  | .error .panic => exact absurd rfl h

theorem mono {P' : α → Prop} (h : Safe P x) (weaker : ∀ a, P a → P' a) : Safe P' x := by
  cases h with
  | ok h => exact .ok (weaker _ h)
  | error e => exact .error e

/-- Two safe steps in a row are **safe**. -/
theorem bind {f : α → Except (Fault ε) β} (first : Safe P x) (second : ∀ a, P a → Safe Q (f a)) :
    Safe Q (x >>= f) := by
  cases first with
  | ok h => exact second _ h
  | error e => exact .error e

/-- What comes of a safe step may be **changed**. -/
theorem map {f : α → β} (h : Safe P x) (kept : ∀ a, P a → Q (f a)) : Safe Q (x.map f) := by
  cases h with
  | ok h => exact .ok (kept _ h)
  | error e => exact .error e

/-- Errors of a safe step may be reported **in other words**. -/
theorem mapError {f : ε → δ} (h : Safe P x) : Safe P (x.mapError (.map f)) := by
  cases h with
  | ok h => exact .ok h
  | error e => exact .error (f e)

/-- The same step for each of some things is safe if it is **for each of them**. -/
theorem mapM {f : α → Except (Fault ε) β} {as : List α} (h : ∀ a ∈ as, Safe Q (f a)) :
    Safe (fun bs => ∀ b ∈ bs, Q b) (as.mapM f) := by
  induction as with
  | nil => exact .ok nofun
  | cons a as ih =>
    obtain ⟨first, rest⟩ := List.forall_mem_cons.mp h
    rw [List.mapM_cons]
    refine first.bind fun b hb => (ih rest).bind fun bs hbs => ?_
    exact .ok (List.forall_mem_cons.mpr ⟨hb, hbs⟩)

/-- What every step **keeps**, as it takes one thing after another, holds when all are taken. -/
theorem foldlM {f : β → α → Except (Fault ε) β} (I : List α → β → Prop)
    (step : ∀ a rest b, I (a :: rest) b → Safe (I rest) (f b a)) {as : List α} {b : β}
    (start : I as b) : Safe (I []) (as.foldlM f b) := by
  induction as generalizing b with
  | nil => exact .ok start
  | cons a as ih =>
    rw [List.foldlM_cons]
    exact (step a as b start).bind fun _ kept => ih kept

end Safe

end StaticGzip
