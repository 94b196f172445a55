/-! # Faults

A step of the program that does not succeed either ends with an error, which the program can report
or make up for, or it panics, and then the program ends there.

* **`Fault`** — an error or a panic.
* **`Fault.orPanic`** — the value of something that must be there. -/

namespace StaticGzip

/-- What goes wrong in a step: an **error** or a **panic**. -/
inductive Fault (ε : Type) where
  | error (e : ε)
  | panic
deriving DecidableEq, Repr

namespace Fault

variable {ε δ α : Type}

/-- A fault with its error in other words. -/
def map (f : ε → δ) : Fault ε → Fault δ
  | error e => error (f e)
  | panic => panic

/-- A value that **must be there**; it is a panic if it is not. -/
def orPanic : Option α → Except (Fault ε) α
  | some a => .ok a
  | none => .error .panic

/-- Other words do not make a panic of an error. -/
@[simp] theorem map_eq_panic_iff {f : ε → δ} {fault : Fault ε} :
    fault.map f = panic ↔ fault = panic := by
  cases fault <;> simp [map]

@[simp] theorem orPanic_some (a : α) : orPanic (some a) = (.ok a : Except (Fault ε) α) := rfl

@[simp] theorem orPanic_none : orPanic none = (.error .panic : Except (Fault ε) α) := rfl

/-- It is a panic exactly if the value is **not there**. -/
@[simp] theorem orPanic_eq_panic_iff {a : Option α} :
    orPanic a = (.error .panic : Except (Fault ε) α) ↔ a = none := by
  cases a <;> simp

/-- What is there succeeds. -/
@[simp] theorem orPanic_eq_ok_iff {x : Option α} {a : α} :
    orPanic x = (.ok a : Except (Fault ε) α) ↔ x = some a := by
  cases x <;> simp

end Fault

end StaticGzip
