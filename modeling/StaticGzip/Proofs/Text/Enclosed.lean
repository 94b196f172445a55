import StaticGzip.Text.Reader

/-! # Text up to a closing mark

A string of JSON or of TOML is written character by character, each in a form of its own, up to a
closing quote. It is read form by form, and as much fuel as there are characters is enough.

* **`Text.read_flatMap_append`** — what is read of the forms is the text. -/

namespace StaticGzip.Text

variable {f : Char → Text}

/-- A reader that takes every form for its character, and stops at the mark, **reads the text
back**. -/
theorem read_flatMap_append {read : Nat → Text → Reader Text} {close : Char}
    (step : ∀ fuel backward c rest,
      read (fuel + 1) backward (f c ++ rest) = read fuel (c :: backward) rest)
    (stop : ∀ fuel backward rest,
      read (fuel + 1) backward (close :: rest) = some (backward.reverse, rest))
    {t : Text} {fuel : Nat} (enough : t.length < fuel) (backward rest : Text) :
    read fuel backward (t.flatMap f ++ close :: rest) = some (backward.reverse ++ t, rest) := by
  induction t generalizing fuel backward with
  | nil =>
    obtain ⟨fuel, rfl⟩ := Nat.exists_eq_succ_of_ne_zero (Nat.ne_zero_of_lt enough)
    rw [List.flatMap_nil, List.nil_append, stop, List.append_nil]
  | cons c t ih =>
    obtain ⟨fuel, rfl⟩ := Nat.exists_eq_succ_of_ne_zero (Nat.ne_zero_of_lt enough)
    rw [List.flatMap_cons, List.append_assoc, step, ih (Nat.lt_of_succ_lt_succ enough),
      List.reverse_cons, List.append_assoc, List.singleton_append]

/-- No text is longer than its characters **in their forms**. -/
theorem length_le_length_flatMap (some : ∀ c, f c ≠ []) (t : Text) :
    t.length ≤ (t.flatMap f).length := by
  induction t with
  | nil => exact Nat.le_refl _
  | cons c t ih =>
    have one : 1 ≤ (f c).length := List.length_pos_iff.mpr (some c)
    rw [List.flatMap_cons, List.length_append, List.length_cons, Nat.add_comm]
    exact Nat.add_le_add one ih

end StaticGzip.Text
