import StaticGzip.Proofs.Config.Numerals

/-! # The decimal numeral of a number

A number has one decimal numeral without zeros in front.

* **`Text.digitsValue_ofNat`** — the digits of the numeral have the value of the number.
* **`Text.head?_ofNat_ne`** — no zero stands in front of other digits. -/

namespace StaticGzip.Text

theorem isNumeral_ofNat (n : Nat) : IsNumeral (ofNat n) :=
  (decimal?_eq_some_iff.mp (decimal?_ofNat n)).1

/-- The digits of a numeral have the **value of the number**. -/
@[simp] theorem digitsValue_ofNat (n : Nat) : Decimal.digitsValue (ofNat n) = n :=
  (decimal?_eq_some_iff.mp (decimal?_ofNat n)).2

/-- A numeral begins with a digit. -/
theorem exists_ofNat_eq_cons (n : Nat) : ∃ c more, ofNat n = c :: more ∧ c.isDigit = true := by
  obtain ⟨ne, digits⟩ := isNumeral_ofNat n
  obtain ⟨c, more, split⟩ := List.exists_cons_of_ne_nil ne
  exact ⟨c, more, split, digits c (by rw [split]; exact List.mem_cons_self)⟩

/-- The numeral of a number other than zero has **no zero in front**. -/
theorem head?_ofNat_ne {n : Nat} (h : n ≠ 0) : (ofNat n).head? ≠ some '0' := by
  induction n using Nat.strongRecOn with
  | ind n ih =>
    rw [ofNat, Nat.toDigits_eq_if (by decide)]
    split
    · rename_i small
      have digits : ∀ d : Fin 10, d.val ≠ 0 → [d.val.digitChar].head? ≠ some '0' := by decide
      exact digits ⟨n, small⟩ h
    · rename_i large
      have shorter := ih (n / 10) (by omega) (by omega)
      obtain ⟨c, more, split, -⟩ := exists_ofNat_eq_cons (n / 10)
      rw [ofNat] at shorter split
      rw [split] at shorter ⊢
      exact shorter

end StaticGzip.Text
