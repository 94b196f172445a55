import StaticGzip.Decimal.Notation

/-! # Plain text

Numerals, and the addresses and times that are made of them, are written in letters, digits and a
few marks. Whatever marks the parts of a line is none of these characters.

* **`Text.Plain`** — a text of such characters.
* **`Text.plain_toDigits`, `Text.plain_ofNat`, `Decimal.plain_fixed`** — numerals are plain. -/

namespace StaticGzip

namespace Text

variable {s t : Text}

/-- Texts put together are made of characters **of one class** if all of them are. -/
theorem forall_mem_intercalate {p : Char → Prop} {separator : Text} (h : ∀ c ∈ separator, p c)
    {parts : List Text} (each : ∀ part ∈ parts, ∀ c ∈ part, p c) :
    ∀ c ∈ separator.intercalate parts, p c := by
  induction parts with
  | nil => exact List.forall_mem_nil _
  | cons first others ih =>
    obtain ⟨hf, ho⟩ := List.forall_mem_cons.mp each
    cases others with
    | nil => rwa [List.intercalate_singleton]
    | cons second others =>
      rw [List.intercalate_cons_cons, List.forall_mem_append, List.forall_mem_append]
      exact ⟨⟨hf, h⟩, ih ho⟩

/-- A **plain character**: a letter, a digit, or a mark that stands in addresses, numbers and
times. -/
def isPlainChar (c : Char) : Bool := c.isAlphanum || " +-./:".toList.contains c

/-- A text is **plain** if all its characters are. -/
def Plain (t : Text) : Prop := ∀ c ∈ t, isPlainChar c = true

instance (t : Text) : Decidable t.Plain :=
  List.decidableBAll (fun c : Char => isPlainChar c = true) t

@[simp] theorem plain_nil : Plain [] := List.forall_mem_nil _

@[simp] theorem plain_cons {c : Char} : Plain (c :: t) ↔ isPlainChar c = true ∧ Plain t :=
  List.forall_mem_cons

@[simp] theorem plain_append : Plain (s ++ t) ↔ Plain s ∧ Plain t := List.forall_mem_append

/-- What is no plain character **does not stand** in a plain text. -/
theorem Plain.not_mem (h : t.Plain) {c : Char} (other : isPlainChar c = false) : c ∉ t := by
  intro there
  rw [h c there] at other
  exact Bool.noConfusion other

theorem Plain.sublist (h : t.Plain) (part : List.Sublist s t) : s.Plain :=
  fun c hc => h c (part.subset hc)

theorem Plain.intercalate {separator : Text} (h : separator.Plain) {parts : List Text}
    (each : ∀ part ∈ parts, Plain part) : Plain (separator.intercalate parts) :=
  forall_mem_intercalate h each

theorem Plain.leftpad (h : t.Plain) {c : Char} (filling : isPlainChar c = true) (width : Nat) :
    Plain (t.leftpad width c) := by
  rw [List.leftpad, plain_append]
  refine ⟨fun d hd => ?_, h⟩
  rw [List.eq_of_mem_replicate hd]
  exact filling

/-! ## Numerals -/

theorem isPlainChar_digitChar : ∀ d < 16, isPlainChar (Nat.digitChar d) = true := by decide

/-- Numerals are plain, in every base **up to sixteen**. -/
theorem plain_toDigits {base : Nat} (low : 1 < base) (high : base ≤ 16) (n : Nat) :
    Plain (Nat.toDigits base n) := by
  induction n using Nat.strongRecOn with
  | ind n ih =>
    rw [Nat.toDigits_eq_if low]
    split
    · rename_i small
      simp [isPlainChar_digitChar n (by omega)]
    · rename_i large
      have fewer := ih (n / base) (Nat.div_lt_self (by omega) low)
      have digit : n % base < 16 := Nat.lt_of_lt_of_le (Nat.mod_lt n (by omega)) high
      simp [fewer, isPlainChar_digitChar _ digit]

@[simp] theorem plain_ofNat (n : Nat) : Plain (ofNat n) :=
  plain_toDigits (by decide) (by decide) n

@[simp] theorem plain_padded (width n : Nat) : Plain (padded width n) :=
  (plain_ofNat n).leftpad (by decide) width

end Text

namespace Decimal

open Text (Plain)

theorem plain_withPoint {digits : Text} (h : digits.Plain) (places : Nat) :
    (withPoint digits places).Plain := by
  unfold withPoint
  split
  · exact h
  · have padded := h.leftpad (by decide : Text.isPlainChar '0' = true) (places + 1)
    rw [Text.plain_append, Text.plain_cons]
    exact ⟨padded.sublist (List.take_sublist _ _), by decide,
      padded.sublist (List.drop_sublist _ _)⟩

/-- A number with a **fixed number of places** is plain, be it finite or not. -/
theorem plain_fixed (places : Nat) (x : Binary64) : (fixed places x).Plain := by
  cases x with
  | nan => exact (by decide : (display .nan).Plain)
  | infinite negative =>
    have words : ∀ negative, (display (.infinite negative)).Plain := by decide
    exact words negative
  | finite negative m e =>
    rw [fixed, Text.plain_append]
    refine ⟨by cases negative <;> decide, plain_withPoint (Text.plain_ofNat _) places⟩

end Decimal

end StaticGzip
