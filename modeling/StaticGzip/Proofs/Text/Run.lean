import Mathlib.Data.List.TakeWhile
import StaticGzip.Text.Basic

/-! # Runs of characters

A run of characters of one class goes as far as it can: it ends at the first character of another
class, or with the text.

* **`Text.Ends`** — a text in front of which every run of a class ends.
* **`Text.takeWhile_append`, `Text.dropWhile_append`** — a run is taken, and what follows it is
  left.
* **`Text.before`, `Text.after?`** — a text cut at the first occurrence of a mark. -/

namespace StaticGzip.Text

variable {p : Char → Bool} {run rest : Text}

/-- A text in front of which a run of a class **ends**: it does not begin with a character of the
class. -/
def Ends (p : Char → Bool) (rest : Text) : Prop := ∀ c ∈ rest.head?, p c = false

@[simp] theorem ends_nil : Ends p [] := by simp [Ends]

@[simp] theorem ends_cons {c : Char} : Ends p (c :: rest) ↔ p c = false := by simp [Ends]

instance (p : Char → Bool) : (rest : Text) → Decidable (Ends p rest)
  | [] => .isTrue ends_nil
  | _ :: _ => decidable_of_iff _ ends_cons.symm

/-- What is left after a run does not continue it. -/
theorem ends_dropWhile (p : Char → Bool) (t : Text) : Ends p (t.dropWhile p) := by
  intro c first
  have left := List.head?_dropWhile_not p t
  rw [Option.mem_def.mp first] at left
  exact left

theorem Ends.takeWhile_eq (ends : Ends p rest) : rest.takeWhile p = [] := by
  cases rest with
  | nil => rfl
  | cons c rest => rw [List.takeWhile_cons, ends_cons.mp ends, if_neg Bool.false_ne_true]

theorem Ends.dropWhile_eq (ends : Ends p rest) : rest.dropWhile p = rest := by
  cases rest with
  | nil => rfl
  | cons c rest => rw [List.dropWhile_cons, ends_cons.mp ends, if_neg Bool.false_ne_true]

/-- A run is **taken** where it ends. -/
theorem takeWhile_append (h : ∀ c ∈ run, p c = true) (ends : Ends p rest) :
    (run ++ rest).takeWhile p = run := by
  rw [List.takeWhile_append_of_pos h, ends.takeWhile_eq, List.append_nil]

/-- What follows a run is **left**. -/
theorem dropWhile_append (h : ∀ c ∈ run, p c = true) (ends : Ends p rest) :
    (run ++ rest).dropWhile p = rest := by
  rw [List.dropWhile_append_of_pos h, ends.dropWhile_eq]

/-- A run is **dropped** with its length. -/
theorem drop_length_takeWhile (p : Char → Bool) (t : Text) :
    t.drop (t.takeWhile p).length = t.dropWhile p := by
  have whole : t.takeWhile p ++ t.dropWhile p = t := List.takeWhile_append_dropWhile
  calc t.drop (t.takeWhile p).length
      = (t.takeWhile p ++ t.dropWhile p).drop (t.takeWhile p).length := by rw [whole]
    _ = t.dropWhile p := List.drop_left

/-! ## Cutting -/

variable {mark : Char} {t : Text}

/-- The text **before the first** occurrence of a mark; all of it if there is none. -/
def before (mark : Char) (t : Text) : Text := t.takeWhile (· != mark)

/-- The text **after the first** occurrence of a mark, if there is one. -/
def after? (mark : Char) (t : Text) : Option Text := (t.dropWhile (· != mark)).tail?

theorem not_mem_before (mark : Char) (t : Text) : mark ∉ before mark t := by
  intro there
  have other := List.mem_takeWhile_imp there
  simp at other

theorem ne_of_not_mem (h : mark ∉ t) : ∀ c ∈ t, (c != mark) = true := by
  intro c there
  rw [bne_iff_ne]
  rintro rfl
  exact h there

/-- Without the mark there is nothing to cut. -/
theorem before_of_not_mem (h : mark ∉ t) : before mark t = t ∧ after? mark t = none := by
  have all := ne_of_not_mem h
  exact ⟨List.takeWhile_eq_self_iff.mpr all,
    by rw [after?, List.dropWhile_eq_nil_iff.mpr all]; rfl⟩

/-- A text is cut at the mark that **comes first**. -/
theorem before_append {start : Text} (h : mark ∉ start) (rest : Text) :
    before mark (start ++ mark :: rest) = start
      ∧ after? mark (start ++ mark :: rest) = some rest := by
  have all := ne_of_not_mem h
  have ends : Ends (· != mark) (mark :: rest) := ends_cons.mpr (by simp)
  rw [before, after?, takeWhile_append all ends, dropWhile_append all ends]
  exact ⟨rfl, rfl⟩

/-- A text has a mark and is cut there, or **has none**. -/
theorem eq_before_or (mark : Char) (t : Text) :
    mark ∉ t ∨ ∃ rest, t = before mark t ++ mark :: rest := by
  have whole : before mark t ++ t.dropWhile (· != mark) = t := List.takeWhile_append_dropWhile
  cases rest : t.dropWhile (· != mark) with
  | nil =>
    rw [rest, List.append_nil] at whole
    exact .inl (whole ▸ not_mem_before mark t)
  | cons c rest' =>
    have first := ends_dropWhile (· != mark) t c (by rw [rest]; rfl)
    obtain rfl : c = mark := by simpa using first
    exact .inr ⟨rest', by rw [← rest, whole]⟩

end StaticGzip.Text
