import StaticGzip.Proofs.Http.HeaderText
import StaticGzip.Proofs.Text.Plain

/-! # Control characters

A line is broken by control characters. Which of them a text has can be told from its characters or
from its bytes, since no other character has a byte that is one of them. Tabs break nothing.

* **`Text.NoControls`** — a text without any control character, as plain text is.
* **`Text.controls`, `Text.controlBytes`** — the control characters of a text that break lines, and
  their bytes.
* **`Text.controlBytes_eq_map`** — the bytes are those of the characters. -/

namespace StaticGzip

namespace Text

variable {s t : Text}

/-! ## Texts without control characters -/

/-- A text has **no control characters**: none comes before the blank. -/
def NoControls (t : Text) : Prop := ∀ c ∈ t, 32 ≤ c.toNat

instance (t : Text) : Decidable t.NoControls := List.decidableBAll (fun c : Char => 32 ≤ c.toNat) t

@[simp] theorem noControls_nil : NoControls [] := List.forall_mem_nil _

@[simp] theorem noControls_cons {c : Char} :
    NoControls (c :: t) ↔ 32 ≤ c.toNat ∧ NoControls t := List.forall_mem_cons

@[simp] theorem noControls_append : NoControls (s ++ t) ↔ NoControls s ∧ NoControls t :=
  List.forall_mem_append

theorem NoControls.intercalate {separator : Text} (h : separator.NoControls) {parts : List Text}
    (each : ∀ part ∈ parts, NoControls part) : NoControls (separator.intercalate parts) :=
  forall_mem_intercalate h each

/-- Letters and digits come **after the blank**. -/
theorem le_toNat_of_isAlphanum {c : Char} (h : c.isAlphanum = true) : 32 ≤ c.toNat := by
  have other : ∀ n : Fin 32, (Char.ofNat n.val).isAlphanum = false := by decide
  refine Nat.le_of_not_lt fun small => ?_
  have none := other ⟨c.toNat, small⟩
  rw [Char.ofNat_toNat, h] at none
  exact Bool.noConfusion none

/-- Plain text has **no control characters**. -/
theorem Plain.noControls (h : t.Plain) : t.NoControls := by
  intro c there
  have marks : NoControls " +-./:".toList := by decide
  have plain := h c there
  rw [isPlainChar, Bool.or_eq_true, List.contains_iff_mem] at plain
  rcases plain with letter | mark
  · exact le_toNat_of_isAlphanum letter
  · exact marks c mark

@[simp] theorem noControls_ofNat (n : Nat) : NoControls (ofNat n) := (plain_ofNat n).noControls

/-! ## Control characters of a text -/

/-- A **control character** that breaks lines: any but the tab. -/
def isControl (c : Char) : Bool := decide (c.toNat < 32) && c != '\t'

/-- The **control characters** of a text, in order. -/
def controls (t : Text) : Text := t.filter isControl

@[simp] theorem controls_nil : controls [] = [] := rfl

@[simp] theorem controls_append (s t : Text) : controls (s ++ t) = controls s ++ controls t :=
  List.filter_append ..

theorem controls_cons_of_le {c : Char} (h : 32 ≤ c.toNat) (t : Text) :
    controls (c :: t) = controls t :=
  List.filter_cons_of_neg (by simp [isControl, Nat.not_lt.mpr h])

theorem NoControls.controls_eq (h : t.NoControls) : controls t = [] := by
  rw [controls, List.filter_eq_nil_iff]
  intro c hc
  simp [isControl, Nat.not_lt.mpr (h c hc)]

/-! ### Bytes -/

/-- A **control byte** that breaks lines: any but the tab. -/
def isControlByte (b : UInt8) : Bool := decide (b < 32) && b != 9

/-- The **control bytes** of a text, in order. -/
def controlBytes (t : Text) : Bytes := (Http.Response.utf8 t).filter isControlByte

theorem isControlByte_ofNat {c : Char} (h : c.toNat ≤ 127) :
    isControlByte (UInt8.ofNat c.toNat) = isControl c := by
  have ascii : ∀ n : Fin 128, isControlByte (UInt8.ofNat n.val)
      = (decide (n.val < 32) && decide (n.val ≠ 9)) := by decide
  have tab : (c != '\t') = decide (c.toNat ≠ 9) := by
    rw [Bool.eq_iff_iff, bne_iff_ne, decide_eq_true_eq, ne_eq, ne_eq, ← Char.toNat_inj]
    rfl
  rw [ascii ⟨c.toNat, by omega⟩, isControl, tab]

/-- The control bytes of a text are those of its **control characters**, one each. -/
theorem controlBytes_eq_map (t : Text) :
    controlBytes t = (controls t).map fun c => UInt8.ofNat c.toNat := by
  induction t with
  | nil => rfl
  | cons c t ih =>
    have split : controlBytes (c :: t)
        = (String.utf8EncodeChar c).filter isControlByte ++ controlBytes t := by
      rw [controlBytes, Http.Response.utf8, List.flatMap_cons, List.filter_append]
      rfl
    rw [split, ih]
    by_cases ascii : c.toNat ≤ 127
    · rw [Http.utf8EncodeChar_of_ascii ascii, controls, controls, List.filter_cons,
        List.filter_cons, isControlByte_ofNat ascii]
      split <;> rfl
    -- Beyond ASCII neither the character nor any of its bytes is one.
    · have none : (String.utf8EncodeChar c).filter isControlByte = [] := by
        rw [List.filter_eq_nil_iff]
        intro b hb
        have large := Http.le_toNat_of_mem_utf8EncodeChar ascii hb
        have notBelow : ¬ b < 32 := by
          rw [UInt8.lt_iff_toNat_lt]
          exact Nat.not_lt.mpr (Nat.le_trans (by decide) large)
        simp [isControlByte, notBelow]
      rw [none, List.nil_append, controls_cons_of_le (by omega)]

/-- A text without control characters has no control bytes. -/
theorem controlBytes_eq_nil (h : controls t = []) : controlBytes t = [] := by
  rw [controlBytes_eq_map, h, List.map_nil]

/-- A text has the control bytes of another if it has its control characters. -/
theorem controlBytes_congr (same : controls s = controls t) : controlBytes s = controlBytes t := by
  rw [controlBytes_eq_map, controlBytes_eq_map, same]

end Text

end StaticGzip
