import StaticGzip.Http.Response

/-! # Texts as header values

A header value is bytes, and most values are made from texts. Which texts may stand in a value is a
matter of their characters: the encoding makes no control byte of a character that is none. A
number in a value is read back as that number.

* **`Http.all_isValueByte_utf8_iff`** — the texts that may stand in a value.
* **`Http.readable?_utf8`** — a printable text is read back from its bytes.
* **`Text.decimal?_ofNat`** — a number is read back from its decimal numeral. -/

namespace StaticGzip

/-! ## Numerals -/

namespace Text

/-- Reading the digits of a numeral, after some of them have given a number. -/
def readDigits (n : Nat) (t : Text) : Option Nat :=
  t.foldlM (fun n c => (digit? c).map (10 * n + ·)) n

theorem readDigits_append (n : Nat) (s t : Text) :
    readDigits n (s ++ t) = (readDigits n s).bind fun m => readDigits m t := by
  simp [readDigits, List.foldlM_append]

/-- A digit is read as its value. -/
theorem digit?_digitChar {d : Nat} (h : d < 10) : digit? d.digitChar = some d := by
  have all : ∀ d : Fin 10, digit? d.val.digitChar = some d.val := by decide
  exact all ⟨d, h⟩

/-- One more digit makes ten times the number, and the digit. -/
theorem readDigits_digitChar (n : Nat) {d : Nat} (h : d < 10) :
    readDigits n [d.digitChar] = some (10 * n + d) := by
  simp [readDigits, digit?_digitChar h]

/-- The digits of a number are read as the number. -/
theorem readDigits_ofNat (n : Nat) : readDigits 0 (ofNat n) = some n := by
  induction n using Nat.strongRecOn with
  | ind n ih =>
    rw [ofNat, Nat.toDigits_eq_if (by decide)]
    split
    · rename_i small
      rw [readDigits_digitChar 0 small, Nat.mul_zero, Nat.zero_add]
    -- The last digit is read after all others.
    · rename_i large
      have fewer := ih (n / 10) (by omega)
      rw [ofNat] at fewer
      rw [readDigits_append, fewer, Option.bind_some,
        readDigits_digitChar _ (Nat.mod_lt n (by decide)), Nat.div_add_mod]

/-- A number is **read back** from its decimal numeral. -/
theorem decimal?_ofNat (n : Nat) : decimal? (ofNat n) = some n := by
  have some : (ofNat n).isEmpty = false := by simp [ofNat, Nat.toDigits_ne_nil]
  rw [decimal?, some]
  exact readDigits_ofNat n

end Text

namespace Http

/-! ## Characters and bytes -/

/-- A character that may stand in a header value: a tab, or one that is no control character. -/
def IsValueChar (c : Char) : Prop := c = '\t' ∨ 32 ≤ c.toNat ∧ c.toNat ≠ 127

/-- A text that **may stand in a header value**. -/
def IsValueText (t : Text) : Prop := ∀ c ∈ t, IsValueChar c

/-- A byte beyond ASCII may stand in a value. -/
theorem isValueByte_of_le {b : UInt8} (h : 128 ≤ b.toNat) : isValueByte b = true := by
  have large : (32 : UInt8) ≤ b := UInt8.le_iff_toNat_le.mpr (Nat.le_trans (by decide) h)
  have other : b ≠ 127 := by
    rintro rfl
    exact absurd h (by decide)
  simp [isValueByte, large, other]

/-- The byte of an ASCII character may stand in a value exactly if the character may. -/
theorem isValueByte_ofNat_iff {c : Char} (h : c.toNat ≤ 127) :
    isValueByte (UInt8.ofNat c.toNat) = true ↔ IsValueChar c := by
  have tab : c = '\t' ↔ c.toNat = 9 := by
    rw [← Char.toNat_inj]
    rfl
  have ascii : ∀ n : Fin 128,
      isValueByte (UInt8.ofNat n.val) = true ↔ n.val = 9 ∨ 32 ≤ n.val ∧ n.val ≠ 127 := by decide
  rw [IsValueChar, tab]
  exact ascii ⟨c.toNat, by omega⟩

/-- An ASCII character is encoded as one byte. -/
theorem utf8EncodeChar_of_ascii {c : Char} (h : c.toNat ≤ 127) :
    String.utf8EncodeChar c = [UInt8.ofNat c.toNat] := by
  rw [String.utf8EncodeChar]
  exact if_pos h

/-- **No byte** of any other character is an ASCII one. -/
theorem le_toNat_of_mem_utf8EncodeChar {c : Char} {b : UInt8} (h : ¬ c.toNat ≤ 127)
    (hb : b ∈ String.utf8EncodeChar c) : 128 ≤ b.toNat := by
  have beyond : ¬ c.val.toNat ≤ 127 := h
  rw [String.utf8EncodeChar] at hb
  simp only [if_neg beyond] at hb
  split at hb
  · simp only [List.mem_cons, List.not_mem_nil, or_false] at hb
    rcases hb with rfl | rfl <;> rw [UInt8.toNat_ofNat'] <;> omega
  split at hb
  · simp only [List.mem_cons, List.not_mem_nil, or_false] at hb
    rcases hb with rfl | rfl | rfl <;> rw [UInt8.toNat_ofNat'] <;> omega
  · simp only [List.mem_cons, List.not_mem_nil, or_false] at hb
    rcases hb with rfl | rfl | rfl | rfl <;> rw [UInt8.toNat_ofNat'] <;> omega

/-- The bytes of a character may stand in a value **exactly if the character may**. -/
theorem all_isValueByte_utf8EncodeChar_iff (c : Char) :
    (String.utf8EncodeChar c).all isValueByte = true ↔ IsValueChar c := by
  by_cases ascii : c.toNat ≤ 127
  · rw [utf8EncodeChar_of_ascii ascii, List.all_cons, List.all_nil, Bool.and_true]
    exact isValueByte_ofNat_iff ascii
  · have bytes : (String.utf8EncodeChar c).all isValueByte = true := by
      rw [List.all_eq_true]
      exact fun b hb => isValueByte_of_le (le_toNat_of_mem_utf8EncodeChar ascii hb)
    exact iff_of_true bytes (.inr (by omega))

/-- The texts that **may stand in a value** are those without control characters, tabs apart. -/
theorem all_isValueByte_utf8_iff (t : Text) :
    (Response.utf8 t).all isValueByte = true ↔ IsValueText t := by
  rw [Response.utf8, List.all_flatMap, List.all_eq_true]
  exact forall₂_congr fun c _ => all_isValueByte_utf8EncodeChar_iff c

/-! ## Reading values -/

/-- A printable ASCII character: a blank, or a mark that can be seen. -/
def IsPrintableAscii (c : Char) : Prop := 32 ≤ c.toNat ∧ c.toNat < 127

/-- ASCII text has one byte for each character. -/
theorem utf8_of_ascii {t : Text} (h : ∀ c ∈ t, c.toNat ≤ 127) :
    Response.utf8 t = t.map fun c => UInt8.ofNat c.toNat := by
  induction t with
  | nil => rfl
  | cons c t ih =>
    have rest := ih fun d hd => h d (List.mem_cons_of_mem _ hd)
    rw [Response.utf8] at rest
    rw [Response.utf8, List.flatMap_cons, utf8EncodeChar_of_ascii (h c List.mem_cons_self), rest]
    rfl

/-- A printable text is **read back** from its bytes. -/
theorem readable?_utf8 {t : Text} (printable : ∀ c ∈ t, IsPrintableAscii c) :
    readable? (Response.utf8 t) = some t := by
  have toNat : ∀ c ∈ t, (UInt8.ofNat c.toNat).toNat = c.toNat := by
    intro c hc
    have := printable c hc
    rw [IsPrintableAscii] at this
    rw [UInt8.toNat_ofNat', Nat.mod_eq_of_lt (by omega)]
  have bytes : Response.utf8 t = t.map fun c => UInt8.ofNat c.toNat :=
    utf8_of_ascii fun c hc => Nat.le_of_lt_succ (Nat.lt_succ_of_lt (printable c hc).2)
  have legal : (Response.utf8 t).all isReadableByte = true := by
    rw [bytes, List.all_map, List.all_eq_true]
    intro c hc
    have ascii := printable c hc
    simp [isReadableByte, UInt8.le_iff_toNat_le, UInt8.lt_iff_toNat_lt, toNat c hc, ascii.1,
      ascii.2]
  have back : (Response.utf8 t).map (fun b => Char.ofNat b.toNat) = t := by
    rw [bytes, List.map_map]
    refine (List.map_congr_left fun c hc => ?_).trans (List.map_id t)
    simp [toNat c hc, Char.ofNat_toNat]
  rw [readable?, if_pos legal, back]

/-- A number is **read back** from the bytes of its numeral. -/
theorem decimal?_readable?_ofNat (n : Nat) :
    (readable? (Response.utf8 (Text.ofNat n))).bind Text.decimal? = some n := by
  have printable : ∀ c ∈ Text.ofNat n, IsPrintableAscii c := by
    intro c hc
    have digit := Nat.isDigit_of_mem_toDigits (by decide) (by decide) hc
    rw [Char.isDigit_iff_toNat] at digit
    exact ⟨Nat.le_trans (by decide) digit.1, Nat.lt_of_le_of_lt digit.2 (by decide)⟩
  rw [readable?_utf8 printable, Option.bind_some, Text.decimal?_ofNat]

end Http

end StaticGzip
