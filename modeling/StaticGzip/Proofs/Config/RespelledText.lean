import StaticGzip.Proofs.Config.Numerals

/-! # Text that a variable gives

The text of a variable is taken for a truth value, a whole number or a floating-point number where
it is one, and a setting that is text writes that value out again. What comes back is the spelling
of the value and not always that of the variable.

* **`Environment.respelled`** — the text that comes back.
* **`Environment.Kept`** — the spellings that are those of their values.
* **`Environment.respelled_eq_iff`** — exactly these come back as they were.
* **`Environment.Kept.of_slash`** — a path with a slash in it is one of them. -/

namespace StaticGzip

/-! ## Slashes -/

namespace Text

/-- Lower case leaves the slashes of a text where they are. -/
theorem mem_lower_of_slash {t : Text} (h : '/' ∈ t) : '/' ∈ lower t := by
  suffices after : ∀ before, '/' ∈ lowerAfter before t from after []
  induction t with
  | nil => exact absurd h List.not_mem_nil
  | cons c t ih =>
    intro before
    rw [lowerAfter, List.mem_append]
    rcases List.mem_cons.mp h with rfl | h
    · exact .inl (List.mem_singleton_self _)
    · exact .inr (ih h _)

/-- No number is denoted by a text with a slash in it. -/
theorem not_denotes_of_slash {t : Text} (h : '/' ∈ t) (k : Int) : ¬ t.Denotes k := by
  have noNumeral {digits : Text} (there : '/' ∈ digits) : ¬ digits.IsNumeral := fun numeral =>
    absurd (numeral.2 _ there) (by decide)
  intro denotes
  cases denotes with
  | plain numeral => exact noNumeral h numeral
  | plus numeral => exact noNumeral (by simpa using h) numeral
  | minus numeral => exact noNumeral (by simpa using h) numeral

end Text

namespace Decimal

variable {t : Text}

/-- A sign is no slash. -/
theorem mem_splitSign_of_slash (h : '/' ∈ t) : '/' ∈ (splitSign t).2 := by
  rw [splitSign.eq_def]
  split <;> simp_all

/-- Slashes come after the digits. -/
theorem mem_splitDigits_of_slash (h : '/' ∈ t) : '/' ∈ (splitDigits t).2 := by
  have split : (splitDigits t).1 ++ (splitDigits t).2 = t := List.takeWhile_append_dropWhile
  rw [← split, List.mem_append] at h
  rcases h with digit | rest
  · exact absurd (List.mem_takeWhile_imp digit) (by decide)
  · exact rest

/-- A word for what is not finite has no slash in it. -/
theorem special?_of_slash (negative : Bool) (h : '/' ∈ t) : special? negative t = none := by
  have kept : '/' ∈ Text.lowerAscii t := List.mem_map.mpr ⟨_, h, by decide⟩
  have without : ∀ word ∈ specialWords, '/' ∉ word.toList := by decide
  refine special?_eq_none fun word known => ?_
  rintro rfl
  have none := without _ known
  rw [String.toList_ofList] at none
  exact none kept

/-- An exponent has no slash in it. -/
theorem exponent?_of_slash (h : '/' ∈ t) : exponent? t = none := by
  cases t with
  | nil => exact absurd h List.not_mem_nil
  | cons c t =>
    rw [exponent?]
    split
    · rename_i mark
      have rest : '/' ∈ t := by
        rcases List.mem_cons.mp h with rfl | rest
        · exact absurd mark (by decide)
        · exact rest
      have noDigits : (splitSign t).2.all Char.isDigit = false := by
        rw [List.all_eq_false]
        exact ⟨_, mem_splitSign_of_slash rest, by decide⟩
      simp only [noDigits, Bool.not_false, Bool.or_true, if_true]
    · rfl

/-- **No floating-point number** has a slash in it. -/
theorem ofText?_of_slash (h : '/' ∈ t) : ofText? t = none := by
  have unsigned := mem_splitSign_of_slash h
  rcases sign : splitSign t with ⟨negative, digits⟩
  rw [sign] at unsigned
  have afterWhole := mem_splitDigits_of_slash unsigned
  rcases cut : splitDigits digits with ⟨whole, rest⟩
  rw [cut] at afterWhole
  simp only [ofText?, sign, special?_of_slash negative unsigned, cut]
  -- The slash may come after a point, but never among the digits there.
  split
  · rename_i more
    have afterPlaces := mem_splitDigits_of_slash (t := more) (by simpa using afterWhole)
    rw [exponent?_of_slash afterPlaces, Option.map_none, ite_self]
  · rw [exponent?_of_slash afterWhole, Option.map_none, ite_self]

end Decimal

/-! ## What comes back -/

namespace Config.Environment

variable {s : String}

/-- The text that **comes back** from the text of a variable: its value, written out. -/
def respelled (s : String) : String :=
  match value s with
  | .boolean _ b => toString b
  | .integer _ n => toString n
  | .float _ x => String.ofList (Decimal.display x)
  | _ => s

/-- A value of a variable is the text that comes back, where text is wanted. -/
theorem string?_value (s : String) : (value s).string? = .ok (respelled s) := by
  rcases value_cases s with ⟨b, same⟩ | ⟨k, same, -, -⟩ | ⟨x, same⟩ | same <;>
    simp only [respelled, same, Value.string?]

/-- A text is **kept** if it is the spelling of whatever it is taken for: a word for truth or
falsehood in small letters, a whole number of 64 bits without a plus sign and without zeros in
front, or a floating-point number in its fewest digits without an exponent. -/
structure Kept (s : String) : Prop where
  truth (b : Bool) : Text.lowerString s = toString b → s = toString b
  whole (k : Int) : Text.Denotes s.toList k → Value.fitsSigned k = true → s = toString k
  nearest (x : Binary64) : Decimal.ofText? s.toList = some x →
    (∀ k, Text.Denotes s.toList k → Value.fitsSigned k = false) →
    s = String.ofList (Decimal.display x)

/-- A text with a **slash** in it is kept. -/
theorem Kept.of_slash (h : '/' ∈ s.toList) : Kept s where
  truth b word := by
    have kept : '/' ∈ (Text.lowerString s).toList := by
      rw [Text.lowerString, String.toList_ofList]
      exact Text.mem_lower_of_slash h
    rw [word] at kept
    cases b <;> exact absurd kept (by decide)
  whole k denotes := absurd denotes (Text.not_denotes_of_slash h k)
  nearest x read := by
    rw [Decimal.ofText?_of_slash h] at read
    cases read

/-- A word for truth or falsehood, in any case, is taken for it. -/
theorem value_of_word {b : Bool} (word : Text.lowerString s = toString b) :
    value s = .boolean origin b := by
  rw [value, word]
  cases b <;> rfl

/-- What is neither a word nor a number of 64 bits is taken for a **floating-point number** if it
is one, and for text otherwise. -/
theorem value_of_no_word (noWord : ∀ b : Bool, Text.lowerString s ≠ toString b)
    (noWhole : ∀ k, Text.Denotes s.toList k → Value.fitsSigned k = false) :
    value s = match Decimal.ofText? s.toList with
      | some x => .float origin x
      | none => .string origin s := by
  have noTrue : Text.lowerString s ≠ "true" := noWord true
  have noFalse : Text.lowerString s ≠ "false" := noWord false
  have unread : Value.integer? s.toList = none := by
    rw [Value.integer?, Option.filter_eq_none_iff]
    intro k read
    simp [noWhole k (Value.signed?_eq_some_iff.mp read)]
  cases read : Decimal.ofText? s.toList <;>
    simp only [value, if_neg noTrue, if_neg noFalse, unread, read]

/-- Exactly the texts that are kept **come back as they were**. -/
theorem respelled_eq_iff : respelled s = s ↔ Kept s := by
  constructor
  · intro same
    have truth (b : Bool) (word : Text.lowerString s = toString b) : s = toString b := by
      rw [respelled, value_of_word word] at same
      exact same.symm
    refine ⟨truth, fun k denotes fits => ?_, fun x read noWhole => ?_⟩
    · rw [respelled, value_of_denotes denotes, if_pos fits] at same
      exact same.symm
    · have noWord (b : Bool) : Text.lowerString s ≠ toString b := by
        -- No word in small letters is a number.
        intro word
        have unread : ∀ b : Bool, Decimal.ofText? (toString b).toList = none := by decide
        rw [truth b word, unread b] at read
        cases read
      rw [respelled, value_of_no_word noWord noWhole, read] at same
      exact same.symm
  · intro kept
    by_cases word : ∃ b : Bool, Text.lowerString s = toString b
    · obtain ⟨b, word⟩ := word
      rw [respelled, value_of_word word]
      exact (kept.truth b word).symm
    by_cases whole : ∃ k, Text.Denotes s.toList k ∧ Value.fitsSigned k = true
    · obtain ⟨k, denotes, fits⟩ := whole
      rw [respelled, value_of_denotes denotes, if_pos fits]
      exact (kept.whole k denotes fits).symm
    have noWhole (k : Int) (denotes : Text.Denotes s.toList k) : Value.fitsSigned k = false := by
      simpa using fun fits => whole ⟨k, denotes, fits⟩
    rw [respelled, value_of_no_word (not_exists.mp word) noWhole]
    cases read : Decimal.ofText? s.toList with
    | none => rfl
    | some x => exact (kept.nearest x read noWhole).symm

example : respelled "007" = "7" := by cbv

example : respelled "1.50" = "1.5" := by cbv

end Config.Environment

end StaticGzip
