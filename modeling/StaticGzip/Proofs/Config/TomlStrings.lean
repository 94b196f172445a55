import Mathlib.Tactic.ByContra
import StaticGzip.Config.Toml.Document
import StaticGzip.Proofs.Text.Enclosed

/-! # Strings of the TOML language

Every text can be written as a string: between quotes, with the characters that cannot stand there
by their numbers. A document may also spell it in other ways. Whatever the spelling, a document of
one assignment is read as that text.

* **`Toml.quoted`** — a text between quotes.
* **`Toml.string?_quoted`** — it is read back, whatever characters are in it.
* **`Toml.document?_of_string?`** — a document that assigns a string to one key. -/

namespace StaticGzip.Config.Toml

/-! ## Between quotes -/

/-- Whether a character stands between quotes **as it is**. -/
def standsInQuotes (c : Char) : Bool := isLineChar c && c != '"' && c != '\\'

/-- The form of a character between quotes: the character, or its number in hexadecimal. -/
def written (c : Char) : Text :=
  if standsInQuotes c then [c] else '\\' :: 'u' :: (Nat.toDigits 16 c.toNat).leftpad 4 '0'

/-- A text **between quotes**. -/
def quoted (t : Text) : Text := '"' :: (t.flatMap written ++ ['"'])

/-- Only characters of seven bits do not stand between quotes. -/
theorem toNat_lt_of_not_standsInQuotes {c : Char} (h : standsInQuotes c = false) :
    c.toNat < 128 := by
  by_contra large
  have line : isLineChar c = true := by
    simp only [isLineChar, Bool.or_eq_true, Bool.and_eq_true, decide_eq_true_eq, bne_iff_ne]
    omega
  have apart {d : Char} (small : d.toNat < 128) : (c != d) = true := by
    rw [bne_iff_ne]
    rintro rfl
    exact large small
  rw [standsInQuotes, line, apart (by decide), apart (by decide)] at h
  exact Bool.noConfusion h

/-- A character of seven bits is read from its **four digits**. -/
theorem escape?_number {c : Char} (h : c.toNat < 128) (rest : Text) :
    escape? ('u' :: ((Nat.toDigits 16 c.toNat).leftpad 4 '0' ++ rest)) = some (c, rest) := by
  have digits : ∀ n : Fin 128, ((Nat.toDigits 16 n.val).leftpad 4 '0').length = 4 ∧
      codePoint? ((Nat.toDigits 16 n.val).leftpad 4 '0') = some (Char.ofNat n.val) := by decide
  obtain ⟨four, character⟩ := digits ⟨c.toNat, h⟩
  have enough : ¬ ((Nat.toDigits 16 c.toNat).leftpad 4 '0' ++ rest).length < 4 := by
    rw [List.length_append, four]
    omega
  rw [escape?, if_neg enough, List.take_left' four, List.drop_left' four, character,
    Char.ofNat_toNat]
  rfl

/-- A character between quotes is **read back** from its form. -/
theorem basic?_written_append (fuel : Nat) (backward : Text) (c : Char) (rest : Text) :
    basic? (fuel + 1) backward (written c ++ rest) = basic? fuel (c :: backward) rest := by
  cases stands : standsInQuotes c with
  | true =>
    obtain ⟨⟨line, quote⟩, backslash⟩ :
        (isLineChar c = true ∧ c ≠ '"') ∧ c ≠ '\\' := by
      simpa [standsInQuotes] using stands
    rw [written, if_pos stands, List.singleton_append, basic?.eq_def]
    simp only [line, if_true]
  | false =>
    have read := escape?_number (toNat_lt_of_not_standsInQuotes stands) rest
    rw [written, stands, if_neg Bool.false_ne_true, List.cons_append, List.cons_append, basic?]
    simp only [read, Option.bind_eq_bind, Option.bind_some]

theorem written_ne_nil (c : Char) : written c ≠ [] := by
  unfold written
  split <;> simp

/-- The form of a character does not begin with a quote. -/
theorem head?_written_append_ne (c : Char) (rest : Text) :
    (written c ++ rest).head? ≠ some '"' := by
  cases stands : standsInQuotes c with
  | true =>
    have quote : c ≠ '"' := by
      rintro rfl
      exact absurd stands (by decide)
    simpa [written, stands] using quote
  | false => simp [written, stands]

/-- A quote that no other quote follows begins a string **on one line**. -/
theorem string?_of_head?_ne {t : Text} (h : t.head? ≠ some '"') :
    string? ('"' :: t) = lineString? ('"' :: t) := by
  rw [string?.eq_def]
  split <;> simp_all

/-- Every text is **read back** from between quotes. -/
theorem string?_quoted (t : Text) : string? (quoted t) = some (t, []) := by
  have line : lineString? (quoted t) = some (t, []) := by
    have enough := Text.length_le_length_flatMap written_ne_nil t
    rw [quoted, lineString?, Text.read_flatMap_append basic?_written_append fun _ _ _ => rfl]
    · rfl
    · rw [List.length_append]
      omega
  cases t with
  | nil => rfl
  | cons c t =>
    rw [← line]
    refine string?_of_head?_ne ?_
    rw [List.flatMap_cons, List.append_assoc]
    exact head?_written_append_ne c _

/-! ## Documents of one assignment -/

variable {t s spelling rest : Text}

/-- A string begins with a **quote** of one kind or the other. -/
theorem exists_quote_of_string? (h : string? spelling = some (s, rest)) :
    ∃ more, spelling = '"' :: more ∨ spelling = '\'' :: more := by
  rw [string?.eq_def] at h
  split at h
  · exact ⟨_, .inl rfl⟩
  · exact ⟨_, .inr rfl⟩
  · rw [lineString?.eq_def] at h
    split at h
    · exact ⟨_, .inl rfl⟩
    · exact ⟨_, .inr rfl⟩
    · cases h

/-- A value that is a string is read as one, however it is spelled. -/
theorem value?_of_string? (h : string? spelling = some (s, rest)) (depth : Nat) :
    value? depth spelling = some (.scalar (.string s), rest) := by
  obtain ⟨more, rfl | rfl⟩ := exists_quote_of_string? h <;>
    cases depth <;> simp [value?, scalar?, h]

/-- A line that begins as a key without quotes is an **assignment**. -/
theorem line?_of_isBareKeyChar {d : Draft} {c : Char} (h : isBareKeyChar c = true) (t : Text) :
    line? d (c :: t) = assignment? d (c :: t) := by
  have apart {e : Char} (other : isBareKeyChar e = false) : c ≠ e := by
    rintro rfl
    exact Bool.noConfusion (other.symm.trans h)
  have space : c ≠ ' ' := apart (by decide)
  have tab : c ≠ '\t' := apart (by decide)
  have blank : isBlank c = false := by simp [isBlank, space, tab]
  have bracket : c ≠ '[' := apart (by decide)
  have mark : c ≠ '#' := apart (by decide)
  have feed : c ≠ '\n' := apart (by decide)
  have turn : c ≠ '\r' := apart (by decide)
  have stay : (c :: t).dropWhile isBlank = c :: t := by simp [blank]
  have noComment : skipComment (c :: t) = c :: t := by
    rw [skipComment.eq_def]
    split <;> simp_all
  have noEnd : lineEnd? (c :: t) = none := by
    rw [lineEnd?, stay, noComment]
    dsimp only
    rw [newline?.eq_def]
    split <;> simp_all
  rw [line?, stay]
  split <;> simp_all

/-- A document of **one assignment** of a string is read as the string under its key, however the
string is spelled. -/
theorem document?_of_string? {c : Char} (bare : isBareKeyChar c = true) {parts : List Text}
    (key : key? (c :: t) = some (parts, '=' :: ' ' :: spelling))
    (string : string? spelling = some (s, [])) :
    document? (c :: t) = Node.assign? (splitLast parts).1 (splitLast parts).2
      (.scalar (.string s)) .header [] := by
  have noMark : c ≠ byteOrderMark := by
    rintro rfl
    exact absurd bare (by decide)
  obtain ⟨more, quote⟩ := exists_quote_of_string? string
  have stay : (' ' :: spelling).dropWhile isBlank = spelling := by
    rcases quote with rfl | rfl <;> rfl
  have pair : pair? (value? maxDepth) (c :: t) = some ((parts, .scalar (.string s)), []) := by
    simp only [pair?, key, Option.bind_eq_bind, Option.bind_some, Reader.skip?, if_pos, stay,
      value?_of_string? string]
  have whole : document? (c :: t)
      = (line? ⟨[], []⟩ (c :: t)).bind fun p => lines? t.length p.1 p.2 := by
    simp only [document?, if_neg noMark]
    rfl
  rw [whole, line?_of_isBareKeyChar bare, assignment?, pair]
  have lineEnd : lineEnd? [] = some [] := rfl
  simp only [Option.bind_eq_bind, Option.bind_some, lineEnd, Node.descend]
  cases Node.assign? (splitLast parts).1 (splitLast parts).2 (.scalar (.string s)) .header [] with
  | none => rfl
  | some root => cases t.length <;> rfl

end StaticGzip.Config.Toml
