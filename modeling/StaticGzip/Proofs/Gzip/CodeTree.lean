import StaticGzip.Gzip.Huffman

/-! # Code trees read the words that they hold

A tree is built by putting in one word after another. If no word is the start of another one, each
word stays where it was put, and reading it leads to its symbol and not a bit further.

* **`Huffman.Apart`** — neither of two words is the start of the other.
* **`Huffman.Tree.follow?_insert_self`, `Huffman.Tree.follow?_insert_of_apart`** — the word that is
  put in is read, and so are those that are apart from it.
* **`Huffman.Tree.next?_ofWords`** — the tree of words that are apart reads each of them. -/

namespace StaticGzip.Gzip.Huffman

/-- Two words are **apart** if neither is the start of the other. -/
def Apart (v w : Bits) : Prop := ¬ v <+: w ∧ ¬ w <+: v

theorem Apart.symm {v w : Bits} (h : Apart v w) : Apart w v := ⟨h.2, h.1⟩

/-- Words with the same first bit are apart only after it. -/
theorem Apart.of_cons {b : Bool} {v w : Bits} (h : Apart (b :: v) (b :: w)) : Apart v w := by
  refine ⟨fun starts => h.1 ?_, fun starts => h.2 ?_⟩
  · exact (List.cons_prefix_cons).mpr ⟨rfl, starts⟩
  · exact (List.cons_prefix_cons).mpr ⟨rfl, starts⟩

namespace Tree

variable {t : Tree} {symbol other : Nat} {v w bits rest more : Bits}

/-! ## Reading a longer stream -/

/-- What follows a word does not matter. -/
theorem follow?_append (h : t.follow? bits = some (symbol, rest)) (more : Bits) :
    t.follow? (bits ++ more) = some (symbol, rest ++ more) := by
  fun_induction follow? t bits with
  | case1 s bits =>
    obtain ⟨rfl, rfl⟩ := Prod.mk.inj (Option.some.inj h)
    rw [follow?]
  | case2 zero one b bits ih => exact ih h
  | case3 => exact absurd h (by simp)

/-- At a word of at least one bit, the next symbol is the one that the word leads to. -/
theorem next?_of_follow? (nonempty : w ≠ []) (h : t.follow? w = some (symbol, [])) (more : Bits) :
    t.next? (w ++ more) = some (symbol, more) := by
  -- A word that leads on by its first bit starts at a node, where the next symbol is looked for.
  obtain ⟨b, w, rfl⟩ := List.exists_cons_of_ne_nil nonempty
  cases t with
  | empty => exact absurd h (by simp [follow?])
  | leaf s => exact absurd h (by simp [follow?])
  | node zero one =>
    have continued := follow?_append h more
    rw [List.nil_append] at continued
    exact continued

/-! ## Putting words in -/

/-- **The word that is put in** leads to its symbol. -/
theorem follow?_insert_self (symbol : Nat) (w : Bits) (t : Tree) :
    (t.insert symbol w).follow? w = some (symbol, []) := by
  induction w generalizing t with
  | nil => rfl
  | cons b w ih =>
    cases b with
    | false => exact ih _
    | true => exact ih _

/-- **Words apart** from the one that is put in lead where they led before. -/
theorem follow?_insert_of_apart (h : t.follow? v = some (other, [])) (apart : Apart v w) :
    (t.insert symbol w).follow? v = some (other, []) := by
  induction w generalizing t v with
  | nil => exact absurd (List.nil_prefix) apart.2
  | cons b w ih =>
    cases v with
    | nil => exact absurd (List.nil_prefix) apart.1
    | cons c v =>
      cases t with
      | empty => exact absurd h (by simp [follow?])
      | leaf s => exact absurd h (by simp [follow?])
      | node zero one =>
        -- Only on the side of the first bit of the new word does the tree change.
        by_cases same : c = b
        · subst same
          cases c with
          | false => exact ih h apart.of_cons
          | true => exact ih h apart.of_cons
        · cases b with
          | false =>
            rw [Bool.not_eq_false] at same
            subst same
            exact h
          | true =>
            rw [Bool.not_eq_true] at same
            subst same
            exact h

/-! ## All words of a code -/

/-- A word apart from all words that are still to be put in leads where it led before. -/
theorem follow?_ofWords_of_apart {first : Nat} {words : List Bits}
    (h : t.follow? v = some (other, [])) (apart : ∀ w ∈ words, w ≠ [] → Apart v w) :
    (ofWords first words t).follow? v = some (other, []) := by
  induction words generalizing first t with
  | nil => exact h
  | cons w words ih =>
    have later : ∀ w ∈ words, w ≠ [] → Apart v w :=
      fun w hw => apart w (List.mem_cons_of_mem _ hw)
    cases w with
    | nil => exact ih h later
    | cons b w =>
      refine ih ?_ later
      exact follow?_insert_of_apart h (apart (b :: w) List.mem_cons_self (by simp))

/-- Each word of a code leads to its symbol, if the words are apart. -/
theorem follow?_ofWords {first k : Nat} {words : List Bits}
    (apart : words.Pairwise fun v w => v ≠ [] → w ≠ [] → Apart v w)
    (hk : words[k]? = some w) (nonempty : w ≠ []) :
    (ofWords first words t).follow? w = some (first + k, []) := by
  induction words generalizing first k t with
  | nil => exact absurd hk (by simp)
  | cons word words ih =>
    obtain ⟨now, later⟩ := List.pairwise_cons.mp apart
    cases k with
    | zero =>
      rw [List.getElem?_cons_zero] at hk
      obtain rfl := Option.some.inj hk
      obtain ⟨b, w, rfl⟩ := List.exists_cons_of_ne_nil nonempty
      -- The word is put in now, and the later words do not disturb it.
      have put : ofWords first ((b :: w) :: words) t
          = ofWords (first + 1) words (t.insert first (b :: w)) := rfl
      rw [put]
      exact follow?_ofWords_of_apart (follow?_insert_self first (b :: w) t)
        fun v hv => now v hv nonempty
    | succ k =>
      rw [List.getElem?_cons_succ] at hk
      have shift : first + (k + 1) = first + 1 + k := by omega
      rw [shift]
      cases word with
      | nil => exact ih later hk
      | cons b word => exact ih later hk

/-- The tree of **words that are apart** reads each of them from the start of a stream. -/
theorem next?_ofWords {k : Nat} {words : List Bits}
    (apart : words.Pairwise fun v w => v ≠ [] → w ≠ [] → Apart v w)
    (hk : words[k]? = some w) (nonempty : w ≠ []) (more : Bits) :
    (ofWords 0 words empty).next? (w ++ more) = some (k, more) := by
  have reached : (ofWords 0 words empty).follow? w = some (0 + k, []) :=
    follow?_ofWords apart hk nonempty
  rw [Nat.zero_add] at reached
  exact next?_of_follow? nonempty reached more

end Tree

end StaticGzip.Gzip.Huffman
