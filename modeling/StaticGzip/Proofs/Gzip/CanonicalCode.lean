import Mathlib.Algebra.GroupWithZero.Nat
import StaticGzip.Gzip.Bits.RoundTrip
import StaticGzip.Proofs.Gzip.CodeTree

/-! # Canonical codes are read back

The words of a canonical code follow from their lengths: words of one length count upwards, and the
first word of the next length begins where they end. If the lengths leave room, no word is the start
of another one, so the tree of the code reads every word that the code writes.

* **`Huffman.nextFree`** — the number after the last word of a length.
* **`Huffman.nextFree_mul_eq`, `Huffman.nextFree_le`** — it is the room that the words up to that
  length take up, and feasible lengths leave it below the next power of two.
* **`Huffman.pairwise_apart_words`** — the words of a feasible code are apart.
* **`Huffman.Tree.next?_word`** — the tree of a code reads each of its words. -/

namespace StaticGzip.Gzip

/-! ## Numbers written in two parts -/

/-- A number in two parts: its low bits, and the quotient. -/
theorem Bits.ofNat_add (low high n : Nat) :
    ofNat (low + high) n = ofNat low n ++ ofNat high (n / 2 ^ low) := by
  induction low generalizing n with
  | zero => simp [ofNat]
  | succ low ih =>
    rw [Nat.succ_add, ofNat, ofNat, ih, Nat.div_div_eq_div_mul, Nat.pow_succ',
      List.cons_append]

namespace Huffman

variable {lengths : List Nat}

@[simp] theorem length_wordBits (length n : Nat) : (wordBits length n).length = length := by
  simp [wordBits]

/-- A word in two parts: the quotient, and the low bits. -/
theorem wordBits_add (low high n : Nat) :
    wordBits (low + high) n = wordBits high (n / 2 ^ low) ++ wordBits low n := by
  rw [wordBits, Bits.ofNat_add, List.reverse_append]
  rfl

/-- Words of one length tell numbers apart that fit into them. -/
theorem wordBits_inj {length m n : Nat} (hm : m < 2 ^ length) (hn : n < 2 ^ length)
    (h : wordBits length m = wordBits length n) : m = n := by
  -- A number that fits is read back from its bits.
  have written := congrArg Bits.toNat (List.reverse_inj.mp h)
  rw [Bits.toNat_ofNat, Bits.toNat_ofNat, Nat.mod_eq_of_lt hm, Nat.mod_eq_of_lt hn] at written
  exact written

/-- A word is the start of a longer one only if its number is that of the longer one's upper
bits. -/
theorem eq_div_of_starts {length low m n : Nat} (hm : m < 2 ^ length)
    (hn : n < 2 ^ (low + length)) (h : wordBits length m <+: wordBits (low + length) n) :
    m = n / 2 ^ low := by
  obtain ⟨rest, whole⟩ := h
  rw [wordBits_add] at whole
  -- The first part of the longer word is its upper bits.
  obtain ⟨same, -⟩ := List.append_inj whole (by simp)
  have upper : n / 2 ^ low < 2 ^ length := by
    rw [Nat.div_lt_iff_lt_mul (Nat.two_pow_pos low), ← Nat.pow_add, Nat.add_comm]
    exact hn
  exact wordBits_inj hm upper same

/-- Two words are **apart** if the shorter one's number is not that of the longer one's upper
bits. -/
theorem apart_wordBits {length low m n : Nat} (hm : m < 2 ^ length) (hn : n < 2 ^ (low + length))
    (ne : m ≠ n / 2 ^ low) : Apart (wordBits length m) (wordBits (low + length) n) := by
  refine ⟨fun starts => ne (eq_div_of_starts hm hn starts), fun starts => ?_⟩
  have shorter := starts.length_le
  rw [length_wordBits, length_wordBits] at shorter
  obtain rfl : low = 0 := by omega
  have same : wordBits (0 + length) n = wordBits length m := starts.eq_of_length (by simp)
  exact ne (eq_div_of_starts hm hn (same ▸ List.prefix_refl _))

/-! ## The numbers of the words -/

/-- The **next free number** after the words of a length. -/
def nextFree (lengths : List Nat) (length : Nat) : Nat :=
  firstWord lengths length + count lengths length

/-- The first word of the next length begins at the next free number. -/
theorem firstWord_succ (lengths : List Nat) (length : Nat) :
    firstWord lengths (length + 1) = 2 * nextFree lengths length := rfl

/-- Longer words begin after the shorter ones. -/
theorem nextFree_mul_le_firstWord (lengths : List Nat) (length more : Nat) :
    nextFree lengths length * 2 ^ (more + 1) ≤ firstWord lengths (length + more + 1) := by
  induction more with
  | zero =>
    rw [firstWord_succ]
    omega
  | succ more ih =>
    -- From one length to the next the first number at least doubles.
    have grows : firstWord lengths (length + more + 1) ≤ nextFree lengths (length + more + 1) :=
      Nat.le_add_right _ _
    rw [← Nat.add_assoc, firstWord_succ, Nat.pow_succ, ← Nat.mul_assoc]
    omega

/-- The number of a symbol's word: those of the same length before it come first. -/
def wordNumber (lengths : List Nat) (length k : Nat) : Nat :=
  firstWord lengths length + (lengths.take k).count length

/-- Earlier symbols of a length are fewer than those up to a later symbol. -/
theorem count_take_lt {length k : Nat} (hk : lengths[k]? = some length) :
    (lengths.take k).count length < (lengths.take (k + 1)).count length := by
  obtain ⟨inside, rfl⟩ := List.getElem?_eq_some_iff.mp hk
  rw [List.take_succ_eq_append_getElem inside, List.count_append, List.count_singleton_self]
  exact Nat.lt_succ_self _

/-- More symbols have at least as many of a length. -/
theorem count_take_le (length : Nat) {j k : Nat} (h : j ≤ k) :
    (lengths.take j).count length ≤ (lengths.take k).count length :=
  (List.take_sublist_take_left h).count_le length

/-- Words of one length count upwards. -/
theorem wordNumber_lt_wordNumber {length j k : Nat} (hj : lengths[j]? = some length)
    (h : j < k) : wordNumber lengths length j < wordNumber lengths length k :=
  Nat.add_lt_add_left (Nat.lt_of_lt_of_le (count_take_lt hj) (count_take_le length h)) _

/-- The number of a word lies before the next free one. -/
theorem wordNumber_lt_nextFree {length k : Nat} (used : length ≠ 0)
    (hk : lengths[k]? = some length) : wordNumber lengths length k < nextFree lengths length := by
  refine Nat.add_lt_add_left ?_ _
  rw [count, if_neg used]
  -- The symbol itself is one of those of its length.
  refine Nat.lt_of_lt_of_le (count_take_lt hk) ?_
  exact (List.take_sublist _ _).count_le length

/-! ## The room that the words take up -/

/-- The room of a word among the longest ones, if it is used and no longer than a given length. -/
def room (length n : Nat) : Nat := if n ≠ 0 ∧ n ≤ length then 2 ^ (maxLength - n) else 0

/-- One length more adds the room of the words of that length. -/
theorem room_succ (length n : Nat) :
    room (length + 1) n
      = room length n + if n = length + 1 then 2 ^ (maxLength - (length + 1)) else 0 := by
  unfold room
  by_cases here : n = length + 1
  · have new : n ≠ 0 ∧ n ≤ length + 1 := by omega
    have old : ¬ (n ≠ 0 ∧ n ≤ length) := by omega
    rw [if_pos new, if_neg old, if_pos here, here, Nat.zero_add]
  · have same : (n ≠ 0 ∧ n ≤ length + 1) ↔ (n ≠ 0 ∧ n ≤ length) := by omega
    simp only [same, if_neg here, Nat.add_zero]

/-- The room of all words up to one length more. -/
theorem sum_room_succ (lengths : List Nat) (length : Nat) :
    (lengths.map (room (length + 1))).sum
      = (lengths.map (room length)).sum
        + lengths.count (length + 1) * 2 ^ (maxLength - (length + 1)) := by
  induction lengths with
  | nil => simp
  | cons n lengths ih =>
    rw [List.map_cons, List.sum_cons, ih, room_succ, List.map_cons, List.sum_cons,
      List.count_cons]
    by_cases here : n = length + 1
    · simp only [here, if_true, beq_self_eq_true, Nat.add_mul, Nat.one_mul]
      omega
    · simp only [here, if_false, beq_iff_eq, Nat.add_zero]
      omega

/-- **The next free number** is the room that the words up to its length take up. -/
theorem nextFree_mul_eq {length : Nat} (h : length ≤ maxLength) :
    nextFree lengths length * 2 ^ (maxLength - length) = (lengths.map (room length)).sum := by
  induction length with
  | zero =>
    have none : room 0 = fun _ => 0 := by
      funext n
      exact if_neg (by omega)
    rw [none, nextFree, firstWord, count, if_pos rfl, List.map_const']
    simp
  | succ length ih =>
    -- A word of one bit more takes up half the room.
    have half : 2 ^ (maxLength - length) = 2 * 2 ^ (maxLength - (length + 1)) := by
      have longer : maxLength - length = maxLength - (length + 1) + 1 := by omega
      rw [longer, Nat.pow_succ']
    rw [sum_room_succ, ← ih (by omega), nextFree, firstWord_succ, count,
      if_neg (Nat.succ_ne_zero length), Nat.add_mul, half]
    congr 1
    rw [Nat.mul_comm 2, Nat.mul_assoc]

/-- The room of the words up to a length is no more than that of all words. -/
theorem sum_room_le_sum_share (lengths : List Nat) (length : Nat) :
    (lengths.map (room length)).sum
      ≤ lengths.foldr ((fun n => if n = 0 then 0 else 1 <<< (maxLength - n)) · + ·) 0 := by
  induction lengths with
  | nil => exact Nat.le_refl 0
  | cons n lengths ih =>
    rw [List.map_cons, List.sum_cons, List.foldr_cons]
    refine Nat.add_le_add ?_ ih
    unfold room
    by_cases used : n = 0
    · rw [if_neg (by simp [used])]
      exact Nat.zero_le _
    · simp only [if_neg used, Nat.one_shiftLeft]
      split
      · exact Nat.le_refl _
      · exact Nat.zero_le _

/-- In a feasible code no length is too long. -/
theorem le_maxLength_of_isFeasible (feasible : isFeasible lengths = true) {n : Nat}
    (h : n ∈ lengths) : n ≤ maxLength := by
  simp only [isFeasible, Bool.and_eq_true, List.all_eq_true, decide_eq_true_eq] at feasible
  exact feasible.1 n h

/-- **Feasible lengths** leave the next free number within the words of its length. -/
theorem nextFree_le (feasible : isFeasible lengths = true) {length : Nat}
    (h : length ≤ maxLength) : nextFree lengths length ≤ 2 ^ length := by
  have room : (lengths.map (room length)).sum ≤ 2 ^ maxLength := by
    refine Nat.le_trans (sum_room_le_sum_share lengths length) ?_
    simp only [isFeasible, Bool.and_eq_true, decide_eq_true_eq, Nat.one_shiftLeft] at feasible
    simpa only [Nat.one_shiftLeft] using feasible.2
  -- Counted in words of the length itself, all the room is a power of two.
  have whole : 2 ^ maxLength = 2 ^ length * 2 ^ (maxLength - length) := by
    rw [← Nat.pow_add, Nat.add_sub_cancel' h]
  rw [← nextFree_mul_eq h, whole] at room
  exact Nat.le_of_mul_le_mul_right room (Nat.two_pow_pos _)

/-! ## The words of a code -/

@[simp] theorem length_wordsFrom (next : Array Nat) (lengths : List Nat) :
    (wordsFrom next lengths).length = lengths.length := by
  fun_induction wordsFrom next lengths with
  | case1 => rfl
  | case2 next lengths ih => rw [List.length_cons, List.length_cons, ih]
  | case3 next length lengths _ n ih => rw [List.length_cons, List.length_cons, ih]

/-- The next free word of a length after a word of some length was given away. -/
theorem getD_setIfInBounds {next : Array Nat} {m : Nat} (h : m < next.size) (n value : Nat) :
    (next.setIfInBounds m value).getD n 0 = if m = n then value else next.getD n 0 := by
  by_cases same : m = n
  · subst same
    simp [h]
  · simp [Array.getElem?_setIfInBounds_ne same, same]

/-- A word is the next free one of its length, after those given to earlier symbols. -/
theorem getElem?_wordsFrom {next : Array Nat} {n k : Nat} (bound : ∀ m ∈ lengths, m < next.size)
    (hk : lengths[k]? = some n) :
    (wordsFrom next lengths)[k]?
      = some (wordBits n (next.getD n 0 + (lengths.take k).count n)) := by
  induction lengths generalizing next k with
  | nil => exact absurd hk (by simp)
  | cons m lengths ih =>
    have later : ∀ m ∈ lengths, m < next.size := fun m hm => bound m (List.mem_cons_of_mem _ hm)
    cases k with
    | zero =>
      rw [List.getElem?_cons_zero] at hk
      obtain rfl := Option.some.inj hk
      cases m with
      | zero => rfl
      | succ m => rfl
    | succ k =>
      rw [List.getElem?_cons_succ] at hk
      rw [List.take_succ_cons, List.count_cons]
      cases m with
      | zero =>
        rw [wordsFrom, List.getElem?_cons_succ, ih later hk]
        by_cases unused : n = 0
        · subst unused
          rfl
        · have other : ¬ (0 == n) = true := fun same => unused (eq_of_beq same).symm
          rw [if_neg other, Nat.add_zero]
      | succ m =>
        -- The first symbol takes the next free word of its length; later ones find the next.
        have free := bound (m + 1) List.mem_cons_self
        simp only [wordsFrom, List.getElem?_cons_succ]
        rw [ih (by simpa using later) hk, getD_setIfInBounds free]
        by_cases same : m + 1 = n
        · subst same
          simp only [if_true, beq_self_eq_true]
          rw [Nat.add_assoc, Nat.add_comm 1]
        · have other : ¬ (m + 1 == n) = true := fun equal => same (eq_of_beq equal)
          rw [if_neg same, if_neg other, Nat.add_zero]

/-- **The word of a symbol**: its number in as many bits as its length. -/
theorem getElem?_words (feasible : isFeasible lengths = true) {n k : Nat}
    (hk : lengths[k]? = some n) :
    (words lengths)[k]? = some (wordBits n (wordNumber lengths n k)) := by
  have bound : ∀ m ∈ lengths,
      m < ((List.range (maxLength + 1)).map (firstWord lengths)).toArray.size := by
    intro m hm
    have short := le_maxLength_of_isFeasible feasible hm
    simp
    omega
  rw [words, getElem?_wordsFrom bound hk]
  have short := le_maxLength_of_isFeasible feasible (List.mem_of_getElem? hk)
  have inside : n < maxLength + 1 := by omega
  simp [wordNumber, inside]

/-- A word comes before a longer or later word of a feasible code and is apart from it. -/
theorem apart_wordBits_wordNumber (feasible : isFeasible lengths = true) {m n j k : Nat}
    (hj : lengths[j]? = some m) (hk : lengths[k]? = some n) (usedLeft : m ≠ 0) (usedRight : n ≠ 0)
    (before : m < n ∨ m = n ∧ j < k) :
    Apart (wordBits m (wordNumber lengths m j)) (wordBits n (wordNumber lengths n k)) := by
  -- Every number fits into its word, because the code is feasible.
  have fits {l i : Nat} (hl : lengths[i]? = some l) (used : l ≠ 0) :
      wordNumber lengths l i < 2 ^ l :=
    Nat.lt_of_lt_of_le (wordNumber_lt_nextFree used hl)
      (nextFree_le feasible (le_maxLength_of_isFeasible feasible (List.mem_of_getElem? hl)))
  obtain ⟨low, rfl⟩ : ∃ low, n = low + m := ⟨n - m, by omega⟩
  refine apart_wordBits (fits hj usedLeft) (fits hk usedRight) (Nat.ne_of_lt ?_)
  rcases before with shorter | ⟨same, earlier⟩
  · -- The upper bits of the longer word are at least the next free number of the shorter one.
    obtain ⟨low, rfl⟩ : ∃ more, low = more + 1 := ⟨low - 1, by omega⟩
    refine Nat.lt_of_lt_of_le (wordNumber_lt_nextFree usedLeft hj) ?_
    rw [Nat.le_div_iff_mul_le (Nat.two_pow_pos _)]
    refine Nat.le_trans (nextFree_mul_le_firstWord lengths m low) ?_
    rw [show low + 1 + m = m + low + 1 by omega]
    exact Nat.le_add_right _ _
  · obtain rfl : low = 0 := by omega
    rw [Nat.pow_zero, Nat.div_one, Nat.zero_add]
    exact wordNumber_lt_wordNumber hj earlier

/-- **The words of a feasible code** are apart. -/
theorem pairwise_apart_words (feasible : isFeasible lengths = true) :
    (words lengths).Pairwise fun v w => v ≠ [] → w ≠ [] → Apart v w := by
  rw [List.pairwise_iff_getElem]
  intro j k hj hk before usedLeft usedRight
  rw [words, length_wordsFrom] at hj hk
  have left := List.getElem?_eq_getElem hj
  have right := List.getElem?_eq_getElem hk
  rw [(List.getElem_eq_iff _).mpr (getElem?_words feasible left)] at usedLeft ⊢
  rw [(List.getElem_eq_iff _).mpr (getElem?_words feasible right)] at usedRight ⊢
  have ne_zero {l i : Nat} (used : wordBits l i ≠ []) : l ≠ 0 := by
    rintro rfl
    exact used rfl
  have leftLength := ne_zero usedLeft
  have rightLength := ne_zero usedRight
  -- The shorter word comes first, and of words of one length the earlier one.
  rcases Nat.lt_or_ge lengths[k] lengths[j] with longer | shorter
  · exact (apart_wordBits_wordNumber feasible right left rightLength leftLength (.inl longer)).symm
  · refine apart_wordBits_wordNumber feasible left right leftLength rightLength ?_
    rcases Nat.lt_or_eq_of_le shorter with less | same
    · exact .inl less
    · exact .inr ⟨same, before⟩

/-- **The tree of a code** reads each word from the start of a stream. -/
theorem Tree.next?_word {t : Tree} {k : Nat} {w : Bits} (code : ofLengths? lengths = some t)
    (hk : (words lengths)[k]? = some w) (nonempty : w ≠ []) (more : Bits) :
    t.next? (w ++ more) = some (k, more) := by
  unfold ofLengths? at code
  by_cases feasible : isFeasible lengths = true
  · rw [if_pos feasible] at code
    obtain rfl := Option.some.inj code
    exact next?_ofWords (pairwise_apart_words feasible) hk nonempty more
  · rw [if_neg feasible] at code
    exact absurd code (by simp)

end Huffman

end StaticGzip.Gzip
