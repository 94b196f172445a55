import StaticGzip.Gzip.Token

/-! # The tokens for some data describe that data

The tokens are chosen from left to right, and a table proposes where a copy could come from.
Whatever it proposes, a copy is taken only of bytes that have been compared, so the tokens up to any
position describe the data up to that position.

* **`Token.copyFrom_extract`** — a copy of compared bytes continues the data.
* **`Token.emit?_next`** — so does the token that is chosen.
* **`Token.expand_ofData`** — all tokens together describe all of the data.
* **`Token.isWritable_of_mem_ofData`** — every token can be written in a compressed stream. -/

namespace StaticGzip.Gzip.Token

/-- A token that can be **written**: a byte, or a copy whose length and distance are in range. -/
def IsWritable : Token → Prop
  | literal _ => True
  | copy length distance =>
    minLength ≤ length ∧ length ≤ maxLength ∧ 0 < distance ∧ distance ≤ maxDistance

variable {data : ByteArray}

/-! ## Compared bytes -/

/-- One more byte is compared if both are there, and counted if they are equal. -/
theorem matchLength_succ (data : ByteArray) (i j limit : Nat) :
    matchLength data i j (limit + 1) =
      if h : i < data.size ∧ j < data.size then
        if data.get i h.1 = data.get j h.2 then matchLength data (i + 1) (j + 1) limit + 1 else 0
      else 0 := rfl

/-- No more bytes are compared than the limit allows. -/
theorem matchLength_le (data : ByteArray) (i j limit : Nat) :
    matchLength data i j limit ≤ limit := by
  induction limit generalizing i j with
  | zero => exact Nat.le_refl 0
  | succ limit ih =>
    rw [matchLength_succ]
    by_cases there : i < data.size ∧ j < data.size
    · rw [dif_pos there]
      by_cases equal : data.get i there.1 = data.get j there.2
      · rw [if_pos equal]
        exact Nat.succ_le_succ (ih (i + 1) (j + 1))
      · rw [if_neg equal]
        exact Nat.zero_le _
    · rw [dif_neg there]
      exact Nat.zero_le _

/-- Bytes that have been compared are there, and they are equal. -/
theorem getElem?_of_lt_matchLength {i j limit k : Nat} (h : k < matchLength data i j limit) :
    i + k < data.size ∧ data.data[i + k]? = data.data[j + k]? := by
  induction limit generalizing i j k with
  | zero => exact absurd h (Nat.not_lt_zero k)
  | succ limit ih =>
    rw [matchLength_succ] at h
    by_cases there : i < data.size ∧ j < data.size
    · rw [dif_pos there] at h
      by_cases equal : data.get i there.1 = data.get j there.2
      · rw [if_pos equal] at h
        cases k with
        | zero =>
          refine ⟨there.1, ?_⟩
          rw [Nat.add_zero, Nat.add_zero, Array.getElem?_eq_getElem there.1,
            Array.getElem?_eq_getElem there.2]
          exact congrArg some equal
        | succ k =>
          have := ih (Nat.lt_of_succ_lt_succ h)
          rwa [Nat.succ_add, Nat.succ_add] at this
      · rw [if_neg equal] at h
        exact absurd h (Nat.not_lt_zero k)
    · rw [dif_neg there] at h
      exact absurd h (Nat.not_lt_zero k)

/-! ## One token -/

/-- The data up to a position, and one byte more. -/
theorem extract_push {i : Nat} {b : UInt8} (h : data.data[i]? = some b) :
    (data.data.extract 0 i).push b = data.data.extract 0 (i + 1) := by
  obtain ⟨hi, rfl⟩ := Array.getElem?_eq_some_iff.mp h
  rw [Array.push_extract_getElem hi]
  simp

/-- A **copy of compared bytes** continues the data. -/
theorem copyFrom_extract {i distance : Nat} (length : Nat) (positive : 0 < distance)
    (reaches : distance ≤ i) (inside : i ≤ data.size)
    (equal : ∀ k < length, i + k < data.size ∧
      data.data[i + k]? = data.data[i - distance + k]?) :
    copyFrom distance length (data.data.extract 0 i) = data.data.extract 0 (i + length) := by
  induction length generalizing i with
  | zero => rfl
  | succ length ih =>
    obtain ⟨there, first⟩ := equal 0 (Nat.succ_pos length)
    rw [Nat.add_zero, Nat.add_zero] at first
    have size : (data.data.extract 0 i).size = i := by
      rw [Array.size_extract]
      exact Nat.min_eq_left inside
    -- The byte to be copied has been written already, and it is the next byte of the data.
    have source : data.data[i]? =
        some ((data.data.extract 0 i).getD ((data.data.extract 0 i).size - distance) 0) := by
      have before : i - distance < min i data.data.size - 0 := by
        rw [Nat.sub_zero, Nat.lt_min]
        exact ⟨by omega, Nat.lt_of_le_of_lt (Nat.sub_le i distance) there⟩
      rw [size, Array.getD_eq_getD_getElem?, Array.getElem?_extract_of_lt before, Option.getD_some,
        first]
      simp only [Nat.zero_add]
      exact Array.getElem?_eq_getElem _
    rw [copyFrom, extract_push source, ih (by omega) (by omega) ?_, Nat.add_right_comm]
    · rfl
    · intro k hk
      have := equal (k + 1) (Nat.succ_lt_succ hk)
      rw [show i + 1 - distance + k = i - distance + (k + 1) by omega, Nat.succ_add]
      exact this

/-- A position that the table proposes lies before, and near enough. -/
theorem lt_of_source? {table : Array Nat} {i j : Nat} (h : source? data table i = some j) :
    j < i ∧ i - j ≤ maxDistance := by
  unfold source? at h
  split at h
  · exact absurd h (by simp)
  · split at h
    · rename_i near
      rw [← Option.some.inj h]
      exact near
    · exact absurd h (by simp)

/-- The token that is chosen is a byte, or a copy of so many compared bytes. -/
theorem next_cases (data : ByteArray) (source : Option Nat) (i : Nat) (b : UInt8) :
    next data source i b = .literal b ∨
      ∃ j, source = some j ∧ minLength ≤ matchLength data i j maxLength ∧
        next data source i b = .copy (matchLength data i j maxLength) (i - j) := by
  unfold next
  cases source with
  | none => exact .inl rfl
  | some j =>
    by_cases long : minLength ≤ matchLength data i j maxLength
    · exact .inr ⟨j, rfl, long, if_pos long⟩
    · exact .inl (if_neg long)

/-- **The token that is chosen** stands for the next bytes of the data, and it can be written. -/
theorem emit?_next {source : Option Nat} {i : Nat} {b : UInt8} (there : data.data[i]? = some b)
    (near : ∀ j, source = some j → j < i ∧ i - j ≤ maxDistance) :
    emit? (data.data.extract 0 i) (next data source i b)
        = some (data.data.extract 0 (i + (next data source i b).size)) ∧
      (next data source i b).IsWritable := by
  have inside : i < data.data.size := (Array.getElem?_eq_some_iff.mp there).1
  rcases next_cases data source i b with chosen | ⟨j, proposed, long, chosen⟩
  · rw [chosen]
    refine ⟨?_, trivial⟩
    rw [emit?, extract_push there, size]
  · obtain ⟨before, close⟩ := near j proposed
    have positive : 0 < i - j := Nat.sub_pos_of_lt before
    have size : (data.data.extract 0 i).size = i := by
      rw [Array.size_extract]
      exact Nat.min_eq_left (Nat.le_of_lt inside)
    have copied := copyFrom_extract (matchLength data i j maxLength) positive (Nat.sub_le i j)
      (Nat.le_of_lt inside) (fun k hk => by
        rw [Nat.sub_sub_self (Nat.le_of_lt before)]
        exact getElem?_of_lt_matchLength hk)
    rw [chosen]
    refine ⟨?_, long, matchLength_le data i j maxLength, positive, close⟩
    rw [emit?, size, if_pos ⟨positive, Nat.sub_le i j⟩, copied, Token.size]

/-! ## All tokens -/

/-- **The scan** adds tokens that describe the rest of the data, and all of them can be written. -/
theorem exists_scan (data : ByteArray) (i : Nat) (table : Array Nat) (tokens : Array Token) :
    ∃ more, (scan data i table tokens).toList = tokens.toList ++ more ∧
      more.foldlM emit? (data.data.extract 0 i) = some data.data ∧
      ∀ t ∈ more, t.IsWritable := by
  fun_induction scan data i table tokens with
  | case1 i table tokens inside t positive ih =>
    obtain ⟨more, scanned, described, writable⟩ := ih
    have there : data.data[i]? = some data[i] := Array.getElem?_eq_getElem inside
    -- The token is appended, and the others describe the data from its end on.
    have near : ∀ j, source? data table i = some j → j < i ∧ i - j ≤ maxDistance :=
      fun j => lt_of_source?
    obtain ⟨emitted, first⟩ := emit?_next there near
    refine ⟨t :: more, ?_, ?_, ?_⟩
    · rw [scanned, Array.toList_push, List.append_assoc]
      rfl
    · rw [List.foldlM_cons, emitted]
      exact described
    · intro u hu
      rcases List.mem_cons.mp hu with rfl | hu
      · exact first
      · exact writable u hu
  | case2 i table tokens outside =>
    refine ⟨[], (List.append_nil _).symm, ?_, by simp⟩
    rw [List.foldlM_nil, Array.extract_eq_self_of_le (Nat.not_lt.mp outside)]
    rfl

/-- The tokens for some data **describe that data**. -/
theorem expand_ofData (data : ByteArray) : expand (ofData data) = some data.data := by
  obtain ⟨tokens, scanned, described, -⟩ :=
    exists_scan data 0 (Array.replicate tableSize 0) #[]
  rw [expand, ofData, scanned, List.nil_append]
  simpa using described

/-- Every token for some data **can be written**. -/
theorem isWritable_of_mem_ofData {t : Token} (h : t ∈ ofData data) : t.IsWritable := by
  obtain ⟨tokens, scanned, -, writable⟩ :=
    exists_scan data 0 (Array.replicate tableSize 0) #[]
  rw [ofData, scanned, List.nil_append] at h
  exact writable t h

end StaticGzip.Gzip.Token
