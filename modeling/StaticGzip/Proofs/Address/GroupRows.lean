import StaticGzip.Proofs.Address.Literals

/-! # Rows of groups

The eight groups of an address of version 6 stand in one row with colons between, or in two rows
with a gap of zeros between. The last two groups of a row may be written as four bytes. A reader
takes groups as long as there are any, so that a row is read to its end if no group follows it.

* **`Address.Row`** — a row of groups with colons between.
* **`Address.Grouped`** — eight groups, in one row or around a gap.
* **`Address.groups_append`, `Address.exists_row`** — a row is read, and only a row.
* **`Address.groups?_append`, `Address.exists_grouped`** — eight groups are read, and only such. -/

namespace StaticGzip.Address

/-! ## The literals -/

/-- What stands in front of a group: a colon, except for the first one of a row. -/
def separator (first : Bool) : Text := if first then [] else [':']

/-- A **row of groups**, of the kind that ends in four bytes or not. Each byte pair is a group, the
first byte of which counts more. -/
inductive Row : Bool → Bool → Text → List UInt16 → Prop where
  | empty {first : Bool} : Row first false [] []
  | bytes {first : Bool} {t : Text} {a b c d : UInt8} {g h : UInt16}
      (dotted : Dotted t #v[a, b, c, d]) (left : g.toNat = 256 * a.toNat + b.toNat)
      (right : h.toNat = 256 * c.toNat + d.toNat) : Row first true (separator first ++ t) [g, h]
  | group {first dotted : Bool} {t more : Text} {g : UInt16} {gs : List UInt16}
      (group : Group t g) (row : Row false dotted more gs) :
    Row first dotted (separator first ++ (t ++ more)) (g :: gs)

/-- The literal of **eight groups**: a whole row, or two rows of which the first does not end in
four bytes, around a gap of at least one zero. -/
inductive Grouped : Text → Vector UInt16 8 → Prop where
  | whole {dotted : Bool} {t : Text} {groups : Vector UInt16 8}
      (row : Row true dotted t groups.toList) : Grouped t groups
  | gap {dotted : Bool} {before after : Text} {head tail : List UInt16} {zeros : Nat}
      {groups : Vector UInt16 8} (left : Row true false before head)
      (right : Row true dotted after tail) (some : 0 < zeros)
      (all : groups.toList = head ++ List.replicate zeros 0 ++ tail) :
    Grouped (before ++ ':' :: ':' :: after) groups

/-! ## Where rows end -/

theorem separated?_eq_some_iff {first : Bool} {t more : Text} :
    separated? first t = some more ↔ t = separator first ++ more := by
  cases first with
  | true => simp [separated?, separator]
  | false => simp [separated?, separator, skip?_eq_some_iff]

/-- Without a digit in front there is no group. -/
theorem group?_eq_none {t : Text} (ends : Text.Ends isHexadecimal t) : group? t = none := by
  rw [group?, numeral?, ends.takeWhile_eq]
  rfl

/-- What does not go on with a point after its decimal digits is **no row of bytes**. -/
theorem bytes?_eq_none {t : Text} (h : (t.dropWhile isDecimal).head? ≠ some '.') :
    bytes? t = none := by
  by_contra read
  obtain ⟨⟨bytes, rest⟩, read⟩ := Option.ne_none_iff_exists'.mp read
  obtain ⟨_, rfl, ⟨octet, -, -, -⟩, -⟩ := bytes?_eq_some_iff.mp read
  have digits := ((numeral_iff reads_digit?).mp octet.value).2.1
  rw [List.append_assoc, List.cons_append] at h
  rw [Text.dropWhile_append (p := isDecimal) digits (Text.ends_cons.mpr (by decide))] at h
  exact h rfl

/-- Without a digit in front there are no bytes. -/
theorem bytes?_eq_none_of_ends {t : Text} (ends : Text.Ends isHexadecimal t) : bytes? t = none := by
  have noByte : byte? t = none := by
    rw [byte?, numeral?, (ends_isDecimal ends).takeWhile_eq]
    rfl
  rw [bytes?, noByte]
  rfl

/-- Digits without a point after them begin no row of bytes. -/
theorem bytes?_append_eq_none {digits rest : Text} (inside : ∀ c ∈ digits, isHexadecimal c = true)
    (ends : Text.Ends isHexadecimal rest) (noDot : rest.head? ≠ some '.') :
    bytes? (digits ++ rest) = none := by
  apply bytes?_eq_none
  -- The first character after the decimal digits is another digit, or the first of the rest.
  induction digits with
  | nil => rwa [List.nil_append, (ends_isDecimal ends).dropWhile_eq]
  | cons c digits ih =>
    obtain ⟨first, others⟩ := List.forall_mem_cons.mp inside
    rw [List.cons_append, List.dropWhile_cons]
    split
    · exact ih others
    · rw [List.head?_cons, ne_eq, Option.some.injEq]
      rintro rfl
      exact absurd first (by decide)

/-- Such a text **ends a row of groups**: no group follows, neither directly nor after a colon, and
no point. -/
structure EndsGroups (rest : Text) : Prop where
  noGroup : ∀ first, ∀ more ∈ separated? first rest, Text.Ends isHexadecimal more
  noDot : rest.head? ≠ some '.'

theorem EndsGroups.noDigit {rest : Text} (ends : EndsGroups rest) : Text.Ends isHexadecimal rest :=
  ends.noGroup true rest rfl

/-- The end of the text ends a row of groups. -/
theorem endsGroups_nil : EndsGroups [] := by
  refine ⟨fun first more h => ?_, by simp⟩
  cases first with
  | true => cases h; exact Text.ends_nil
  | false => cases h

/-- A character ends a row of groups if it is no digit, no point and no colon. -/
theorem endsGroups_cons {c : Char} (t : Text) (other : isHexadecimal c = false)
    (noDot : c ≠ '.') (noColon : c ≠ ':') : EndsGroups (c :: t) := by
  refine ⟨fun first more h => ?_, by simpa using noDot⟩
  cases first with
  | true => cases h; exact Text.ends_cons.mpr other
  | false =>
    obtain ⟨same, -⟩ := List.cons.inj (separated?_eq_some_iff.mp h)
    exact absurd same noColon

/-- A gap ends a row of groups. -/
theorem endsGroups_gap (t : Text) : EndsGroups (':' :: ':' :: t) := by
  refine ⟨fun first more h => ?_, by simp⟩
  cases first with
  | true => cases h; exact Text.ends_cons.mpr (by decide)
  | false => cases h; exact Text.ends_cons.mpr (by decide)

/-- Where a row of groups ends, **none** is read. -/
theorem groups_of_ends {rest : Text} (ends : EndsGroups rest) (limit : Nat) (first : Bool) :
    groups limit first rest = ([], false, rest) := by
  have noBytes : (separated? first rest).bind bytes? = none :=
    Option.bind_eq_none_iff.mpr fun more h => bytes?_eq_none_of_ends (ends.noGroup first more h)
  have noGroup : (separated? first rest).bind group? = none :=
    Option.bind_eq_none_iff.mpr fun more h => group?_eq_none (ends.noGroup first more h)
  cases limit with
  | zero => rfl
  | succ limit =>
    rw [groups]
    dsimp only
    rw [noBytes, ite_self]
    dsimp only
    rw [noGroup]

/-! ## Reading a row -/

/-- The groups of four bytes have **the first byte of each pair** in front. -/
theorem pairs_eq_iff {a b c d : UInt8} {gs : List UInt16} :
    pairs #v[a, b, c, d] = gs ↔ ∃ g h : UInt16, gs = [g, h] ∧
      g.toNat = 256 * a.toNat + b.toNat ∧ h.toNat = 256 * c.toNat + d.toNat := by
  have split : pairs #v[a, b, c, d]
      = [a.toUInt16 <<< 8 ||| b.toUInt16, c.toUInt16 <<< 8 ||| d.toUInt16] := rfl
  rw [split]
  have join (a b : UInt8) : (a.toUInt16 <<< 8 ||| b.toUInt16).toNat = 256 * a.toNat + b.toNat := by
    have high : a.toNat < 256 := a.toNat_lt
    have low : b.toNat < 2 ^ 8 := b.toNat_lt
    have shifted : a.toNat <<< 8 % 65536 = a.toNat <<< 8 := by
      rw [Nat.shiftLeft_eq]
      omega
    calc (a.toUInt16 <<< 8 ||| b.toUInt16).toNat = a.toNat <<< 8 % 65536 ||| b.toNat := by simp
      _ = a.toNat <<< 8 + b.toNat := by rw [shifted, Nat.shiftLeft_add_eq_or_of_lt low]
      _ = 256 * a.toNat + b.toNat := by rw [Nat.shiftLeft_eq, Nat.mul_comm]
  constructor
  · rintro rfl
    exact ⟨_, _, rfl, join _ _, join _ _⟩
  · rintro ⟨g, h, rfl, left, right⟩
    rw [← join] at left right
    rw [UInt16.toNat_inj.mp left, UInt16.toNat_inj.mp right]

/-- What follows a group **ends it**: other groups do, and what ends the row. -/
theorem Row.ends_append {dotted : Bool} {t rest : Text} {gs : List UInt16}
    (row : Row false dotted t gs) (ends : EndsGroups rest) :
    Text.Ends isHexadecimal (t ++ rest) ∧ (t ++ rest).head? ≠ some '.' := by
  cases row with
  | empty => exact ⟨ends.noDigit, ends.noDot⟩
  | bytes => exact ⟨Text.ends_cons.mpr (by decide), by simp [separator]⟩
  | group => exact ⟨Text.ends_cons.mpr (by decide), by simp [separator]⟩

/-- A row of groups is **no row of bytes**, unless it is made of four bytes only. -/
theorem Row.bytes?_append {dotted : Bool} {t rest : Text} {gs : List UInt16}
    (row : Row true dotted t gs) (groups : dotted = false ∨ 2 < gs.length)
    (ends : EndsGroups rest) : bytes? (t ++ rest) = none := by
  cases row with
  | empty => exact bytes?_eq_none_of_ends ends.noDigit
  | bytes => simp at groups
  | @group _ _ digits more _ _ group row =>
    obtain ⟨noDigit, noDot⟩ := row.ends_append ends
    have inside := ((numeral_iff reads_hexDigit?).mp group.value).2.1
    have text : separator true ++ (digits ++ more) ++ rest = digits ++ (more ++ rest) :=
      List.append_assoc digits more rest
    rw [text, bytes?_append_eq_none inside noDigit noDot]

/-- A **row is read** to its end. -/
theorem groups_append {first dotted : Bool} {t rest : Text} {gs : List UInt16}
    (row : Row first dotted t gs) (ends : EndsGroups rest) {limit : Nat} (fit : gs.length ≤ limit) :
    groups limit first (t ++ rest) = (gs, dotted, rest) := by
  induction row generalizing limit with
  | empty => exact groups_of_ends ends limit _
  | @bytes first t a b c d g h literal left right =>
    obtain ⟨limit, rfl⟩ : ∃ n, limit = n + 2 := ⟨limit - 2, by simp at fit; omega⟩
    have separated : separated? first (separator first ++ t ++ rest) = some (t ++ rest) :=
      separated?_eq_some_iff.mpr (List.append_assoc _ _ _)
    have read : bytes? (t ++ rest) = some (#v[a, b, c, d], rest) :=
      bytes?_eq_some_iff.mpr ⟨t, rfl, literal, ends_isDecimal ends.noDigit⟩
    rw [groups]
    dsimp only
    rw [if_neg (by omega), separated, Option.bind_some, read]
    dsimp only
    rw [pairs_eq_iff.mpr ⟨g, h, rfl, left, right⟩]
  | @group first dotted t more g gs group row ih =>
    obtain ⟨limit, rfl⟩ : ∃ n, limit = n + 1 := ⟨limit - 1, by simp at fit; omega⟩
    obtain ⟨noDigit, noDot⟩ := row.ends_append ends
    have separated : separated? first (separator first ++ (t ++ more) ++ rest)
        = some (t ++ (more ++ rest)) :=
      separated?_eq_some_iff.mpr (by simp)
    have inside := ((numeral_iff reads_hexDigit?).mp group.value).2.1
    have read : group? (t ++ (more ++ rest)) = some (g, more ++ rest) :=
      group?_eq_some_iff.mpr ⟨t, rfl, group, noDigit⟩
    rw [groups]
    dsimp only
    rw [separated, Option.bind_some, bytes?_append_eq_none inside noDigit noDot, ite_self]
    dsimp only
    rw [Option.bind_some, read]
    dsimp only
    rw [ih (Nat.le_of_succ_le_succ fit)]

/-- What is read **is a row** of as many groups as are allowed. -/
theorem exists_row {limit : Nat} {first dotted : Bool} {t rest : Text} {gs : List UInt16}
    (h : groups limit first t = (gs, dotted, rest)) :
    gs.length ≤ limit ∧ ∃ literal, t = literal ++ rest ∧ Row first dotted literal gs := by
  induction limit generalizing first t gs with
  | zero =>
    rw [groups] at h
    obtain ⟨rfl, rfl, rfl⟩ : _ ∧ _ ∧ _ := by simpa using h
    exact ⟨Nat.le_refl 0, [], rfl, .empty⟩
  | succ limit ih =>
    rw [groups] at h
    dsimp only at h
    split at h
    · -- Four bytes end the row.
      rename_i bytes after read
      obtain ⟨rfl, rfl, rfl⟩ : _ ∧ _ ∧ _ := by simpa using h
      split at read
      · cases read
      · obtain ⟨more, separated, read⟩ := Option.bind_eq_some_iff.mp read
        obtain ⟨literal, rfl, dotted, -⟩ := bytes?_eq_some_iff.mp read
        obtain ⟨a, b, c, d, rfl⟩ : ∃ a b c d, bytes = #v[a, b, c, d] := by
          cases dotted
          exact ⟨_, _, _, _, rfl⟩
        generalize paired : pairs #v[a, b, c, d] = pair
        obtain ⟨g, h, rfl, left, right⟩ := pairs_eq_iff.mp paired
        refine ⟨by simp; omega, separator first ++ literal, ?_, .bytes dotted left right⟩
        rw [separated?_eq_some_iff.mp separated, List.append_assoc]
    · split at h
      · obtain ⟨rfl, rfl, rfl⟩ : _ ∧ _ ∧ _ := by simpa using h
        exact ⟨Nat.zero_le _, [], rfl, .empty⟩
      · -- A group goes in front of those that follow it.
        rename_i g after read
        obtain ⟨more, separated, read⟩ := Option.bind_eq_some_iff.mp read
        obtain ⟨digits, rfl, group, -⟩ := group?_eq_some_iff.mp read
        generalize following : groups limit false after = read at h
        obtain ⟨others, ended, last⟩ := read
        obtain ⟨rfl, rfl, rfl⟩ : _ ∧ _ ∧ _ := by simpa using h
        obtain ⟨fit, literal, rfl, row⟩ := ih following
        refine ⟨by simpa using fit, separator first ++ (digits ++ literal), ?_, .group group row⟩
        rw [separated?_eq_some_iff.mp separated]
        simp

/-! ## Eight groups -/

/-- Groups before and after a gap fill up to **the eight** there are. -/
theorem toList_fill {head tail : List UInt16} {zeros : Nat}
    (eight : head.length + zeros + tail.length = 8) :
    (fill head tail).toList = head ++ List.replicate zeros 0 ++ tail := by
  have gap : 8 - head.length - tail.length = zeros := by omega
  apply List.ext_getElem
  · simp only [Vector.length_toList, List.length_append, List.length_replicate]
    omega
  · intro i _ inside
    simp only [fill, gap, Vector.getElem_toList, Vector.getElem_ofFn]
    rw [List.getD_eq_getElem?_getD, List.getElem?_eq_getElem inside, Option.getD_some]

/-- Groups around a gap are eight together. -/
theorem length_gap {groups : Vector UInt16 8} {head tail : List UInt16} {zeros : Nat}
    (all : groups.toList = head ++ List.replicate zeros 0 ++ tail) :
    head.length + zeros + tail.length = 8 := by
  have length : groups.toList.length = 8 := Vector.length_toList
  rw [all] at length
  simp only [List.length_append, List.length_replicate] at length
  exact length

/-- **Eight groups are read** from their literal. -/
theorem groups?_append {t rest : Text} {gs : Vector UInt16 8} (literal : Grouped t gs)
    (ends : EndsGroups rest) : groups? (t ++ rest) = some (gs, rest) := by
  cases literal with
  | whole row =>
    have eight : gs.toList.length = 8 := Vector.length_toList
    have noGap : gs.toList.length + 0 + ([] : List UInt16).length = 8 := eight
    have filled : fill gs.toList [] = gs := by
      apply Vector.toList_inj.mp
      rw [toList_fill noGap]
      simp
    rw [groups?, groups_append row ends (Nat.le_of_eq eight)]
    dsimp only
    rw [if_pos eight, filled]
  | @gap dotted before after head tail zeros _ left right some all =>
    have eight := length_gap all
    have filled : fill head tail = gs := Vector.toList_inj.mp ((toList_fill eight).trans all.symm)
    have first := groups_append left (endsGroups_gap (after ++ rest)) (by omega : head.length ≤ 8)
    have last := groups_append right ends (by omega : tail.length ≤ 7 - head.length)
    have text : before ++ ':' :: ':' :: after ++ rest
        = before ++ ':' :: ':' :: (after ++ rest) := by simp
    rw [groups?, text, first]
    dsimp only
    rw [if_neg (by omega), if_neg Bool.false_ne_true]
    simp only [skip?, if_true, Option.bind_eq_bind, Option.bind_some, last, filled]

/-- The literal of eight groups is no row of bytes. -/
theorem Grouped.bytes?_eq_none {t : Text} {gs : Vector UInt16 8} (literal : Grouped t gs) :
    bytes? t = none := by
  cases literal with
  | whole row =>
    have eight : gs.toList.length = 8 := Vector.length_toList
    rw [← List.append_nil t]
    exact row.bytes?_append (.inr (by omega)) endsGroups_nil
  | gap left => exact left.bytes?_append (.inl rfl) (endsGroups_gap _)

/-- What is read as eight groups is **a literal of them**. -/
theorem exists_grouped {t rest : Text} {gs : Vector UInt16 8} (h : groups? t = some (gs, rest)) :
    ∃ literal, t = literal ++ rest ∧ Grouped literal gs := by
  rw [groups?] at h
  generalize read : groups 8 true t = first at h
  obtain ⟨head, dotted, after⟩ := first
  obtain ⟨fit, before, rfl, left⟩ := exists_row read
  dsimp only at h
  split at h
  · rename_i eight
    obtain ⟨rfl, rfl⟩ := Prod.mk.inj (Option.some.inj h)
    have noGap : head.length + 0 + ([] : List UInt16).length = 8 := eight
    have same : (fill head []).toList = head := by
      rw [toList_fill noGap]
      simp
    exact ⟨before, rfl, .whole (by rwa [same])⟩
  · rename_i notEight
    cases dotted with
    | true => cases h
    | false =>
      simp only [Bool.false_eq_true, if_false, Option.bind_eq_bind, Option.bind_eq_some_iff,
        skip?_eq_some_iff] at h
      obtain ⟨_, rfl, more, rfl, h⟩ := h
      generalize read : groups (7 - head.length) true more = second at h
      obtain ⟨tail, ended, last⟩ := second
      obtain ⟨rfl, rfl⟩ := Prod.mk.inj (Option.some.inj h)
      obtain ⟨few, after, rfl, right⟩ := exists_row read
      have eight : head.length + (8 - head.length - tail.length) + tail.length = 8 := by omega
      exact ⟨before ++ ':' :: ':' :: after, by simp,
        .gap left right (by omega) (toList_fill eight)⟩

end StaticGzip.Address
