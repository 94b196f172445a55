import StaticGzip.Logger
import StaticGzip.Proofs.Except

/-! # Where a filter is cut

The parts of a directive are cut out of its text as written, by places that are counted without its
outer blanks. If the text begins with a blank, the places are off by the length of the blanks, and
may lie inside a character. They do not if the text begins with something else, and neither if all
of its characters have one byte.

* **`Text.IsPlace`** — a place between characters; **`Text.exists_slice?`** — between two of them a
  text can be cut.
* **`LogFilter.KeepsPlaces`** — the text of a directive in which no place is missed.
* **`LogFilter.Draft.Follows`** — where the reading of a directive stands, and
  **`LogFilter.safe_step`, `LogFilter.safe_foldlM_step`**, that one character and all of them keep
  it so.
* **`LogFilter.ofText?_ne_panic`, `Logger.setUp_ne_panic`** — filters that are read without a
  panic. -/

namespace StaticGzip

/-! ## Places -/

namespace Text

/-- A **place** of a text, counted in bytes: a character begins there, or the text ends there. -/
def IsPlace (t : Text) (n : Nat) : Prop :=
  ∃ before after, t = before ++ after ∧ byteLength before = n

variable {s t : Text} {m n : Nat}

theorem isPlace_end (t : Text) : IsPlace t (byteLength t) := ⟨t, [], (List.append_nil t).symm, rfl⟩

/-- The places of a text stay where they are if **more follows**. -/
theorem IsPlace.append (h : IsPlace s n) (t : Text) : IsPlace (s ++ t) n := by
  obtain ⟨before, after, rfl, rfl⟩ := h
  exact ⟨before, after ++ t, List.append_assoc .., rfl⟩

/-- No place is behind the **end**. -/
theorem IsPlace.le (h : IsPlace t n) : n ≤ byteLength t := by
  obtain ⟨before, after, rfl, rfl⟩ := h
  rw [byteLength_append]
  exact Nat.le_add_right ..

/-- Between two places a text **can be cut**. -/
theorem exists_slice? (hm : IsPlace t m) (hn : IsPlace t n) (le : m ≤ n) :
    ∃ taken, slice? t m n = some taken := by
  obtain ⟨first, rest, whole, rfl⟩ := hm
  obtain ⟨second, after, rfl, rfl⟩ := hn
  obtain ⟨taken, rfl, -⟩ | ⟨beyond, rfl, rfl⟩ := List.append_eq_append_iff.mp whole.symm
  · exact ⟨taken, by rw [List.append_assoc]; exact slice?_append first taken after⟩
  · -- The first place is not behind the second one, so that nothing is between them.
    have none : byteLength beyond = 0 := by
      rw [byteLength_append] at le
      omega
    have same : byteLength second = byteLength (second ++ beyond) := by
      rw [byteLength_append, none, Nat.add_zero]
    refine ⟨[], ?_⟩
    rw [← same]
    simpa using slice?_append second [] (beyond ++ rest)

/-- If all characters have **one byte**, the length is the number of characters. -/
theorem byteLength_of_narrow (narrow : ∀ c ∈ t, c.utf8Size = 1) : byteLength t = t.length := by
  induction t with
  | nil => rfl
  | cons c t ih =>
    obtain ⟨first, rest⟩ := List.forall_mem_cons.mp narrow
    have shorter := ih rest
    rw [byteLength] at shorter
    rw [byteLength, List.foldr_cons, first, shorter, List.length_cons, Nat.add_comm]

/-- If all characters have one byte, **every number** up to the length is a place. -/
theorem isPlace_of_narrow (narrow : ∀ c ∈ t, c.utf8Size = 1) (le : n ≤ byteLength t) :
    IsPlace t n := by
  rw [byteLength_of_narrow narrow] at le
  refine ⟨t.take n, t.drop n, (List.take_append_drop n t).symm, ?_⟩
  rw [byteLength_of_narrow fun c there => narrow c (List.mem_of_mem_take there),
    List.length_take_of_le le]

/-- Without its outer blanks a text is a **part of itself**. -/
theorem trim_sublist (t : Text) : List.Sublist (trim t) t := by
  have back := List.dropWhile_sublist isBlank (l := (t.dropWhile isBlank).reverse)
  have kept := back.reverse
  rw [List.reverse_reverse] at kept
  exact kept.trans (List.dropWhile_sublist isBlank)

/-- A text that begins with no blank **begins with itself** without its outer blanks. -/
theorem trim_prefix (plain : t.head?.any isBlank = false) : trim t <+: t := by
  have front : t.dropWhile isBlank = t := by
    cases t with
    | nil => rfl
    | cons c t => exact List.dropWhile_cons_of_neg (Bool.not_eq_true _ ▸ plain)
  have kept := List.reverse_prefix.mpr (List.dropWhile_suffix isBlank (l := t.reverse))
  rw [List.reverse_reverse] at kept
  rw [trim, front]
  exact kept

end Text

namespace LogFilter

open Text (IsPlace byteLength trim)

/-- The text of a directive **keeps its places**: it begins with no blank, or all of its characters
have one byte. -/
def KeepsPlaces (written : Text) : Prop :=
  written.head?.any Text.isBlank = false ∨ written.all (·.utf8Size == 1) = true

instance : DecidablePred KeepsPlaces := fun _ => inferInstanceAs (Decidable (_ ∨ _))

variable {patterns : Patterns} {written seen rest : Text} {c : Char} {d d' : Draft} {n : Nat}

/-- The places without the outer blanks are **places of the text as written**. -/
theorem KeepsPlaces.isPlace (keeps : KeepsPlaces written) (h : IsPlace (trim written) n) :
    IsPlace written n := by
  obtain plain | narrow := keeps
  · obtain ⟨blanks, whole⟩ := Text.trim_prefix plain
    rw [← whole]
    exact h.append blanks
  · have narrow : ∀ c ∈ written, c.utf8Size = 1 := by simpa using narrow
    have kept := Text.trim_sublist written
    have shorter : byteLength (trim written) ≤ byteLength written := by
      rw [Text.byteLength_of_narrow narrow,
        Text.byteLength_of_narrow fun c there => narrow c (kept.mem there)]
      exact kept.length_le
    exact Text.isPlace_of_narrow narrow (Nat.le_trans h.le shorter)

/-! ## One character -/

/-- Where the **part that is being read** began. -/
def Stage.start? : Stage → Option Nat
  | .word n | .span n | .field n | .level n => some n
  | _ => none

/-- The reading of a directive **stands behind** what has been read, and the part that is being read
began at a place of it. -/
structure Draft.Follows (d : Draft) (seen : Text) : Prop where
  position : d.position = byteLength seen
  start : ∀ n ∈ d.stage.start?, IsPlace seen n

/-- The reading of a text **stands before** what is left of it. -/
def Draft.StandsBefore (t rest : Text) (d : Draft) : Prop :=
  ∃ seen, t = seen ++ rest ∧ d.Follows seen

/-- Where nothing has been read, the reading stands. -/
theorem follows_fresh : Draft.fresh.Follows [] := ⟨rfl, nofun⟩

section

variable (quiet : ∀ t, patterns t ≠ .error .panic)

include quiet

/-- A value of a field is checked safely if **regular expressions** are. -/
theorem safe_checkValue (t : Text) : Safe (fun _ => True) (checkValue patterns t) := by
  rw [checkValue]
  split
  · exact .ok trivial
  · exact (Safe.of_ne_panic (quiet t)).mapError

/-- To add a field is safe. -/
theorem safe_addField (directive : Directive) (t : Text) :
    Safe (fun _ => True) (addField patterns directive t) := by
  simp only [addField]
  split
  · exact .error _
  · split
    · exact .ok trivial
    · exact (safe_checkValue quiet _).map fun _ _ => trivial

/-- A **turn is safe** if the part that is being read can be cut out. A part that begins then begins
before or after the character that is read. -/
theorem safe_turn
    (cuts : ∀ n ∈ d.stage.start?, Safe (fun _ => True) (cut written n d.position)) :
    Safe (fun turned => ∀ n ∈ turned.1.start?,
      n ∈ d.stage.start? ∨ n = d.position ∨ n = d.position + c.utf8Size)
      (turn patterns written d c) := by
  obtain ⟨stage, i, directive⟩ := d
  -- The signs that a part may begin behind have one byte.
  have behind (sign : c.utf8Size = 1) : ∀ n ∈ some (i + 1),
      n ∈ stage.start? ∨ n = i ∨ n = i + c.utf8Size := by
    rintro n ⟨⟩
    exact .inr (.inr (by rw [sign]))
  cases stage with
  | start =>
    simp only [turn]
    split
    case isTrue sign => exact .ok (behind (sign ▸ rfl))
    case isFalse =>
      split
      · exact .ok fun n begun => .inr (.inl (Option.mem_some.mp begun).symm)
      · exact .error _
  | word start =>
    have part := cuts start rfl
    simp only [turn]
    split
    case isTrue sign => exact part.bind fun _ _ => .ok (behind (sign ▸ rfl))
    case isFalse =>
      split
      case isTrue sign => exact part.bind fun _ _ => .ok (behind (sign ▸ rfl))
      case isFalse => exact .ok fun n begun => .inl begun
  | span start =>
    have part := cuts start rfl
    simp only [turn]
    split
    · exact part.bind fun _ _ => .ok nofun
    · split
      case isTrue sign => exact part.bind fun _ _ => .ok (behind (sign ▸ rfl))
      case isFalse => exact .ok fun n begun => .inl begun
  | field start =>
    simp only [turn]
    split
    · refine (cuts start rfl).bind fun field _ => ?_
      exact (safe_addField quiet directive field).bind fun _ _ => .ok nofun
    · exact .ok fun n begun => .inl begun
  | fields =>
    simp only [turn]
    split
    · exact .ok nofun
    · exact .error _
  | target =>
    simp only [turn]
    split
    case isTrue sign => exact .ok (behind (sign ▸ rfl))
    case isFalse => exact .error _
  | level start => exact .ok fun n begun => .inl begun

end

/-- To cut **between two places** is safe. -/
theorem safe_cut {m : Nat} (hm : IsPlace written m) (hn : IsPlace written n) (le : m ≤ n) :
    Safe (fun _ => True) (cut written m n) := by
  obtain ⟨taken, h⟩ := Text.exists_slice? hm hn le
  rw [cut, h]
  exact .ok trivial

section

variable (quiet : ∀ t, patterns t ≠ .error .panic) (keeps : KeepsPlaces written)

include quiet keeps

/-- **One character** is read safely, and the reading stands behind it. -/
theorem safe_step (whole : trim written = seen ++ rest) (follows : d.Follows seen) :
    Safe (fun d' => d'.Follows (seen ++ [c])) (step patterns written d c) := by
  have place {k : Nat} (h : IsPlace seen k) : IsPlace written k :=
    keeps.isPlace (whole ▸ h.append rest)
  have cuts : ∀ n ∈ d.stage.start?, Safe (fun _ => True) (cut written n d.position) := by
    intro n begun
    have start := follows.start n begun
    rw [follows.position]
    exact safe_cut (place start) (place (Text.isPlace_end seen)) start.le
  have size : byteLength [c] = c.utf8Size := Nat.add_zero _
  refine (safe_turn quiet cuts).bind fun turned begins => .ok ⟨?_, fun n begun => ?_⟩
  · rw [Text.byteLength_append, follows.position, size]
  · obtain before | here | after := begins n begun
    · exact (follows.start n before).append [c]
    · rw [here, follows.position]
      exact (Text.isPlace_end seen).append [c]
    · rw [after, follows.position, ← size, ← Text.byteLength_append]
      exact Text.isPlace_end (seen ++ [c])

/-- **All characters** are read safely, and the reading stands behind the last one. -/
theorem safe_foldlM_step : Safe (fun d => d.Follows (trim written))
    ((trim written).foldlM (step patterns written) .fresh) := by
  have run : Safe (Draft.StandsBefore (trim written) [])
      ((trim written).foldlM (step patterns written) .fresh) := by
    refine Safe.foldlM (Draft.StandsBefore (trim written)) ?_ ⟨[], rfl, follows_fresh⟩
    rintro c rest d ⟨seen, whole, follows⟩
    refine (safe_step quiet keeps whole follows).mono fun d' next => ⟨seen ++ [c], ?_, next⟩
    rw [whole, List.append_assoc, List.singleton_append]
  refine run.mono fun d ⟨seen, whole, follows⟩ => ?_
  rwa [whole, List.append_nil]

end

/-- The **end** of a text that keeps its places is read safely. -/
theorem safe_finish (keeps : KeepsPlaces written) (follows : d.Follows (trim written)) :
    Safe (fun _ => True) (finish written d) := by
  have cuts : ∀ n ∈ d.stage.start?, Safe (fun _ => True) (cut written n (byteLength written)) :=
    fun n begun =>
      have start := keeps.isPlace (follows.start n begun)
      safe_cut start (Text.isPlace_end written) start.le
  clear follows
  obtain ⟨stage, i, directive⟩ := d
  cases stage with
  | word start =>
    refine (cuts start rfl).bind fun word _ => ?_
    split <;> exact .ok trivial
  | level start =>
    refine (cuts start rfl).bind fun word _ => ?_
    cases level? word with
    | ok n => exact .ok trivial
    | error e => exact .error e
  | target => exact .ok trivial
  | start | span | field | fields => exact .error _

/-! ## Whole filters -/

/-- All parts of a filter between commas **keep their places**. -/
def PartsKeepPlaces (t : Text) : Prop := ∀ part ∈ t.splitOn ',', KeepsPlaces part

instance : DecidablePred PartsKeepPlaces := fun _ => inferInstanceAs (Decidable (∀ _ ∈ _, _))

section

variable (quiet : ∀ t, patterns t ≠ .error .panic)

include quiet

/-- A directive that keeps its places is read **safely**. -/
theorem safe_directive? (keeps : KeepsPlaces written) :
    Safe (fun _ => True) (directive? patterns written) :=
  (safe_foldlM_step quiet keeps).bind fun _ follows => safe_finish keeps follows

/-- A filter whose parts keep their places is read **without a panic**. -/
theorem ofText?_ne_panic {t : Text} (keeps : PartsKeepPlaces t) :
    ofText? patterns t ≠ .error .panic := by
  have parts : ∀ part ∈ (t.splitOn ',').filter (!·.isEmpty),
      Safe (fun _ => True) (directive? patterns part) := fun part there =>
    safe_directive? quiet (keeps part (List.mem_filter.mp there).1)
  have filter : Safe (fun _ => True) (ofText? patterns t) :=
    (Safe.mapM parts).bind fun _ _ => .ok trivial
  exact filter.ne_panic

end

/-- If the text begins with a blank, a part may be cut out of it **inside a character**. -/
example : ofText? (fun _ => .ok ()) " aé[b]".toList = .error .panic := by rfl

end LogFilter

/-! ## The logger -/

namespace Logger

variable {patterns : LogFilter.Patterns} {environment : Option String} {level : String}

/-- The logger is set up **without a panic** if the parts of both filters keep their places. -/
theorem setUp_ne_panic (quiet : ∀ t, patterns t ≠ .error .panic) (current : Option LogFilter)
    (wanted : ∀ s ∈ environment, LogFilter.PartsKeepPlaces s.toList)
    (configured : LogFilter.PartsKeepPlaces level.toList) :
    setUp patterns current environment level ≠ .error .panic := by
  have read : filter patterns environment level ≠ .error .panic := by
    have fallback := LogFilter.ofText?_ne_panic quiet configured
    cases environment with
    | none => exact fallback
    | some s =>
      simp only [filter, Option.map_some]
      split
      · exact nofun
      next panics =>
        exact absurd (Option.some.inj panics) (LogFilter.ofText?_ne_panic quiet (wanted s rfl))
      · exact fallback
  intro panics
  simp only [setUp] at panics
  split at panics
  next fault _ failed =>
    rw [Fault.map_eq_panic_iff.mp (Except.error.inj panics)] at failed
    exact read failed
  all_goals cases panics

end Logger

end StaticGzip
