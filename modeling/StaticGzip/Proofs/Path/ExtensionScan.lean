import StaticGzip.Proofs.OpenedFile

/-! # The extension in one pass

The extension of a path is also found by one pass over its characters, from the last one to the
first. The pass skips the slashes at the end, stops at the next slash, and remembers three positions
and what it met before the last dot. It cuts the extension out of the path by the positions alone.

* **`ExtensionScan`** — what a pass remembers, and **`ExtensionScan.extname`**, what it cuts out.
* **`ExtensionScan.see_after`, `ExtensionScan.run_after`** — a pass through a segment, one character
  and all of them: what is remembered is told by the part of the segment that has been read.
* **`extension_found_in_one_pass`** — the pass finds the extension, and what follows for its form
  and its place in the path. -/

namespace StaticGzip

/-! ## The pass -/

/-- What is met **to the left of the last dot** of a segment: nothing, or as the last thing a dot or
another character. -/
inductive LeftOfDot where
  | nothing
  | dot
  | other
deriving DecidableEq, Repr

namespace LeftOfDot

/-- What a character to the left of a dot is. -/
def ofChar (c : Char) : LeftOfDot := if c = '.' then .dot else .other

/-- What stands to the left of a dot, by a text that is read backward from it. -/
def ofText (left : Text) : LeftOfDot := left.getLast?.elim .nothing ofChar

@[simp] theorem ofText_append_singleton (left : Text) (c : Char) :
    ofText (left ++ [c]) = ofChar c := by
  rw [ofText, List.getLast?_concat, Option.elim_some]

theorem ofChar_ne_nothing (c : Char) : ofChar c ≠ .nothing := by
  unfold ofChar
  split <;> exact LeftOfDot.noConfusion

/-- **Nothing** is to the left of a dot that begins the segment. -/
theorem ofText_eq_nothing_iff {left : Text} : ofText left = .nothing ↔ left = [] := by
  constructor
  · intro nothing
    rcases List.eq_nil_or_concat left with none | ⟨before, c, rfl⟩
    · exact none
    · rw [List.concat_eq_append, ofText_append_singleton] at nothing
      exact absurd nothing (ofChar_ne_nothing c)
  · rintro rfl
    rfl

end LeftOfDot

/-- What a **pass** over a path remembers. Positions are counted from the start of the path. -/
structure ExtensionScan where
  /-- Where the last segment begins. -/
  start : Nat
  /-- Where it ends, once a character of it is met. -/
  finish : Option Nat
  /-- Where its last dot stands, once it is met. -/
  dot : Option Nat
  /-- What is met to the left of that dot. -/
  left : LeftOfDot
deriving DecidableEq, Repr

namespace ExtensionScan

/-- Before anything is met. -/
def initial : ExtensionScan := ⟨0, none, none, .nothing⟩

/-- A character of the segment is met **at a position**. -/
def see (s : ExtensionScan) (c : Char) (position : Nat) : ExtensionScan :=
  let finish := some (s.finish.getD (position + 1))
  match s.dot with
  | none => { s with finish := finish, dot := if c = '.' then some position else none }
  | some _ => { s with finish := finish, left := .ofChar c }

/-- The **pass** through a path that is given backward. The position of a character is the number of
those that are still ahead. -/
def run (s : ExtensionScan) : Text → ExtensionScan
  | [] => s
  | c :: ahead =>
    if c = '/' then
      if s.finish.isSome then { s with start := ahead.length + 1 } else run s ahead
    else run (s.see c ahead.length) ahead

/-- What is **cut out** of the path: nothing if there is no dot, if nothing is to its left, or if
the segment is just two dots, and otherwise the text from the dot to the end of the segment. -/
def cut (s : ExtensionScan) (path : Text) : Text :=
  match s.dot, s.finish with
  | some dot, some finish =>
    if s.left = .nothing ∨ s.left = .dot ∧ dot + 1 = finish ∧ dot = s.start + 1 then []
    else (path.take finish).drop dot
  | _, _ => []

/-- The **extension by one pass**. -/
def extname (path : Text) : Text := (initial.run path.reverse).cut path

/-! ## A pass through a segment -/

/-- Where the segment ends, after a part of it. -/
def finishAfter (seen : Text) (ahead : Nat) : Option Nat :=
  if seen = [] then none else some (ahead + seen.length)

/-- What a pass remembers **after a part of a segment**, which is given backward and has some
characters ahead. -/
def after (seen : Text) (ahead : Nat) : ExtensionScan :=
  match seen.dropWhile (· != '.') with
  | [] => ⟨0, finishAfter seen ahead, none, .nothing⟩
  | _ :: left => ⟨0, finishAfter seen ahead, some (ahead + left.length), .ofText left⟩

variable {seen segment rest : Text} {s : ExtensionScan}

theorem after_of_no_dot (h : seen.dropWhile (· != '.') = []) (ahead : Nat) :
    after seen ahead = ⟨0, finishAfter seen ahead, none, .nothing⟩ := by
  rw [after, h]

theorem after_of_dot {d : Char} {left : Text} (h : seen.dropWhile (· != '.') = d :: left)
    (ahead : Nat) :
    after seen ahead = ⟨0, finishAfter seen ahead, some (ahead + left.length), .ofText left⟩ := by
  rw [after, h]

@[simp] theorem finish_after (seen : Text) (ahead : Nat) :
    (after seen ahead).finish = finishAfter seen ahead := by
  rw [after]
  split <;> rfl

/-- The **end** of the segment is where its first character is met. -/
theorem finishAfter_append_singleton (seen : Text) (c : Char) (ahead : Nat) :
    finishAfter (seen ++ [c]) ahead = some ((finishAfter seen (ahead + 1)).getD (ahead + 1)) := by
  have longer : seen ++ [c] ≠ [] := List.concat_ne_nil c seen
  rw [finishAfter, if_neg longer, finishAfter, List.length_append, List.length_singleton]
  split
  · rename_i none
    rw [none, List.length_nil, Nat.zero_add, Option.getD_none]
  · rw [Option.getD_some, Nat.add_assoc, Nat.add_comm 1]

/-- **One character** of a segment is met. -/
theorem see_after (seen : Text) (c : Char) (ahead : Nat) :
    (after seen (ahead + 1)).see c ahead = after (seen ++ [c]) ahead := by
  -- Only the first dot that is met is kept. After it, a character is what stands to its left.
  cases found : seen.dropWhile (· != '.') with
  | nil =>
    have further : (seen ++ [c]).dropWhile (· != '.') = if c = '.' then [c] else [] := by
      rw [List.dropWhile_append, found, List.isEmpty_nil, if_pos rfl]
      by_cases dot : c = '.' <;> simp [dot]
    rw [after_of_no_dot found, see]
    by_cases dot : c = '.'
    · rw [if_pos dot] at further
      rw [after_of_dot further, finishAfter_append_singleton]
      simp [dot, LeftOfDot.ofText]
    · rw [if_neg dot] at further
      rw [after_of_no_dot further, finishAfter_append_singleton]
      simp [dot]
  | cons d left =>
    have further : (seen ++ [c]).dropWhile (· != '.') = d :: (left ++ [c]) := by
      rw [List.dropWhile_append, found]
      rfl
    rw [after_of_dot found, after_of_dot further, see, finishAfter_append_singleton,
      LeftOfDot.ofText_append_singleton, List.length_append, List.length_singleton,
      Nat.add_assoc ahead 1, Nat.add_comm 1]

/-- A **whole segment** is met. -/
theorem run_after (seen : Text) (noSlash : '/' ∉ segment) (rest : Text) :
    (after seen (segment.length + rest.length)).run (segment ++ rest)
      = (after (seen ++ segment) rest.length).run rest := by
  -- On what is still to be met of the segment: each character goes over to the part that has been.
  induction segment generalizing seen with
  | nil => rw [List.append_nil, List.length_nil, Nat.zero_add, List.nil_append]
  | cons c segment ih =>
    obtain ⟨first, others⟩ := not_or.mp (mt List.mem_cons.mpr noSlash)
    have step := see_after seen c (segment.length + rest.length)
    rw [List.cons_append, run, if_neg (Ne.symm first), List.length_append, List.length_cons,
      Nat.add_right_comm, step, ih _ others, List.append_assoc, List.singleton_append]

/-- The slashes at the end of a path are **skipped**. -/
theorem run_replicate_slash (none : s.finish = none) (n : Nat) (rest : Text) :
    s.run (List.replicate n '/' ++ rest) = s.run rest := by
  induction n with
  | zero => rfl
  | succ n ih => rw [List.replicate_succ, List.cons_append, run, if_pos rfl, none, ← ih]; rfl

/-- The pass **stops** at the slash before the segment, or with the path. -/
theorem run_of_ends (some : s.finish.isSome = true) (begins : s.start = 0)
    (ends : Text.Ends (· != '/') rest) : s.run rest = { s with start := rest.length } := by
  cases rest with
  | nil => rw [run, List.length_nil, ← begins]
  | cons c rest =>
    have slash : c = '/' := by simpa using ends
    rw [run, if_pos slash, if_pos some, List.length_cons]

/-- A pass through a whole path remembers **its last segment**. -/
theorem run_reverse (path : Text) : ∃ (n : Nat) (rest : Text),
    path = rest.reverse ++ (backwardSegment path).reverse ++ List.replicate n '/' ∧
      initial.run path.reverse
        = { after (backwardSegment path) rest.length with start := rest.length } := by
  obtain ⟨n, rest, split, ends, whole⟩ := exists_reverse_eq path
  refine ⟨n, rest, ?_, ?_⟩
  · have forward := congrArg List.reverse split
    rwa [List.reverse_reverse, List.reverse_append, List.reverse_append,
      List.reverse_replicate] at forward
  · have noSlash : '/' ∉ backwardSegment path := fun there =>
      no_slash_lastSegment path (List.mem_reverse.mpr there)
    have segment := run_after [] noSlash rest
    rw [List.nil_append] at segment
    rw [split, run_replicate_slash rfl]
    rcases eq_or_ne (backwardSegment path) [] with none | some
    · rw [none, whole none]
      rfl
    · have met : (after (backwardSegment path) rest.length).finish.isSome = true := by
        rw [finish_after, finishAfter, if_neg some, Option.isSome_some]
      have begins : (after (backwardSegment path) rest.length).start = 0 := by
        rw [after]
        split <;> rfl
      rw [← run_of_ends met begins ends, ← segment]
      rfl

/-! ## What is cut out -/

/-- The two dots of `..` are told from every other segment **by the positions**. -/
theorem eq_dots_iff {suffix left : Text} (noDot : '.' ∉ suffix) (ahead : Nat) :
    suffix ++ '.' :: left = ['.', '.'] ↔ LeftOfDot.ofText left = .dot ∧
      ahead + left.length + 1 = ahead + (suffix ++ '.' :: left).length ∧
      ahead + left.length = ahead + 1 := by
  constructor
  · intro dots
    cases suffix with
    | nil =>
      obtain rfl : left = ['.'] := (List.cons.inj dots).2
      exact ⟨rfl, rfl, rfl⟩
    | cons c suffix =>
      rw [List.cons_append] at dots
      exact absurd ((List.cons.inj dots).1 ▸ List.mem_cons_self) noDot
  · rintro ⟨dot, atEnd, second⟩
    rw [List.length_append, List.length_cons] at atEnd
    obtain rfl : suffix = [] := List.length_eq_zero_iff.mp (by omega)
    obtain ⟨c, rfl⟩ := List.length_eq_one_iff.mp (by omega : left.length = 1)
    have isDot : LeftOfDot.ofChar c = .dot := dot
    unfold LeftOfDot.ofChar at isDot
    split at isDot
    · rename_i same
      rw [same, List.nil_append]
    · exact LeftOfDot.noConfusion isDot

/-- Between its positions a segment is cut out of the path **from its last dot on**. -/
theorem drop_take_segment (before suffix left after : Text) :
    ((before.reverse ++ (suffix ++ '.' :: left).reverse ++ after).take
        (before.length + (suffix ++ '.' :: left).length)).drop (before.length + left.length)
      = '.' :: suffix.reverse := by
  have whole : before.length + (suffix ++ '.' :: left).length
      = (before.reverse ++ (suffix ++ '.' :: left).reverse).length := by
    simp only [List.length_append, List.length_reverse]
  have parts : before.reverse ++ (suffix ++ '.' :: left).reverse
      = (before.reverse ++ left.reverse) ++ '.' :: suffix.reverse := by simp
  have dot : before.length + left.length = (before.reverse ++ left.reverse).length := by simp
  rw [whole, List.take_left, parts, dot, List.drop_left]

/-- The pass **finds the extension**. -/
theorem extname_eq_extension (path : Text) : extname path = extension path := by
  obtain ⟨n, rest, split, final⟩ := run_reverse path
  rw [extname, final]
  rcases backwardSegment_cases path with noDot | ⟨suffix, left, whole, noDot, taken, found⟩
  · rw [after_of_no_dot noDot, extension_of_no_dot noDot, cut]
  · rw [after_of_dot found, extension_of_dot found, taken]
    rw [whole] at split ⊢
    have some : suffix ++ '.' :: left ≠ [] := by simp
    rw [finishAfter, if_neg some, cut]
    refine if_congr (or_congr LeftOfDot.ofText_eq_nothing_iff (eq_dots_iff noDot _).symm) rfl ?_
    rw [split, drop_take_segment]

end ExtensionScan

/-! ## The form and the place of an extension -/

/-- After its dot an extension has **no dot and no slash**. -/
theorem extension_eq_nil_or_exists (path : Text) :
    extension path = [] ∨ ∃ name, extension path = '.' :: name ∧ '.' ∉ name ∧ '/' ∉ name := by
  rcases eq_or_ne (extension path) [] with none | some
  · exact .inl none
  · obtain ⟨suffix, left, whole, -, noDot, -, found⟩ := exists_of_extension_ne_nil some
    refine .inr ⟨suffix.reverse, found, mt List.mem_reverse.mp noDot, fun there => ?_⟩
    refine no_slash_lastSegment path (List.mem_reverse.mpr ?_)
    rw [whole]
    exact List.mem_append_left _ (List.mem_reverse.mp there)

/-- An extension **ends** the path but for the slashes at its end. -/
theorem extension_suffix_trimEnd (path : Text) : extension path <:+ path.trimEnd (· == '/') := by
  rcases eq_or_ne (extension path) [] with none | some
  · rw [none]
    exact List.nil_suffix
  · obtain ⟨suffix, left, whole, -, -, -, found⟩ := exists_of_extension_ne_nil some
    have backward : suffix ++ ['.'] <+: backwardSegment path := by
      rw [whole, List.append_cons suffix '.' left]
      exact List.prefix_append _ _
    have segment : backwardSegment path <+: path.reverse.dropWhile (· == '/') :=
      List.takeWhile_prefix _
    rw [found, ← List.reverse_concat, Text.trimEnd]
    exact List.reverse_suffix.mpr (backward.trans segment)

/-- The **extension is found in one pass** backward. It is nothing, or a dot and what has no dot and
no slash; it ends the path but for slashes; and neither slashes at the end of the path nor anything
before the last segment change it. -/
theorem extension_found_in_one_pass (path : Text) :
    extension path = ExtensionScan.extname path ∧
      (extension path = [] ∨ ∃ name, extension path = '.' :: name ∧ '.' ∉ name ∧ '/' ∉ name) ∧
      extension path <:+ path.trimEnd (· == '/') ∧
      (∀ n, extension (path ++ List.replicate n '/') = extension path) ∧
      ∀ before rest, path = before ++ '/' :: rest → (∃ c ∈ rest, c ≠ '/') →
        ∀ other, extension (other ++ '/' :: rest) = extension path := by
  refine ⟨(ExtensionScan.extname_eq_extension path).symm, extension_eq_nil_or_exists path,
    extension_suffix_trimEnd path, fun n => ?_, ?_⟩
  · exact extension_congr (lastSegment_append_slashes path n)
  · rintro before rest rfl named other
    exact extension_congr (by
      rw [lastSegment_append_slash other named, lastSegment_append_slash before named])

/-- The extension of an archive, two dots in front of its name and slashes after it, is found in one
pass, and the same below another directory. -/
theorem extension_found_in_one_pass_archive :
    let path := "/v1.2//..ä.tar.gz//".toList
    let name := "..ä.tar.gz//".toList
    path = "/v1.2/".toList ++ '/' :: name ∧ (∃ c ∈ name, c ≠ '/') ∧
      ExtensionScan.extname path = ".gz".toList ∧
      extension ("..".toList ++ '/' :: name) = ".gz".toList := by
  intro path name
  have whole : path = "/v1.2/".toList ++ '/' :: name := by decide
  have named : ∃ c ∈ name, c ≠ '/' := ⟨'.', by decide, by decide⟩
  have found : extension path = ".gz".toList := by decide
  obtain ⟨pass, -, -, -, place⟩ := extension_found_in_one_pass path
  exact ⟨whole, named, pass.symm.trans found, (place _ _ whole named _).trans found⟩

end StaticGzip
