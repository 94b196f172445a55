import StaticGzip.Proofs.Path.Join
import StaticGzip.Proofs.Text.Run
import StaticGzip.Route

/-! # The last segment of a path that is routed

The extension of a path is read off its last segment, trailing slashes ignored. The join reads the
same path segment by segment. Here the two meet: the segment that the extension is taken from is the
last one that is not empty, and a segment with an extension is an ordinary name.

* **`exists_reverse_eq`** — a path read backward: slashes, the last segment, and what is before it.
* **`extension_of_no_dot`, `extension_of_dot`** — the extension by the last dot of the segment.
* **`splitOn_eq_lastSegment`** — the segments of a path end in the last one, and then empty ones.
* **`isOrdinary_lastSegment`** — an extension is found only in an ordinary name.
* **`Route.namesBelow_file_ne_nil`** — a routed file lies strictly below the root. -/

namespace StaticGzip

open StaticGzip.Path

/-- The **last segment** of a path, trailing slashes ignored. -/
def lastSegment (path : Text) : Text := (backwardSegment path).reverse

/-! ## The last segment -/

/-- A path read backward is slashes, its last segment, and a **rest** that begins with a slash. Only
slashes are no segment. -/
theorem exists_reverse_eq (path : Text) : ∃ n rest,
    path.reverse = List.replicate n '/' ++ (backwardSegment path ++ rest) ∧
      Text.Ends (· != '/') rest ∧ (backwardSegment path = [] → rest = []) := by
  obtain ⟨n, slashes⟩ : ∃ n, path.reverse.takeWhile (· == '/') = List.replicate n '/' :=
    ⟨_, List.eq_replicate_of_mem fun c hc => by simpa using List.mem_takeWhile_imp hc⟩
  have ends := Text.ends_dropWhile (· != '/') (path.reverse.dropWhile (· == '/'))
  refine ⟨n, (path.reverse.dropWhile (· == '/')).dropWhile (· != '/'), ?_, ends, fun none => ?_⟩
  · rw [← slashes, backwardSegment, List.takeWhile_append_dropWhile,
      List.takeWhile_append_dropWhile]
  · have first := Text.ends_dropWhile (· == '/') path.reverse
    rw [backwardSegment] at none
    cases trimmed : path.reverse.dropWhile (· == '/') with
    | nil => rfl
    | cons c more =>
      rw [trimmed, Text.ends_cons] at first
      rw [trimmed, List.takeWhile_cons_of_pos (by simpa using first)] at none
      exact absurd none (List.cons_ne_nil _ _)

/-- A path is cut before its last segment and before the slashes that trail it. -/
theorem exists_eq_lastSegment (path : Text) :
    ∃ before n, path = before ++ lastSegment path ++ List.replicate n '/' ∧
      (before = [] ∨ ∃ start, before = start ++ ['/']) := by
  obtain ⟨n, rest, backward, ends, -⟩ := exists_reverse_eq path
  have forward := congrArg List.reverse backward
  rw [List.reverse_reverse, List.reverse_append, List.reverse_append, List.reverse_replicate,
    ← lastSegment] at forward
  refine ⟨rest.reverse, n, forward, ?_⟩
  cases rest with
  | nil => exact .inl rfl
  | cons c more => exact .inr ⟨more.reverse, by simpa using ends⟩

/-- No last segment has a slash. -/
theorem no_slash_lastSegment (path : Text) : '/' ∉ lastSegment path := by
  intro h
  simpa using List.mem_takeWhile_imp (List.mem_reverse.mp h)

/-- A text without slashes is **one segment**. -/
theorem lastSegment_of_no_slash {segment : Text} (noSlash : '/' ∉ segment) :
    lastSegment segment = segment := by
  have ordinary := Text.ne_of_not_mem (mt List.mem_reverse.mp noSlash)
  have untrailed : segment.reverse.dropWhile (· == '/') = segment.reverse := by
    refine Text.Ends.dropWhile_eq fun c first => ?_
    simpa using ordinary c (List.mem_of_mem_head? first)
  rw [lastSegment, backwardSegment, untrailed, List.takeWhile_eq_self_iff.mpr ordinary,
    List.reverse_reverse]

/-- Slashes **at the end** of a path are not part of its last segment. -/
theorem lastSegment_append_slashes (path : Text) (n : Nat) :
    lastSegment (path ++ List.replicate n '/') = lastSegment path := by
  have slashes : ∀ c ∈ List.replicate n '/', (c == '/') = true := by
    intro c there
    rw [List.eq_of_mem_replicate there, beq_self_eq_true]
  rw [lastSegment, backwardSegment, List.reverse_append, List.reverse_replicate,
    List.dropWhile_append_of_pos slashes, ← backwardSegment, ← lastSegment]

/-- What stands **before a slash** is not part of the last segment, if anything but slashes comes
after it. -/
theorem lastSegment_append_slash (before : Text) {rest : Text} (named : ∃ c ∈ rest, c ≠ '/') :
    lastSegment (before ++ '/' :: rest) = lastSegment rest := by
  obtain ⟨c, there, other⟩ := named
  have trimmed : (rest.reverse.dropWhile (· == '/')).isEmpty = false := by
    rw [List.isEmpty_eq_false_iff, Ne, List.dropWhile_eq_nil_iff]
    intro slashes
    exact other (by simpa using slashes c (List.mem_reverse.mpr there))
  have backward : (before ++ '/' :: rest).reverse = rest.reverse ++ '/' :: before.reverse := by simp
  rw [lastSegment, backwardSegment, backward, List.dropWhile_append, trimmed,
    if_neg Bool.false_ne_true, List.takeWhile_append, lastSegment, backwardSegment]
  split
  · rename_i all
    have whole := List.IsPrefix.eq_of_length (List.takeWhile_prefix _) all
    rw [whole, List.takeWhile_cons_of_neg (by decide), List.append_nil]
  · rfl

/-! ## Extensions -/

/-- A segment that is read backward has no dot, or **a last dot** and something before it. -/
theorem backwardSegment_cases (path : Text) :
    (backwardSegment path).dropWhile (· != '.') = [] ∨
      ∃ suffix left, backwardSegment path = suffix ++ '.' :: left ∧ '.' ∉ suffix ∧
        (backwardSegment path).takeWhile (· != '.') = suffix ∧
        (backwardSegment path).dropWhile (· != '.') = '.' :: left := by
  have whole : (backwardSegment path).takeWhile (· != '.')
      ++ (backwardSegment path).dropWhile (· != '.') = backwardSegment path :=
    List.takeWhile_append_dropWhile
  have first := Text.ends_dropWhile (· != '.') (backwardSegment path)
  cases found : (backwardSegment path).dropWhile (· != '.') with
  | nil => exact .inl rfl
  | cons d left =>
    rw [found, Text.ends_cons] at first
    obtain rfl : d = '.' := by simpa using first
    rw [found] at whole
    refine .inr ⟨_, left, whole.symm, fun there => ?_, rfl, rfl⟩
    exact absurd (List.mem_takeWhile_imp there) (by decide)

/-- Without a dot there is **no extension**. -/
theorem extension_of_no_dot {path : Text}
    (h : (backwardSegment path).dropWhile (· != '.') = []) : extension path = [] := by
  rw [extension]
  dsimp only
  rw [Text.drop_length_takeWhile, h]
  split <;> rfl

/-- An extension begins at the **last dot** and goes to the end of the segment. -/
theorem extension_of_dot {path left : Text}
    (h : (backwardSegment path).dropWhile (· != '.') = '.' :: left) :
    extension path = if left = [] ∨ backwardSegment path = ['.', '.'] then []
      else '.' :: ((backwardSegment path).takeWhile (· != '.')).reverse := by
  rw [extension]
  dsimp only
  rw [Text.drop_length_takeWhile, h]
  by_cases dots : backwardSegment path = ['.', '.']
  · rw [if_pos dots, if_pos (.inr dots)]
  · rw [if_neg dots]
    cases left with
    | nil =>
      rw [if_pos (.inl rfl)]
      rfl
    | cons c left =>
      rw [if_neg (not_or.mpr ⟨List.cons_ne_nil _ _, dots⟩)]
      rfl

/-- What has an extension has **a dot and something before it**, and is not just two dots. -/
theorem exists_of_extension_ne_nil {path : Text} (h : extension path ≠ []) :
    ∃ suffix left, backwardSegment path = suffix ++ '.' :: left ∧ left ≠ [] ∧ '.' ∉ suffix ∧
      backwardSegment path ≠ ['.', '.'] ∧ extension path = '.' :: suffix.reverse := by
  rcases backwardSegment_cases path with noDot | ⟨suffix, left, whole, noDot, taken, found⟩
  · exact absurd (extension_of_no_dot noDot) h
  · rw [extension_of_dot found, taken] at h ⊢
    by_cases short : left = [] ∨ backwardSegment path = ['.', '.']
    · exact absurd (if_pos short) h
    · obtain ⟨some, more⟩ := not_or.mp short
      exact ⟨suffix, left, whole, some, noDot, more, if_neg short⟩

/-- An extension is found only in **an ordinary name**. -/
theorem isOrdinary_lastSegment {path : Text} (h : extension path ≠ []) :
    IsOrdinary (lastSegment path) := by
  obtain ⟨suffix, left, whole, some, -, dots, -⟩ := exists_of_extension_ne_nil h
  -- A dot and something before it are at least two characters.
  have long : 2 ≤ (lastSegment path).length := by
    have before : 0 < left.length := List.length_pos_iff.mpr some
    rw [lastSegment, List.length_reverse, whole, List.length_append, List.length_cons]
    omega
  refine ⟨?_, no_slash_lastSegment path, ?_, ?_⟩
  · intro none
    rw [none] at long
    exact absurd long (by decide)
  · intro dot
    rw [dot] at long
    exact absurd long (by decide)
  · intro same
    rw [lastSegment, List.reverse_eq_iff] at same
    exact dots same

/-! ## Segments -/

/-- Slashes alone separate empty segments. -/
theorem splitOn_replicate_slash (n : Nat) :
    (List.replicate n '/').splitOn '/' = List.replicate (n + 1) [] := by
  induction n with
  | zero => rfl
  | succ n ih =>
    have := List.splitOn_append_cons_self (a := '/') [] (List.replicate n '/')
    rw [ih] at this
    exact this

/-- A segment and the slashes that trail it. -/
theorem splitOn_append_replicate {segment : Text} (noSlash : '/' ∉ segment) (n : Nat) :
    (segment ++ List.replicate n '/').splitOn '/' = segment :: List.replicate n [] := by
  cases n with
  | zero =>
    rw [List.replicate_zero, List.append_nil]
    exact List.splitOn_eq_singleton noSlash
  | succ n =>
    rw [List.replicate_succ, List.splitOn_append_cons_self_of_not_mem noSlash,
      splitOn_replicate_slash]

/-- The segments of a path end in **the last one**, and then empty ones. -/
theorem splitOn_eq_lastSegment (path : Text) :
    ∃ before n, path.splitOn '/' = before ++ lastSegment path :: List.replicate n [] := by
  obtain ⟨before, n, whole, begins⟩ := exists_eq_lastSegment path
  have last := splitOn_append_replicate (no_slash_lastSegment path) n
  rcases begins with rfl | ⟨start, rfl⟩
  · refine ⟨[], n, ?_⟩
    rw [← last]
    exact congrArg (List.splitOn '/') whole
  · refine ⟨start.splitOn '/', n, ?_⟩
    rw [← last, ← List.splitOn_append_cons_self]
    refine congrArg (List.splitOn '/') (whole.trans ?_)
    simp

/-- Empty segments leave the stack alone. -/
theorem foldl_descend_replicate (names : List Text) (n : Nat) :
    (List.replicate n []).foldl descend names = names := by
  induction n with
  | zero => rfl
  | succ n ih =>
    rw [List.replicate_succ, List.foldl_cons, descend_of_isBlank isBlank_nil, ih]

/-- A path with an extension leads to **its last segment**, the last name below the root. -/
theorem exists_namesBelow_of_extension {path : Text} (h : extension path ≠ []) :
    ∃ names, namesBelow path = names ++ [lastSegment path] := by
  obtain ⟨before, n, split⟩ := splitOn_eq_lastSegment path
  refine ⟨before.foldl descend [], ?_⟩
  rw [namesBelow, split, List.foldl_append, List.foldl_cons,
    descend_of_isOrdinary (isOrdinary_lastSegment h), foldl_descend_replicate]

/-- The index file is one name below the root. -/
theorem namesBelow_indexFile : namesBelow indexFile = [indexFile] := by decide

/-- A **routed file** lies strictly below the root. -/
theorem Route.namesBelow_file_ne_nil {path : Text} {headers : Http.Headers} {route : Route}
    (h : Route.ofRequest? path headers = some route) : namesBelow route.file ≠ [] := by
  unfold Route.ofRequest? at h
  split at h
  · rename_i found
    -- Whatever the segments before did, the last one puts its name on the stack.
    obtain ⟨names, below⟩ := exists_namesBelow_of_extension found
    rw [← Option.some.inj h, below]
    simp
  · split at h
    · rw [← Option.some.inj h, namesBelow_indexFile]
      simp
    · exact absurd h (by simp)

end StaticGzip
