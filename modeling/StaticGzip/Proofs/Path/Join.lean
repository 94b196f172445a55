import StaticGzip.Proofs.Path.Components

/-! # Joining below a root is a walk on a stack of names

A candidate is walked on the text of the path. The same walk on a stack of names says where it
ends: below the root, at the names that are left on the stack.

* **`Path.descend`** — one segment on the stack: blank ones stay, `..` takes the last name off,
  and any other segment goes on.
* **`Path.namesBelow`** — the stack at the end of a candidate.
* **`Path.tracks_walk`** — the text and the stack walk together.
* **`Path.components_joinWithin`** — the components of the root, then the names on the stack. -/

namespace StaticGzip.Path

/-! ## The stack -/

/-- One segment of a candidate on a **stack of names**, the last one innermost. -/
def descend (names : List Text) (segment : Text) : List Text :=
  if isBlank segment then names
  else if segment = ['.', '.'] then names.dropLast
  else names ++ [segment]

/-- The **names below the root** to which a candidate leads. -/
def namesBelow (candidate : Text) : List Text := (candidate.splitOn '/').foldl descend []

/-- A blank segment stays. -/
theorem descend_of_isBlank {names : List Text} {segment : Text} (h : isBlank segment = true) :
    descend names segment = names := by
  rw [descend, if_pos h]

/-- An ordinary name goes on the stack. -/
theorem descend_of_isOrdinary {names : List Text} {name : Text} (h : IsOrdinary name) :
    descend names name = names ++ [name] := by
  rw [descend, if_neg (by simp [h.isBlank_eq_false]), if_neg h.ne_parent]

/-- Only ordinary names are on the stack, if only they were before. -/
theorem isOrdinary_descend {names : List Text} {segment : Text}
    (ordinary : ∀ n ∈ names, IsOrdinary n) (noSlash : '/' ∉ segment) :
    ∀ n ∈ descend names segment, IsOrdinary n := by
  intro n hn
  unfold descend at hn
  split at hn
  · exact ordinary n hn
  split at hn
  · exact ordinary n (List.dropLast_subset _ hn)
  · rename_i blank back
    rcases List.mem_append.mp hn with hn | hn
    · exact ordinary n hn
    · rw [List.mem_singleton.mp hn]
      exact isOrdinary_of_segment noSlash (by simpa using blank) back

/-- Segments without a slash leave only ordinary names on the stack. -/
theorem isOrdinary_foldl_descend {segments names : List Text}
    (noSlash : ∀ s ∈ segments, '/' ∉ s) (ordinary : ∀ n ∈ names, IsOrdinary n) :
    ∀ n ∈ segments.foldl descend names, IsOrdinary n := by
  induction segments generalizing names with
  | nil => exact ordinary
  | cons segment segments ih =>
    refine ih (fun s hs => noSlash s (List.mem_cons_of_mem _ hs)) ?_
    exact isOrdinary_descend ordinary (noSlash segment List.mem_cons_self)

/-- The names below the root are ordinary. -/
theorem isOrdinary_of_mem_namesBelow {candidate name : Text} (h : name ∈ namesBelow candidate) :
    IsOrdinary name :=
  isOrdinary_foldl_descend (fun _ => no_slash_of_mem_splitOn) (by simp) name h

/-! ## The walk on the text -/

/-- A walk on the text **tracks** a stack: it has descended by as many names, and its path has the
components of the root and then those names. -/
structure Walk.Tracks (root : Path) (w : Walk) (names : List Text) : Prop where
  depth : w.depth = names.length
  components : w.path.components = root.components ++ names.map .name

/-- At the root the stack is empty. -/
theorem tracks_root (root : Path) : Walk.Tracks root ⟨root, 0⟩ [] := ⟨rfl, by simp⟩

/-- The text and the stack **take a segment together**. -/
theorem Walk.Tracks.step {root : Path} {w : Walk} {names : List Text} (h : w.Tracks root names)
    {segment : Text} (noSlash : '/' ∉ segment) :
    (w.step segment).Tracks root (descend names segment) := by
  unfold Walk.step descend
  by_cases blank : isBlank segment = true
  · rw [if_pos blank, if_pos blank]
    exact h
  rw [if_neg blank, if_neg blank]
  by_cases back : segment = ['.', '.']
  · rw [if_pos back, if_pos back]
    by_cases descended : 0 < w.depth
    · -- There is a last name, and going back on the text removes that very one.
      rw [if_pos descended]
      have nonempty : names ≠ [] := by
        rw [h.depth] at descended
        exact List.length_pos_iff.mp descended
      obtain ⟨before, name, rfl⟩ : ∃ before name, names = before ++ [name] :=
        ⟨_, _, (List.dropLast_concat_getLast nonempty).symm⟩
      have components := h.components
      rw [List.map_append, ← List.append_assoc] at components
      refine ⟨?_, ?_⟩
      · simp [h.depth]
      · rw [List.dropLast_concat]
        exact components_pop components
    -- At the root there is nothing to go back from, on the text and on the stack.
    · rw [if_neg descended]
      have empty : names = [] := by
        rw [h.depth] at descended
        simpa using descended
      rw [empty] at h ⊢
      exact h
  · rw [if_neg back, if_neg back]
    have name : IsOrdinary segment := isOrdinary_of_segment noSlash (by simpa using blank) back
    refine ⟨?_, ?_⟩
    · simp [h.depth]
    · rw [components_push _ name, h.components, List.map_append, List.append_assoc]
      rfl

/-- The text and the stack **take all segments together**. -/
theorem Walk.Tracks.foldl {root : Path} {w : Walk} {names : List Text} (h : w.Tracks root names)
    {segments : List Text} (noSlash : ∀ s ∈ segments, '/' ∉ s) :
    (segments.foldl Walk.step w).Tracks root (segments.foldl descend names) := by
  induction segments generalizing w names with
  | nil => exact h
  | cons segment segments ih =>
    exact ih (h.step (noSlash segment List.mem_cons_self))
      fun s hs => noSlash s (List.mem_cons_of_mem _ hs)

/-- The walk of a candidate tracks the names below the root. -/
theorem tracks_walk (root : Path) (candidate : Text) :
    (walk root candidate).Tracks root (namesBelow candidate) :=
  (tracks_root root).foldl fun _ => no_slash_of_mem_splitOn

/-- A candidate **joined within the root** has the components of the root, and then the names to
which the candidate leads. -/
theorem components_joinWithin (root : Path) (candidate : Text) :
    (root.joinWithin candidate).components
      = root.components ++ (namesBelow candidate).map .name :=
  (tracks_walk root candidate).components

end StaticGzip.Path
