import Mathlib.Data.List.Basic
import Mathlib.Data.List.Induction
import StaticGzip.Proofs.Path.Join

/-! # Joining within a root is normalisation

The names on the stack are all that a candidate adds to the components of a root. The text of the
joined path is that of the root and the names behind it, as long as no name is taken off the stack:
going back also takes off what trails the root.

* **`Path.NeverBack`** — a candidate that takes no name off the stack.
* **`Path.textWith`** — the text of a root with names behind it.
* **`Path.joinWithin_normalises`** — the join, in components, depth and text. -/

namespace StaticGzip.Path

/-! ## Candidates that never go back -/

/-- The segments that come from some names on the stack **never go back** if there is no name on it
at any `..`. -/
def NeverBackFrom (names : List Text) (segments : List Text) : Prop :=
  ∀ before after, segments = before ++ ['.', '.'] :: after → before.foldl descend names = []

/-- A candidate **never goes back** if there is no name on the stack at any of its `..`. -/
def NeverBack (candidate : Text) : Prop := NeverBackFrom [] (candidate.splitOn '/')

theorem NeverBackFrom.tail {names : List Text} {segment : Text} {segments : List Text}
    (h : NeverBackFrom names (segment :: segments)) :
    NeverBackFrom (descend names segment) segments := by
  rintro before after rfl
  exact h (segment :: before) after rfl

/-- The path of a walk that never goes back is that of the names on the stack, **pushed one after
the other**. -/
theorem path_foldl_step_eq {root : Path} {w : Walk} {names segments : List Text}
    (depth : w.depth = names.length) (path : w.path = names.foldl push root)
    (never : NeverBackFrom names segments) :
    (segments.foldl Walk.step w).path = (segments.foldl descend names).foldl push root := by
  induction segments generalizing w names with
  | nil => exact path
  | cons segment segments ih =>
    have later := never.tail
    rw [List.foldl_cons, List.foldl_cons]
    by_cases blank : isBlank segment = true
    · rw [descend_of_isBlank blank] at later ⊢
      rw [Walk.step, if_pos blank]
      exact ih depth path later
    by_cases back : segment = ['.', '.']
    · -- At the root there is nothing to go back from.
      subst back
      obtain rfl : names = [] := never [] segments rfl
      have still : w.step ['.', '.'] = w := by simp [Walk.step, isBlank, depth]
      rw [still]
      exact ih depth path later
    · have down : descend names segment = names ++ [segment] := by
        rw [descend, if_neg blank, if_neg back]
      rw [down] at later ⊢
      rw [Walk.step, if_neg blank, if_neg back]
      refine ih ?_ ?_ later
      · rw [depth, List.length_append, List.length_singleton]
      · rw [List.foldl_append, ← path, List.foldl_cons, List.foldl_nil]

/-! ## Texts with names behind them -/

/-- The **text of a root with names behind it**: slashes stand between them, and none in front of
the first one if the root is empty or ends in a slash. -/
def textWith (root : Path) (names : List Text) : Text :=
  if names = [] then root.text
  else if root.text = [] ∨ root.text.getLast? = some '/' then
    root.text ++ ['/'].intercalate names
  else root.text ++ '/' :: ['/'].intercalate names

@[simp] theorem textWith_nil (root : Path) : root.textWith [] = root.text := rfl

/-- One name is pushed **onto the text**. -/
theorem text_push (p : Path) (name : Text) : (p.push name).text = p.textWith [name] := by
  rw [push, textWith, if_neg (List.cons_ne_nil _ _), List.intercalate_singleton]
  split <;> rfl

/-- After an ordinary name **a slash stands** before the next one. -/
theorem textWith_push (p : Path) {name : Text} (h : IsOrdinary name) (next : Text) :
    (p.push name).textWith [next] = (p.push name).text ++ '/' :: next := by
  -- Whatever stands before the name, the text ends as the name does.
  have ends : ∃ before, (p.push name).text = before ++ name := by
    unfold push
    split
    · exact ⟨_, rfl⟩
    · exact ⟨p.text ++ ['/'], by simp⟩
  obtain ⟨before, ends⟩ := ends
  have begun : (p.push name).text ≠ [] := by simp [ends, h.ne_nil]
  have noSlash : (p.push name).text.getLast? ≠ some '/' := by
    rw [ends, List.getLast?_append_of_ne_nil _ h.ne_nil]
    exact fun slash => h.no_slash (List.mem_of_getLast? slash)
  rw [textWith, if_neg (List.cons_ne_nil _ _), if_neg (by simp [begun, noSlash]),
    List.intercalate_singleton]

/-- One more name behind others follows **a slash**. -/
theorem textWith_append_singleton (root : Path) {names : List Text} (h : names ≠ [])
    (name : Text) : root.textWith (names ++ [name]) = root.textWith names ++ '/' :: name := by
  rw [textWith, textWith, if_neg h, if_neg (by simp), intercalate_append_slash h (by simp),
    List.intercalate_singleton]
  split <;> simp

/-- Ordinary names pushed one after the other stand **behind the text** of the root. -/
theorem text_foldl_push (root : Path) {names : List Text} (ordinary : ∀ n ∈ names, IsOrdinary n) :
    (names.foldl push root).text = root.textWith names := by
  induction names using List.reverseRecOn with
  | nil => rfl
  | append_singleton names name ih =>
    have before := ih fun n hn => ordinary n (List.mem_append_left _ hn)
    rw [List.foldl_append, List.foldl_cons, List.foldl_nil, text_push]
    rcases List.eq_nil_or_concat' names with rfl | ⟨names, last, rfl⟩
    · rfl
    · have ordinaryLast : IsOrdinary last := ordinary last (by simp)
      rw [List.foldl_append, List.foldl_cons, List.foldl_nil] at before ⊢
      rw [textWith_push _ ordinaryLast, before]
      exact (textWith_append_singleton root (by simp) name).symm

/-! ## The join -/

/-- The **join is normalisation**: below the root it leads to the names on the stack. -/
structure Normalises (root : Path) (candidate : Text) : Prop where
  /-- The components are those of the root, and then the names on the stack. -/
  components : (root.joinWithin candidate).components
    = root.components ++ (namesBelow candidate).map .name
  /-- After every segment the walk is as deep as the stack is high. -/
  depth : ∀ segments, segments <+: candidate.splitOn '/' →
    (segments.foldl Walk.step ⟨root, 0⟩).depth = (segments.foldl descend []).length
  /-- Candidates with the same stack are joined to the same path. -/
  stack : ∀ other, namesBelow other = namesBelow candidate →
    (root.joinWithin other).components = (root.joinWithin candidate).components
  /-- A candidate that never goes back leaves the text of the root as it is. -/
  text : NeverBack candidate → (root.joinWithin candidate).text
    = root.textWith (namesBelow candidate)

/-- **Joining within a root is normalisation** on a stack of segments, for every root and every
candidate. -/
theorem joinWithin_normalises (root : Path) (candidate : Text) : Normalises root candidate := by
  constructor
  case components => exact components_joinWithin root candidate
  case depth =>
    intro segments part
    have noSlash : ∀ s ∈ segments, '/' ∉ s := fun s hs => no_slash_of_mem_splitOn (part.subset hs)
    exact ((tracks_root root).foldl noSlash).depth
  case stack =>
    intro other same
    rw [components_joinWithin, components_joinWithin, same]
  case text =>
    intro never
    have path : root.joinWithin candidate = (namesBelow candidate).foldl push root :=
      path_foldl_step_eq rfl rfl never
    rw [path]
    exact text_foldl_push root fun _ => isOrdinary_of_mem_namesBelow

/-- Below a root that ends in a dot, a candidate that climbs at once only finds the root, and the
text of the root stays. -/
theorem joinWithin_normalises_climbing :
    let root := Path.ofString "a/."
    let candidate := "/..//css/./site.css/".toList
    NeverBack candidate ∧
      root.textWith (namesBelow candidate) = "a/./css/site.css".toList ∧
      (root.joinWithin candidate).text = root.textWith (namesBelow candidate) := by
  intro root candidate
  have never : NeverBack candidate := by
    intro before after split
    have whole : candidate.splitOn '/'
        = [[], ['.', '.'], [], "css".toList, ['.'], "site.css".toList, []] := by decide
    rw [whole] at split
    -- The one `..` comes second, and before it there is an empty segment.
    match before, split with
    | [], split => simp at split
    | [first], split =>
      obtain rfl : [] = first := (List.cons.inj split).1
      rfl
    | first :: second :: before, split =>
      have later : ['.', '.'] ∈ [[], "css".toList, ['.'], "site.css".toList, []] := by
        rw [(List.cons.inj (List.cons.inj split).2).2]
        simp
      exact absurd later (by decide)
  exact ⟨never, by decide, (joinWithin_normalises root candidate).text never⟩

/-- Going back takes off what trails the root. -/
example : (ofString "a/.").joinWithin "x/..".toList = ofString "a" := by decide

end StaticGzip.Path
