import StaticGzip.Text.Basic

/-! # File paths

A path is its text; its meaning is the list of its components. Repeated slashes and dots that do
not lead the path carry no component.

* **`Path.components`** — the root, a leading dot, and then parents and names in order.
* **`Path.push`** — one more name, after a slash where the text does not already end in one.
* **`Path.parent?`** — the path without its last component, together with the slashes and dots
  that trail what is left.
* **`Path.joinWithin`** — a candidate walked segment by segment below a root, never above it. -/

namespace StaticGzip

/-- A **path** is its text. -/
structure Path where
  text : Text
deriving DecidableEq, Repr, Inhabited

namespace Path

/-- The path written by a string. -/
def ofString (s : String) : Path := ⟨s.toList⟩

/-- The path as a string. -/
def display (p : Path) : String := String.ofList p.text

/-! ## Components -/

/-- A **component** of a path. -/
inductive Component where
  | root
  | current
  | parent
  | name (segment : Text)
deriving DecidableEq, Repr

/-- The **anchor** of a path: its root slash, or a dot that is its whole first segment. -/
def anchor : Text → Text
  | '/' :: _ => ['/']
  | ['.'] => ['.']
  | '.' :: '/' :: _ => ['.']
  | _ => []

/-- What follows the anchor. -/
def body (t : Text) : Text := t.drop (anchor t).length

@[simp] theorem anchor_append_body (t : Text) : anchor t ++ body t = t := by
  unfold body anchor
  split <;> simp

/-- A **blank** segment is empty or a dot; it stands for no component. -/
def isBlank (segment : Text) : Bool := segment == [] || segment == ['.']

@[simp] theorem isBlank_nil : isBlank [] = true := rfl

@[simp] theorem isBlank_dot : isBlank ['.'] = true := rfl

/-- The component of a segment that follows the anchor. -/
def component? (segment : Text) : Option Component :=
  if isBlank segment then none
  else if segment = ['.', '.'] then some .parent
  else some (.name segment)

/-- The component of an anchor. -/
def anchorComponents (t : Text) : List Component :=
  match anchor t with
  | ['/'] => [.root]
  | ['.'] => [.current]
  | _ => []

/-- The **components** of a path in order. -/
def components (p : Path) : List Component :=
  anchorComponents p.text ++ ((body p.text).splitOn '/').filterMap component?

/-! ## Growing and shrinking a path -/

/-- The path with one more name at its end. A slash goes between, unless the path is empty or
already ends in one. -/
def push (p : Path) (name : Text) : Path :=
  if p.text = [] ∨ p.text.getLast? = some '/' then ⟨p.text ++ name⟩
  else ⟨p.text ++ '/' :: name⟩

/-- The segments after the anchor, last one first, without the blank ones at the end. -/
def backwardSegments (p : Path) : List Text :=
  ((body p.text).splitOn '/').reverse.dropWhile isBlank

/-- The path without its last component and without the slashes and dots that would then trail
it; a lone leading dot leaves the empty path, and neither the root nor the empty path has a
parent. -/
def parent? (p : Path) : Option Path :=
  match p.backwardSegments with
  | _ :: rest =>
    some ⟨anchor p.text ++ ['/'].intercalate (rest.dropWhile isBlank).reverse⟩
  | [] => if anchor p.text = ['.'] then some ⟨[]⟩ else none

/-- The parent, or the path itself where there is none. -/
def pop (p : Path) : Path := p.parent?.getD p

/-! ## Walking below a root -/

/-- A **walk** below a root: where it is, and how many names it has descended. -/
structure Walk where
  path : Path
  depth : Nat
deriving DecidableEq, Repr

/-- One segment of a walk. Blank segments stay, `..` goes back by one name if the walk has
descended at all, and any other segment is a name to descend into. -/
def Walk.step (w : Walk) (segment : Text) : Walk :=
  if isBlank segment then w
  else if segment = ['.', '.'] then
    if 0 < w.depth then ⟨w.path.pop, w.depth - 1⟩ else w
  else ⟨w.path.push segment, w.depth + 1⟩

/-- The walk along all segments of a candidate, from the root. -/
def walk (root : Path) (candidate : Text) : Walk :=
  (candidate.splitOn '/').foldl Walk.step ⟨root, 0⟩

/-- The **candidate joined within the root**: the end of its walk. -/
def joinWithin (root : Path) (candidate : Text) : Path := (walk root candidate).path

/-- An empty candidate stays at the root. -/
@[simp] theorem joinWithin_nil (root : Path) : joinWithin root [] = root := by
  simp [joinWithin, walk, Walk.step]

end Path

end StaticGzip
