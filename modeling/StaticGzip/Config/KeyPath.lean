import StaticGzip.Config.Value
import StaticGzip.Text.Reader

/-! # Key paths

A key path says where in a tree of tables and arrays a value belongs: `server.port`, `hosts[0]`.
Setting a value makes the tables and arrays on the way where there are none. Tables are merged
entry by entry, anything else is replaced. The case of keys does not matter.

* **`KeyPath.ofText?`** — the path that a text writes, if it writes one.
* **`KeyPath.ofKey`** — the path that a key stands for.
* **`KeyPath.set`** — the tree with a value at a path.
* **`KeyPath.isInReach`** — whether all positions of a path can be come to. -/

namespace StaticGzip.Config

/-- A **step** of a key path: into an entry of a table, or to an element of an array. A negative
position counts from the end. -/
inductive KeyStep where
  | child (key : String)
  | index (position : Int)
deriving DecidableEq, Repr

/-- A **key path**: an entry of the root, and the steps from there. -/
structure KeyPath where
  first : String
  steps : List KeyStep
deriving DecidableEq, Repr

namespace KeyPath

/-! ## Reading -/

/-- A character of a key that needs no quotes. -/
def isKeyChar (c : Char) : Bool := c.isAlphanum || c == ' ' || c == '_' || c == '-'

/-- A blank between brackets. -/
def isBlank (c : Char) : Bool := c == ' ' || c == '\t'

/-- A position in brackets, of at most 64 bits. -/
def position? : Reader Int := fun t => do
  let t := t.dropWhile isBlank
  let (negative, t) := match t with
    | '-' :: rest => (true, rest)
    | _ => (false, t)
  let (digits, t) ← Reader.many1? Char.isDigit t
  let n : Int := Decimal.digitsValue digits
  let n := if negative then -n else n
  if Value.fitsSigned n then some (n, t.dropWhile isBlank) else none

/-- A step with the mark that begins it. -/
def step? : Reader KeyStep
  | '.' :: t => (Reader.many1? isKeyChar t).map fun (key, rest) => (.child (String.ofList key), rest)
  | '[' :: t => do
    let (n, t) ← position? t
    some (.index n, ← Reader.skip? [']'] t)
  | _ => none

/-- The key path that a **text** writes, if all of it is one. -/
def ofText? (t : Text) : Option KeyPath := do
  let (first, rest) ← Reader.many1? isKeyChar t
  match Reader.many step? rest with
  | (steps, []) => some ⟨String.ofList first, steps⟩
  | _ => none

/-- The path that a **key** writes in lower case. A key that writes no path is an entry of the
root. -/
def ofKey (key : String) : KeyPath :=
  let lower := Text.lower key.toList
  (ofText? lower).getD ⟨String.ofList lower, []⟩

/-! ## Setting -/

/-- The entries of a table; whatever is no table has none. -/
def entriesOf : Value → List (String × Value)
  | .table _ entries => entries
  | _ => []

/-- The items of an array; whatever is no array has none. -/
def itemsOf : Value → List Value
  | .array _ items => items
  | _ => []

/-- The origin of a table; one that is made on the way has none. -/
def tableOrigin : Value → Origin
  | .table o _ => o
  | _ => none

/-- The origin of an array; one that is made on the way has none. -/
def arrayOrigin : Value → Origin
  | .array o _ => o
  | _ => none

/-- A table with one entry changed. -/
def updateEntry (key : String) (f : Option Value → Value) (v : Value) : Value :=
  .table (tableOrigin v) (Value.insert key (f (Value.lookup key (entriesOf v))) (entriesOf v))

/-- An array with one item changed; it is filled up with nothing as far as the item. A position
before the first item changes nothing. -/
def updateItem (position : Int) (f : Value → Value) (v : Value) : Value :=
  let items := itemsOf v
  let i := if position < 0 then items.length + position else position
  if i < 0 then .array (arrayOrigin v) items
  else
    let n := i.toNat
    let filled := items ++ List.replicate (n + 1 - items.length) (.nil none)
    .array (arrayOrigin v) (filled.modify n f)

mutual

/-- A value **put in the place** of another one. A table is merged into what is there, entry by
entry. -/
def put (v : Value) (old : Option Value) : Value :=
  match v with
  | .table _ entries => putEntries entries (old.getD .emptyTable)
  | v => v

/-- Entries merged into a value, which becomes a table unless there is nothing to merge. -/
def putEntries (entries : List (String × Value)) (into : Value) : Value :=
  match entries with
  | [] => into
  | (key, v) :: entries =>
    putEntries entries (updateEntry (Text.lowerString key) (put v) into)

end

/-- A value at the end of some steps from another one. An array's item is replaced and not
merged. -/
def setSteps : List KeyStep → Value → Option Value → Value
  | [], v, old => put v old
  | [.index n], v, old => updateItem n (fun _ => v) (old.getD (.nil none))
  | .child key :: steps, v, old => updateEntry key (setSteps steps v) (old.getD (.nil none))
  | .index n :: steps, v, old =>
    updateItem n (fun item => setSteps steps v (some item)) (old.getD (.nil none))

/-- The tree with a **value at a path**. -/
def set (path : KeyPath) (v : Value) (root : Value) : Value :=
  updateEntry path.first (setSteps path.steps v) root

/-! ## Positions -/

/-- Whether an array of so many items has **no place at a position**: the position may be before
the first item, or so far behind the last one that there is no room for as many items. -/
abbrev OutOfReach := Nat → Int → Bool

/-- Whether all positions among some steps from a value are in reach. -/
def stepsInReach (outOfReach : OutOfReach) : List KeyStep → Value → Bool
  | [], _ => true
  | .child key :: steps, v =>
    stepsInReach outOfReach steps ((Value.lookup key (entriesOf v)).getD (.nil none))
  | .index n :: steps, v =>
    let items := itemsOf v
    let i := if n < 0 then items.length + n else n
    !outOfReach items.length n
      && stepsInReach outOfReach steps ((items[i.toNat]?).getD (.nil none))

/-- Whether **all positions** of a path in a tree are in reach. -/
def isInReach (outOfReach : OutOfReach) (path : KeyPath) (root : Value) : Bool :=
  stepsInReach outOfReach (.child path.first :: path.steps) root

end KeyPath

end StaticGzip.Config
