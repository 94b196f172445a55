import StaticGzip.Config.Toml.Node
import StaticGzip.Config.Value

/-! # Reading documents of the TOML language

A document is a sequence of lines: assignments, headers of tables, headers of lists of tables, and
comments. Values nest between brackets and braces.

* **`Toml.value?`** — a value.
* **`Toml.document?`** — the tree of a whole document.
* **`Toml.read?`** — its entries as configuration values. -/

namespace StaticGzip.Config.Toml

/-! ## Blanks and comments -/

/-- The rest after a comment, if there is one. -/
def skipComment (t : Text) : Text :=
  match t with
  | '#' :: rest => rest.dropWhile isLineChar
  | _ => t

/-- The rest after blanks and an optional comment, which must be the end of the line or of the
text. -/
def lineEnd? (t : Text) : Option Text :=
  match skipComment (t.dropWhile isBlank) with
  | [] => some []
  | rest => newline? rest

/-- The rest after blanks, comments and line ends, as they may stand within an array. -/
def skipFiller : Nat → Text → Text
  | 0, t => t
  | fuel + 1, t =>
    match t.dropWhile isBlank with
    | '#' :: rest => skipFiller fuel (rest.dropWhile isLineChar)
    | rest =>
      match newline? rest with
      | some rest => skipFiller fuel rest
      | none => rest

/-- The rest after all the filler. -/
def skipAllFiller (t : Text) : Text := skipFiller t.length t

/-! ## Keys -/

/-- A character of a key without quotes. -/
def isBareKeyChar (c : Char) : Bool := c.isAlphanum || c == '_' || c == '-'

/-- One part of a key, with or without quotes. -/
def keyPart? : Reader Text := fun t =>
  match t with
  | '"' :: _ => lineString? t
  | '\'' :: _ => lineString? t
  | _ => Reader.many1? isBareKeyChar t

/-- The most parts that a key has. -/
def maxParts : Nat := 79

/-- A **key**: parts with dots between them and blanks around them. -/
def key? : Reader (List Text) := fun t => do
  let (first, t) ← keyPart? (t.dropWhile isBlank)
  let more : Reader Text := fun t => do
    let t ← Reader.skip? ['.'] (t.dropWhile isBlank)
    keyPart? (t.dropWhile isBlank)
  let (parts, t) := Reader.many more t
  if maxParts < parts.length + 1 then none else some (first :: parts, t.dropWhile isBlank)

/-- The parts of a key before its last one, and the last one. -/
def splitLast (parts : List Text) : List Text × Text := (parts.dropLast, parts.getLastD [])

/-! ## Values -/

/-- The items of an array after its opening bracket, up to its closing one; a comma may follow the
last item. -/
def items? (value : Reader Node) : Nat → List Node → Reader (List Node)
  | 0, _, _ => none
  | fuel + 1, backward, t =>
    match skipAllFiller t with
    | ']' :: rest => some (backward.reverse, rest)
    | t => do
      let (v, t) ← value t
      match skipAllFiller t with
      | ',' :: rest => items? value fuel (v :: backward) rest
      | ']' :: rest => some ((v :: backward).reverse, rest)
      | _ => none

/-- A key, an equals sign and a value. -/
def pair? (value : Reader Node) : Reader (List Text × Node) := fun t => do
  let (key, t) ← key? t
  let t ← Reader.skip? ['='] t
  let (v, t) ← value (t.dropWhile isBlank)
  some ((key, v), t)

/-- The assignments between braces after the first brace, on one line and without a comma at their
end. -/
def pairs? (value : Reader Node) : Nat → Entries → Reader Entries
  | 0, _, _ => none
  | fuel + 1, entries, t => do
    let ((parts, v), t) ← pair? value t
    let (path, key) := splitLast parts
    let entries ← Node.assign? path key v .inline entries
    match t.dropWhile isBlank with
    | ',' :: rest => pairs? value fuel entries rest
    | '\x7d' :: rest => some (entries, rest)
    | _ => none

/-- A table between braces after the first brace. -/
def inlineTable? (value : Reader Node) : Reader Entries := fun t =>
  match t.dropWhile isBlank with
  | '\x7d' :: rest => some ([], rest)
  | t => pairs? value t.length [] t

/-- How deep values may nest. -/
def maxDepth : Nat := 79

/-- A **value** that nests at most so deep. -/
def value? : Nat → Reader Node
  | 0, t => (scalar? t).map fun (s, rest) => (.scalar s, rest)
  | depth + 1, t =>
    match t with
    | '[' :: rest =>
      (items? (value? depth) (rest.length + 1) [] rest).map fun (items, rest) =>
        (.array items, rest)
    | '\x7b' :: rest =>
      (inlineTable? (value? depth) rest).map fun (entries, rest) => (.table .inline entries, rest)
    | _ => (scalar? t).map fun (s, rest) => (.scalar s, rest)

/-! ## Documents -/

/-- A document in progress: its root, and the table that the last header has opened. -/
structure Draft where
  root : Entries
  path : List Text

/-- A header of a list of tables after its two brackets. -/
def listHeader? (d : Draft) (t : Text) : Option (Draft × Text) := do
  let (parts, t) ← key? t
  let t ← lineEnd? (← Reader.skip? [']', ']'] t)
  let (path, key) := splitLast parts
  some (⟨← Node.append? path key d.root, parts⟩, t)

/-- A header of a table after its bracket. -/
def header? (d : Draft) (t : Text) : Option (Draft × Text) := do
  let (parts, t) ← key? t
  let t ← lineEnd? (← Reader.skip? [']'] t)
  let (path, key) := splitLast parts
  some (⟨← Node.open? path key d.root, parts⟩, t)

/-- An assignment to the table that the last header has opened. -/
def assignment? (d : Draft) (t : Text) : Option (Draft × Text) := do
  let ((parts, v), t) ← pair? (value? maxDepth) t
  let t ← lineEnd? t
  let (path, key) := splitLast parts
  let root ← Node.descend false (Node.assign? path key v) d.path .header d.root
  some (⟨root, d.path⟩, t)

/-- One line: blank, a comment, a header or an assignment. -/
def line? (d : Draft) (t : Text) : Option (Draft × Text) :=
  match t.dropWhile isBlank with
  | '[' :: '[' :: rest => listHeader? d rest
  | '[' :: rest => header? d rest
  | t =>
    match lineEnd? t with
    | some rest => some (d, rest)
    | none => assignment? d t

/-- All lines of a text. -/
def lines? : Nat → Draft → Text → Option Entries
  | _, d, [] => some d.root
  | 0, _, _ => none
  | fuel + 1, d, t => do
    let (d, rest) ← line? d t
    lines? fuel d rest

/-- The mark of the byte order, which may begin a text. -/
def byteOrderMark : Char := '\ufeff'

/-- The tree of a **whole document**. -/
def document? (t : Text) : Option Entries :=
  let t := match t with
    | c :: rest => if c = byteOrderMark then rest else t
    | [] => []
  lines? t.length ⟨[], []⟩ t

/-! ## Configuration values -/

/-- A scalar as a configuration value; a date is its written form. -/
def Scalar.toValue (origin : Origin) : Scalar → Value
  | .string s => .string origin (String.ofList s)
  | .integer n => .integer origin n
  | .float x => .float origin x
  | .boolean b => .boolean origin b
  | .datetime written => .string origin (String.ofList written)

mutual

/-- A node as a configuration value. -/
def Node.toValue (origin : Origin) : Node → Value
  | .scalar s => s.toValue origin
  | .array items => .array origin (itemValues origin items)
  | .table _ entries => .table origin (entryValues origin entries)
  | .tables backward => .array origin (tableValues origin backward).reverse

/-- The items of an array as configuration values. -/
def itemValues (origin : Origin) : List Node → List Value
  | [] => []
  | n :: items => n.toValue origin :: itemValues origin items

/-- The entries of a table as configuration values. -/
def entryValues (origin : Origin) : List (Text × Node) → List (String × Value)
  | [] => []
  | (key, n) :: entries => (String.ofList key, n.toValue origin) :: entryValues origin entries

/-- The tables of a list as configuration values. -/
def tableValues (origin : Origin) : List (List (Text × Node)) → List Value
  | [] => []
  | entries :: tables =>
    .table origin (entryValues origin entries) :: tableValues origin tables

end

/-- The entries of a **document** as configuration values from an origin. -/
def read? (origin : Origin) (t : Text) : Option (List (String × Value)) :=
  (document? t).map (entryValues origin)

end StaticGzip.Config.Toml
