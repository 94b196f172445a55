import StaticGzip.Config.Toml.Scalar

/-! # Documents of the TOML language as trees

A document grows statement by statement. What may still be added to a table depends on how the
table came about: by a header, on the way to another header, by a dotted key, or between braces.

* **`Node.descend`** — a change inside the table at a path, whose missing tables are made.
* **`Node.assign?`** — a value for a key.
* **`Node.open?`, `Node.append?`** — the table of a header, and the next table of a list of
  tables. -/

namespace StaticGzip.Config.Toml

/-- How a table came about. -/
inductive TableKind where
  | header
  | implied
  | dotted
  | inline
deriving DecidableEq, Repr

/-- A **node** of a document. -/
inductive Node where
  | scalar (s : Scalar)
  | array (items : List Node)
  | table (kind : TableKind) (entries : List (Text × Node))
  | tables (backward : List (List (Text × Node)))
deriving Repr

/-- The **entries** of a table in the order of their first mention. -/
abbrev Entries := List (Text × Node)

namespace Node

/-- The entry of a key. -/
def find? (key : Text) (entries : Entries) : Option Node := entries.lookup key

/-- The entries with the node of one key replaced, or added at the end. -/
def replace (key : Text) (n : Node) : Entries → Entries
  | [] => [(key, n)]
  | (k, m) :: entries =>
    if k = key then (k, n) :: entries else (k, m) :: replace key n entries

/-- A **change inside the table at a path**. On the way of a dotted key no table of a header may
be entered, and a table that is made is dotted; on the way of a header any table may be entered
that is not between braces. Of a list of tables the last one is entered. -/
def descend (dotted : Bool) (change : TableKind → Entries → Option Entries) :
    List Text → TableKind → Entries → Option Entries
  | [], kind, entries => change kind entries
  | key :: path, _, entries =>
    match find? key entries with
    | none => do
      let kind := if dotted then .dotted else .implied
      let made ← descend dotted change path kind []
      some (replace key (.table kind made) entries)
    | some (.table kind inner) =>
      if kind = .inline || (dotted && kind = .header) then none
      else do
        let inner ← descend dotted change path kind inner
        some (replace key (.table kind inner) entries)
    | some (.tables (last :: earlier)) => do
      let last ← descend dotted change path .header last
      some (replace key (.tables (last :: earlier)) entries)
    | some _ => none

/-- A **value for a key** below a table. A key with dots ends in a table that dotted keys made, one
without in a table that they did not make; the key must be new. -/
def assign? (path : List Text) (key : Text) (value : Node) (kind : TableKind)
    (entries : Entries) : Option Entries :=
  let put (kind : TableKind) (entries : Entries) : Option Entries :=
    if (kind == .dotted) == path.isEmpty then none
    else if (find? key entries).isSome then none
    else some (replace key value entries)
  descend true put path kind entries

/-- The table of a **header**. It may have come about on the way to another header, and must be new
otherwise. -/
def open? (path : List Text) (key : Text) (root : Entries) : Option Entries :=
  let put (_ : TableKind) (entries : Entries) : Option Entries :=
    match find? key entries with
    | none => some (replace key (.table .header []) entries)
    | some (.table .implied inner) => some (replace key (.table .header inner) entries)
    | some _ => none
  descend false put path .header root

/-- The next table of a **list of tables**. -/
def append? (path : List Text) (key : Text) (root : Entries) : Option Entries :=
  let put (_ : TableKind) (entries : Entries) : Option Entries :=
    match find? key entries with
    | none => some (replace key (.tables [[]]) entries)
    | some (.tables earlier) => some (replace key (.tables ([] :: earlier)) entries)
    | some _ => none
  descend false put path .header root

end Node

end StaticGzip.Config.Toml
