import StaticGzip.Decimal.Notation
import StaticGzip.Event
import StaticGzip.Fault
import StaticGzip.Text.Blank
import StaticGzip.Text.Letter

/-! # Which events are let through

A filter is a list of directives with commas between them. A directive sets the verbosity of the
targets that begin with its target, or of all targets; it may also ask for a span or for fields.
The directive with the longest target decides, and a later one replaces an equal earlier one.

The parts of a directive are cut out of its text by places that are counted in bytes. To cut inside
a character is a panic. A field may ask for a value by a regular expression; how such expressions
are read is not told here.

* **`LogFilter.Patterns`** — how texts are taken for regular expressions.
* **`LogFilter.ofText?`** — the filter that a text writes.
* **`LogFilter.allows`** — whether an event is let through. -/

namespace StaticGzip

/-- What is wrong with a filter: the form of a directive, the name of a level, or, in some words,
the value of a field. -/
inductive FilterError where
  | directive
  | level
  | pattern (words : String)
deriving DecidableEq, Repr

/-- The wording of a filter error. -/
def FilterError.message : FilterError → String
  | .directive => "invalid filter directive"
  | .pattern words => s!"invalid field filter: {words}"
  | .level => "error parsing level filter: expected one of \"off\", \"error\", \"warn\", \"info\", "
      ++ "\"debug\", \"trace\", or a number 0-5"

/-- A **directive**: a target whose start is matched, the fields that an event must have, whether
it asks for a span or for the value of a field, and the verbosity it sets. -/
structure Directive where
  target : Option Text
  fields : List Text
  inside : Bool
  verbosity : Nat
deriving DecidableEq, Repr

/-- A **filter**. -/
structure LogFilter where
  directives : List Directive
deriving DecidableEq, Repr

namespace LogFilter

/-! ## Levels -/

/-- The names of the verbosities. -/
def levelNames : List (String × Nat) :=
  [("off", 0), ("error", 1), ("warn", 2), ("info", 3), ("debug", 4), ("trace", 5)]

/-- A number with an optional plus sign. -/
def number? (t : Text) : Option Nat :=
  match t with
  | '+' :: digits => Text.decimal? digits
  | digits => Text.decimal? digits

/-- The verbosity that a word names in any case, or a number from 0 to 5. -/
def verbosity? (t : Text) : Option Nat :=
  match (number? t).filter (· ≤ 5) with
  | some n => some n
  | none => levelNames.lookup (String.ofList (Text.lowerAscii t))

/-- Full verbosity. -/
def all : Nat := 5

/-- The verbosity after an equals sign; nothing stands for full verbosity. -/
def level? (t : Text) : Except FilterError Nat :=
  if t.isEmpty then .ok all
  else match verbosity? t with
    | some n => .ok n
    | none => .error .level

/-! ## Fields -/

/-- How it ends to take a text for a **regular expression**: well, with words about what is wrong
with it, or with a panic. -/
abbrev Patterns := Text → Except (Fault String) Unit

/-- Whether the value of a field is a truth value or a number. -/
def isPlainValue (t : Text) : Bool :=
  t = "true".toList || t = "false".toList || (Decimal.ofText? t).isSome

/-- Takes the value of a field for what it is; what is nothing else is a regular expression. -/
def checkValue (patterns : Patterns) (t : Text) : Except (Fault FilterError) Unit :=
  if isPlainValue t then .ok () else (patterns t).mapError (.map .pattern)

/-- The value in the text of a field, which is between its first two equals signs. -/
def fieldValue? (t : Text) : Option Text :=
  match t.dropWhile (· != '=') with
  | [] => none
  | _ :: rest => some (rest.takeWhile (· != '='))

/-- A directive with one more field, of which a value may be given. -/
def addField (patterns : Patterns) (d : Directive) (t : Text) :
    Except (Fault FilterError) Directive :=
  let named := { d with fields := d.fields ++ [t.takeWhile (· != '=')] }
  if t.isEmpty then .error (.error .directive)
  else match fieldValue? t with
    | none => .ok named
    | some value => (checkValue patterns value).map fun _ => { named with inside := true }

/-- A directive with the text of a span; without a name it asks for none. -/
def addSpan (d : Directive) (named : Bool) : Directive := { d with inside := d.inside || named }

/-! ## Directives -/

/-- Where the reading of a directive stands. Positions are bytes. -/
inductive Stage where
  | start
  | word (start : Nat)
  | span (start : Nat)
  | field (start : Nat)
  | fields
  | target
  | level (start : Nat)
deriving DecidableEq, Repr

/-- A directive in progress. -/
structure Draft where
  stage : Stage
  position : Nat
  directive : Directive
deriving DecidableEq, Repr

/-- Whether a directive may begin with a character. -/
def isFirst (c : Char) : Bool := "-:_".toList.contains c || Text.isWordChar c

/-- Part of the text of a directive between two bytes. -/
def cut (written : Text) (start stop : Nat) : Except (Fault FilterError) Text :=
  Fault.orPanic (Text.slice? written start stop)

/-- Where the reading stands after one more character, and the directive as far as it is known then.
The parts of a directive are cut out of its text as written, at the places where they stand in the
text without its outer blanks. -/
def turn (patterns : Patterns) (written : Text) (d : Draft) (c : Char) :
    Except (Fault FilterError) (Stage × Directive) :=
  let i := d.position
  match d.stage with
  | .start =>
    if c = '[' then .ok (.span (i + 1), d.directive)
    else if isFirst c then .ok (.word i, d.directive)
    else .error (.error .directive)
  | .word start =>
    if c = '=' then do
      let target ← cut written start i
      .ok (.level (i + 1), { d.directive with target := some target })
    else if c = '[' then do
      let target ← cut written start i
      .ok (.span (i + 1), { d.directive with target := some target })
    else .ok (.word start, d.directive)
  | .span start =>
    if c = ']' then do
      let _ ← cut written start i
      .ok (.target, addSpan d.directive true)
    else if c = '\x7b' then do
      let name ← cut written start i
      .ok (.field (i + 1), addSpan d.directive (!name.isEmpty))
    else .ok (.span start, d.directive)
  | .field start =>
    if c = '\x7d' then do
      let field ← cut written start i
      let directive ← addField patterns d.directive field
      .ok (.fields, directive)
    else .ok (.field start, d.directive)
  | .fields => if c = ']' then .ok (.target, d.directive) else .error (.error .directive)
  | .target => if c = '=' then .ok (.level (i + 1), d.directive) else .error (.error .directive)
  | .level start => .ok (.level start, d.directive)

/-- One more character of a directive. -/
def step (patterns : Patterns) (written : Text) (d : Draft) (c : Char) :
    Except (Fault FilterError) Draft := do
  let (stage, directive) ← turn patterns written d c
  .ok ⟨stage, d.position + c.utf8Size, directive⟩

/-- The directive at the end of its text. A lone word is a level if it names one, and otherwise a
target of full verbosity. -/
def finish (written : Text) (d : Draft) : Except (Fault FilterError) Directive :=
  let stop := Text.byteLength written
  match d.stage with
  | .word start => do
    let word ← cut written start stop
    match verbosity? word with
    | some n => .ok { d.directive with target := none, verbosity := n }
    | none => .ok { d.directive with target := some word }
  | .level start => do
    let word ← cut written start stop
    let n ← (level? word).mapError .error
    .ok { d.directive with verbosity := n }
  | .target => .ok d.directive
  | _ => .error (.error .directive)

/-- Nothing of a directive. -/
def Draft.fresh : Draft := ⟨.start, 0, ⟨none, [], false, all⟩⟩

/-- The **directive** that a text writes. -/
def directive? (patterns : Patterns) (written : Text) : Except (Fault FilterError) Directive := do
  let draft ← (Text.trim written).foldlM (step patterns written) .fresh
  finish written draft

/-- The **filter that a text writes**. Empty parts are left out. -/
def ofText? (patterns : Patterns) (t : Text) : Except (Fault FilterError) LogFilter := do
  let parts := (t.splitOn ',').filter (!·.isEmpty)
  let directives ← parts.mapM (directive? patterns)
  .ok ⟨directives⟩

/-! ## Filtering -/

/-- The field that holds the message of an event. -/
def messageField : Text := "message".toList

/-- Whether a directive says anything about an event. There are no spans. -/
def applies (d : Directive) (e : Event) : Bool :=
  !d.inside
    && (match d.target with
      | some target => target.isPrefixOf e.target.toList
      | none => true)
    && d.fields.all fun name =>
      name == messageField || e.fields.any fun (other, _) => other.toList == name

/-- How special a directive is: by the length of its target, and then by its fields. -/
def rank (d : Directive) : Nat × Nat :=
  ((d.target.map fun t => Text.byteLength t + 1).getD 0, d.fields.length)

/-- Whether the second directive is at least as special as the first one. -/
def isAtLeast (d later : Directive) : Bool :=
  let (a, b) := rank d
  let (a', b') := rank later
  a < a' || (a == a' && b ≤ b')

/-- The directive that decides about an event. -/
def deciding? (f : LogFilter) (e : Event) : Option Directive :=
  (f.directives.filter (applies · e)).foldl
    (fun best d => match best with
      | none => some d
      | some b => if isAtLeast b d then some d else some b)
    none

/-- Whether an **event is let through**. -/
def allows (f : LogFilter) (e : Event) : Bool :=
  match f.deciding? e with
  | some d => e.level.verbosity ≤ d.verbosity
  | none => false

/-- A filter without directives lets nothing through. -/
@[simp] theorem allows_empty (e : Event) : allows ⟨[]⟩ e = false := rfl

end LogFilter

end StaticGzip
