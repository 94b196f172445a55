import StaticGzip.Config.Error
import StaticGzip.Decimal.Notation
import StaticGzip.Text.Lowercase
import StaticGzip.Text.Quoted

/-! # Configuration values

Values come from files, variables and defaults with types of their own and are converted to the
type of the setting that wants them. Each value remembers where it came from.

* **`Value.string?`, `Value.unsigned?`, `Value.boolean?`** — the conversions. -/

namespace StaticGzip.Config

/-- Where a value came from, if that is worth saying. -/
abbrev Origin := Option String

/-- A **configuration value** with its origin. -/
inductive Value where
  | nil (origin : Origin)
  | boolean (origin : Origin) (b : Bool)
  | integer (origin : Origin) (n : Int)
  | float (origin : Origin) (x : Binary64)
  | string (origin : Origin) (s : String)
  | table (origin : Origin) (entries : List (String × Value))
  | array (origin : Origin) (items : List Value)
deriving Repr

namespace Value

/-- The origin of a value. -/
def origin : Value → Origin
  | nil o => o
  | boolean o _ => o
  | integer o _ => o
  | float o _ => o
  | string o _ => o
  | table o _ => o
  | array o _ => o

/-- An empty table that no source has given. -/
def emptyTable : Value := table none []

/-- The entry of a key. -/
def lookup (key : String) : List (String × Value) → Option Value
  | [] => none
  | (k, v) :: entries => if k = key then some v else lookup key entries

/-- The entries with one of them replaced, or added at the end. -/
def insert (key : String) (v : Value) : List (String × Value) → List (String × Value)
  | [] => [(key, v)]
  | (k, w) :: entries => if k = key then (k, v) :: entries else (k, w) :: insert key v entries

/-- The entry just inserted is found. -/
@[simp] theorem lookup_insert (key : String) (v : Value) (entries : List (String × Value)) :
    lookup key (insert key v entries) = some v := by
  induction entries with
  | nil => simp [insert, lookup]
  | cons e entries ih => by_cases h : e.1 = key <;> simp [insert, lookup, h, ih]

/-- Other entries are not touched. -/
theorem lookup_insert_of_ne {key other : String} (h : other ≠ key) (v : Value)
    (entries : List (String × Value)) :
    lookup other (insert key v entries) = lookup other entries := by
  induction entries with
  | nil => simp [insert, lookup, h.symm]
  | cons e entries ih =>
    by_cases hk : e.1 = key
    · simp [insert, lookup, hk, h.symm]
    · simp [insert, lookup, hk, ih]

/-! ## Numerals -/

/-- The greatest unsigned number of 64 bits. -/
def maxUnsigned : Nat := UInt64.size - 1

/-- Whether a number is one of the signed numbers of 64 bits. -/
def fitsSigned (n : Int) : Bool := -0x8000000000000000 ≤ n && n < 0x8000000000000000

/-- A decimal numeral with an optional sign. -/
def signed? (t : Text) : Option Int :=
  match t with
  | '-' :: digits => (Text.decimal? digits).map fun n => -(n : Int)
  | '+' :: digits => (Text.decimal? digits).map Int.ofNat
  | digits => (Text.decimal? digits).map Int.ofNat

/-- A signed number of 64 bits as a numeral. -/
def integer? (t : Text) : Option Int :=
  (signed? t).filter fitsSigned

/-- An unsigned number of 64 bits as a numeral, which may have a plus sign. -/
def natural? (t : Text) : Option Nat :=
  let digits := match t with
    | '+' :: digits => digits
    | digits => digits
  (Text.decimal? digits).filter (· ≤ maxUnsigned)

/-! ## Conversions -/

/-- What a value is called where another type was wanted. -/
def found : Value → String
  | nil _ => "unit value"
  | boolean _ b => s!"boolean \x60{b}\x60"
  | integer _ n => s!"64-bit integer \x60{n}\x60"
  | float _ x => s!"floating point \x60{String.ofList (Decimal.display x)}\x60"
  | string _ s => s!"string {Text.quotedString s}"
  | table _ _ => "map"
  | array _ _ => "sequence"

/-- The error of a value that has the wrong type. -/
def mismatch (v : Value) (expected : String) : ConfigError :=
  .type v.found expected none v.origin

/-- A value as a **string**: numbers and truth values are written out. -/
def string? (v : Value) : Except ConfigError String :=
  match v with
  | string _ s => .ok s
  | boolean _ b => .ok (toString b)
  | integer _ n => .ok (toString n)
  | float _ x => .ok (String.ofList (Decimal.display x))
  | _ => .error (v.mismatch "a string")

/-- The words for truth among strings. -/
def trueWords : List String := ["true", "on", "yes"]

/-- The words for falsehood among strings. -/
def falseWords : List String := ["false", "off", "no"]

/-- A value as an **unsigned number** of 64 bits. -/
def unsigned? (v : Value) : Except ConfigError Nat :=
  match v with
  | integer _ n =>
    if 0 ≤ n then .ok n.toNat else .error (v.mismatch "an unsigned 64 bit or less integer")
  | float _ x => .ok (x.roundedToNat maxUnsigned)
  | boolean _ b => .ok b.toNat
  | string _ s =>
    let word := Text.lowerString s
    if word ∈ trueWords then .ok 1
    else if word ∈ falseWords then .ok 0
    else match natural? s.toList with
      | some n => .ok n
      | none => .error (v.mismatch "an integer")
  | _ => .error (v.mismatch "an integer")

/-- A value as a **truth value**. -/
def boolean? (v : Value) : Except ConfigError Bool :=
  match v with
  | boolean _ b => .ok b
  | integer _ n => .ok (n != 0)
  | float _ x => .ok x.isNonzero
  | string o s =>
    let word := Text.lowerString s
    if word ∈ "1" :: trueWords then .ok true
    else if word ∈ "0" :: falseWords then .ok false
    else .error ((string o word).mismatch "a boolean")
  | _ => .error (v.mismatch "a boolean")

end Value

end StaticGzip.Config
