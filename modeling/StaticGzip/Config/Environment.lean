import StaticGzip.Config.KeyPath

/-! # Settings from environment variables

A variable whose name begins with the mark of the server sets a value. The rest of its name is a
key path with two underscores for each dot; case does not matter. The text is taken for a truth
value, a whole number or a floating-point number where it is one.

* **`Environment.value`** — the value of a text.
* **`Environment.key?`** — the key of a variable. -/

namespace StaticGzip.Config.Environment

/-- The **variables** of an environment. -/
abbrev Variables := List (String × String)

/-- The mark with which the names of the variables begin, in lower case. -/
def mark : Text := "gzserve__".toList

/-- A text with a dot for each two underscores, from the left. -/
def dotted : Text → Text
  | '_' :: '_' :: t => '.' :: dotted t
  | c :: t => c :: dotted t
  | [] => []

/-- The **key** of a variable, if it begins with the mark. -/
def key? (name : String) : Option String :=
  (Reader.skip? mark (Text.lower name.toList)).map fun rest => String.ofList (dotted rest)

/-- Where the values come from. -/
def origin : Origin := some "the environment"

/-- The **value of a text**. -/
def value (s : String) : Value :=
  let word := Text.lowerString s
  if word = "true" then .boolean origin true
  else if word = "false" then .boolean origin false
  else match Value.integer? s.toList with
    | some n => .integer origin n
    | none => match Decimal.ofText? s.toList with
      | some x => .float origin x
      | none => .string origin s

/-- The keys and values of an environment. -/
def entries (environment : Variables) : List (String × Value) :=
  environment.filterMap fun (name, text) => (key? name).map (·, value text)

end StaticGzip.Config.Environment
