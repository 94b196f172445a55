import StaticGzip.Text.Basic

/-! # Header lines

A header line is a lower-case name and the bytes of its value. Names are tokens, values are made of
tabs and of bytes that are no control characters. Only values of tabs and printable ASCII can be
read as text. -/

namespace StaticGzip

/-- The bytes of a message, one by one. -/
abbrev Bytes := List UInt8

namespace Http

/-- A **token** character: a letter, a digit or one of fifteen marks. -/
def isTokenChar (c : Char) : Bool :=
  c.isAlphanum || "!#$%&'*+-.^_`|~".toList.contains c

/-- What is wrong with a header line. -/
inductive HeaderError where
  | invalidName
  | invalidValue
deriving DecidableEq, Repr

/-- The wording of a header error. -/
def HeaderError.message : HeaderError → String
  | .invalidName => "invalid HTTP header name"
  | .invalidValue => "failed to parse header value"

/-- A **header line**. -/
structure Header where
  name : String
  value : Bytes
deriving DecidableEq, Repr

/-- The longest header name, in bytes. -/
def maxHeaderName : Nat := 65535

/-- The lower-case header name of some bytes, if they are a token. -/
def headerName? (bytes : Bytes) : Option String :=
  let name := bytes.map fun b => Char.ofNat b.toNat
  if name.isEmpty || maxHeaderName < name.length then none
  else if name.all isTokenChar then some (String.ofList (Text.lowerAscii name))
  else none

/-- A byte that may stand in a header value. -/
def isValueByte (b : UInt8) : Bool := b == 9 || (32 ≤ b && b != 127)

/-- A byte that can be read as text. -/
def isReadableByte (b : UInt8) : Bool := b == 9 || (32 ≤ b && b < 127)

/-- The header line of a name and a value. -/
def Header.ofBytes (name value : Bytes) : Except HeaderError Header :=
  match headerName? name with
  | none => .error .invalidName
  | some n => if value.all isValueByte then .ok ⟨n, value⟩ else .error .invalidValue

/-- The value of a header line as text, if all of it can be read. -/
def readable? (value : Bytes) : Option Text :=
  if value.all isReadableByte then some (value.map fun b => Char.ofNat b.toNat) else none

/-- The **header lines** of a message in their order. -/
abbrev Headers := List Header

namespace Headers

/-- The values of the lines of one name, in order. -/
def values (headers : Headers) (name : String) : List Bytes :=
  (headers.filter (·.name == name)).map (·.value)

@[simp] theorem values_nil (name : String) : values [] name = [] := rfl

/-- The values of a longer message continue those of the shorter one. -/
@[simp] theorem values_append (hs ks : Headers) (name : String) :
    values (hs ++ ks) name = values hs name ++ values ks name := by
  simp [values]

/-- The first line of a name as text; a first line that cannot be read hides the later ones. -/
def firstText? (headers : Headers) (name : String) : Option Text :=
  (values headers name).head?.bind readable?

/-- The values of a name that can be read as text, in order. -/
def texts (headers : Headers) (name : String) : List Text :=
  (values headers name).filterMap readable?

end Headers

end Http

end StaticGzip
