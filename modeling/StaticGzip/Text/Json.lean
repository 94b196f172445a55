import StaticGzip.Text.Basic

/-! # Strings of JSON

A string stands between quotes; quotes, backslashes and control characters are escaped, the common
ones by a letter and the others by four hexadecimal digits. Every other character is written as it
is. -/

namespace StaticGzip.Json

/-- The form of a character inside a string. -/
def escape (c : Char) : Text :=
  if c = '"' then "\\\"".toList
  else if c = '\\' then "\\\\".toList
  else if c = '\n' then "\\n".toList
  else if c = '\r' then "\\r".toList
  else if c = '\t' then "\\t".toList
  else if c.toNat = 8 then "\\b".toList
  else if c.toNat = 12 then "\\f".toList
  else if c.toNat < 32 then "\\u".toList ++ (Nat.toDigits 16 c.toNat).leftpad 4 '0'
  else [c]

/-- A text as a string. -/
def string (t : Text) : Text := '"' :: t.flatMap escape ++ ['"']

/-- A text as a string, or null. -/
def optional : Option Text → Text
  | some t => string t
  | none => "null".toList

/-- An object of members whose values are already written. -/
def object (members : List (String × Text)) : Text :=
  '\x7b' :: [','].intercalate (members.map fun (key, value) =>
    string key.toList ++ ':' :: value) ++ ['\x7d']

end StaticGzip.Json
