import StaticGzip.Text.Basic
import StaticGzip.Text.Printable

/-! # Quoted text

Text in messages stands between double quotes. Quotes, backslashes and the common control
characters are escaped by a letter, everything else that is not shown as it is by its code point in
hexadecimal. -/

namespace StaticGzip.Text

/-- The quoted form of a character. -/
def quoteChar (c : Char) : Text :=
  if c = '"' then "\\\"".toList
  else if c = '\\' then "\\\\".toList
  else if c = '\n' then "\\n".toList
  else if c = '\r' then "\\r".toList
  else if c = '\t' then "\\t".toList
  else if c.toNat = 0 then "\\0".toList
  else if isShown c then [c]
  else "\\u\x7b".toList ++ Nat.toDigits 16 c.toNat ++ ['\x7d']

/-- A text **between quotes**. -/
def quoted (t : Text) : Text := '"' :: t.flatMap quoteChar ++ ['"']

/-- A string between quotes. -/
def quotedString (s : String) : String := String.ofList (quoted s.toList)

@[simp] theorem quoted_nil : quoted [] = ['"', '"'] := rfl

end StaticGzip.Text
