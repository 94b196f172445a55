import StaticGzip.Config.Value
import StaticGzip.Decimal.Notation
import StaticGzip.Text.Reader

/-! # Scalars of the TOML language

Strings in four forms, whole numbers in four bases, floating-point numbers, truth values, and dates
with times.

* **`Toml.string?`** — a string in any of its forms.
* **`Toml.number?`** — a date or time, a floating-point number, or a whole number.
* **`Toml.scalar?`** — any scalar. -/

namespace StaticGzip.Config.Toml

/-- A **scalar**. Dates and times are kept in their usual written form. -/
inductive Scalar where
  | string (s : Text)
  | integer (n : Int)
  | float (x : Binary64)
  | boolean (b : Bool)
  | datetime (written : Text)
deriving DecidableEq, Repr

/-! ## Characters -/

/-- A blank within a line. -/
def isBlank (c : Char) : Bool := c == ' ' || c == '\t'

/-- A character that may stand in a comment or in a literal string on several lines. -/
def isLineChar (c : Char) : Bool := c == '\t' || (0x20 ≤ c.toNat && c.toNat != 0x7f)

/-- The rest after a line end. -/
def newline? : Text → Option Text
  | '\n' :: t => some t
  | '\r' :: '\n' :: t => some t
  | _ => none

/-- The rest after blanks and line ends. -/
def skipBlankLines (t : Text) : Text :=
  match t with
  | [] => []
  | '\r' :: '\n' :: rest => skipBlankLines rest
  | c :: rest => if isBlank c || c == '\n' then skipBlankLines rest else c :: rest

/-! ## Strings -/

/-- The character of some hexadecimal digits, if it is one. -/
def codePoint? (digits : Text) : Option Char := do
  let n ← digits.foldlM (fun n c => (Text.hexDigit? c).map (16 * n + ·)) 0
  if h : n.isValidChar then some (Char.ofNatAux n h) else none

/-- The character that an escape stands for; the text begins after the backslash. -/
def escape? : Reader Char
  | 'b' :: t => some (Char.ofNat 8, t)
  | 't' :: t => some ('\t', t)
  | 'n' :: t => some ('\n', t)
  | 'f' :: t => some (Char.ofNat 12, t)
  | 'r' :: t => some ('\r', t)
  | '"' :: t => some ('"', t)
  | '\\' :: t => some ('\\', t)
  | 'u' :: t => if t.length < 4 then none else (codePoint? (t.take 4)).map (·, t.drop 4)
  | 'U' :: t => if t.length < 8 then none else (codePoint? (t.take 8)).map (·, t.drop 8)
  | _ => none

/-- The rest of a string with escapes on one line, after the characters read so far, last one
first. -/
def basic? : Nat → Text → Reader Text
  | 0, _, _ => none
  | fuel + 1, backward, t =>
    match t with
    | '"' :: rest => some (backward.reverse, rest)
    | '\\' :: rest => do
      let (c, rest) ← escape? rest
      basic? fuel (c :: backward) rest
    | c :: rest => if isLineChar c then basic? fuel (c :: backward) rest else none
    | [] => none

/-- The rest after the blank end of a line that a backslash joins to the next, and after the blanks
that begin the next lines. -/
def joinedLines? (t : Text) : Option Text := do
  let rest ← newline? (t.dropWhile isBlank)
  some (skipBlankLines rest)

/-- The rest of a string on several lines, with or without escapes. A run of up to five quotes ends
it: three are the mark, and those before are part of the string. -/
def multiline? (quote : Char) (escapes : Bool) : Nat → Text → Reader Text
  | 0, _, _ => none
  | fuel + 1, backward, t =>
    match t with
    | [] => none
    | c :: rest =>
      if c = quote then
        let run := (t.takeWhile (· == quote)).length
        if run < 3 then multiline? quote escapes fuel (c :: backward) rest
        else if 5 < run then none
        else some ((List.replicate (run - 3) quote ++ backward).reverse, t.drop run)
      else if escapes && c = '\\' then
        match joinedLines? rest with
        | some rest => multiline? quote escapes fuel backward rest
        | none => do
          let (e, rest) ← escape? rest
          multiline? quote escapes fuel (e :: backward) rest
      else match newline? t with
        | some rest => multiline? quote escapes fuel ('\n' :: backward) rest
        | none => if isLineChar c then multiline? quote escapes fuel (c :: backward) rest else none

/-- The rest of a string without escapes on one line. -/
def literal? : Reader Text := fun t =>
  let s := t.takeWhile fun c => c != '\'' && isLineChar c
  match t.drop s.length with
  | '\'' :: rest => some (s, rest)
  | _ => none

/-- The text after a line end that follows the opening mark at once. -/
def afterOpening (t : Text) : Text := (newline? t).getD t

/-- A string on one line. -/
def lineString? : Reader Text
  | '"' :: t => basic? (t.length + 1) [] t
  | '\'' :: t => literal? t
  | _ => none

/-- A **string** in any of its forms. -/
def string? : Reader Text
  | '"' :: '"' :: '"' :: t => multiline? '"' true (t.length + 1) [] (afterOpening t)
  | '\'' :: '\'' :: '\'' :: t => multiline? '\'' false (t.length + 1) [] (afterOpening t)
  | t => lineString? t

/-! ## Whole numbers -/

/-- Digits with single underscores between them. -/
def digits? (p : Char → Bool) : Reader Text := fun t => do
  let (first, rest) ← Reader.many1? p t
  let more : Reader Text
    | '_' :: t => Reader.many1? p t
    | _ => none
  let (groups, rest) := Reader.many more rest
  some (first ++ groups.flatten, rest)

/-- The value of digits in a base. -/
def valueOf (base : Nat) (digits : Text) : Nat :=
  digits.foldl (fun n c => base * n + (Text.hexDigit? c).getD 0) 0

/-- A number of 64 bits. -/
def inRange? (n : Int) : Option Int := if Value.fitsSigned n then some n else none

/-- An optional sign and what follows it. -/
def sign : Text → Option Char × Text
  | '+' :: t => (some '+', t)
  | '-' :: t => (some '-', t)
  | t => (none, t)

/-- Decimal digits without a zero in front of others. -/
def decimalDigits? : Reader Text := fun t =>
  match t with
  | '0' :: rest => some (['0'], rest)
  | _ => digits? Char.isDigit t

/-- A number in a base other than ten, after its mark. -/
def based? (base : Nat) (p : Char → Bool) : Reader Int := fun t => do
  let (digits, rest) ← digits? p t
  some (← inRange? (valueOf base digits), rest)

/-- Whether a character is a hexadecimal digit. -/
def isHexDigit (c : Char) : Bool := (Text.hexDigit? c).isSome

/-- A **whole number**. -/
def integer? : Reader Int
  | '0' :: 'x' :: t => based? 16 isHexDigit t
  | '0' :: 'o' :: t => based? 8 (fun c => '0' ≤ c && c ≤ '7') t
  | '0' :: 'b' :: t => based? 2 (fun c => c == '0' || c == '1') t
  | t => do
    let (s, t) := sign t
    let (digits, rest) ← decimalDigits? t
    let n : Int := valueOf 10 digits
    some (← inRange? (if s = some '-' then -n else n), rest)

/-! ## Floating-point numbers -/

/-- A fraction with its point. -/
def fraction? : Reader Text
  | '.' :: t => digits? Char.isDigit t
  | _ => none

/-- An exponent with its mark. -/
def exponent? : Reader Int
  | c :: t =>
    if c = 'e' ∨ c = 'E' then do
      let (s, t) := sign t
      let (digits, rest) ← digits? Char.isDigit t
      let n : Int := valueOf 10 digits
      some (if s = some '-' then -n else n, rest)
    else none
  | [] => none

/-- A **floating-point number**: a fraction or an exponent is what makes it one. None may grow
beyond all numbers upwards. -/
def float? : Reader Binary64 := fun t =>
  let (s, t) := sign t
  let negative := s = some '-'
  match t with
  | 'i' :: 'n' :: 'f' :: rest => some (.infinite negative, rest)
  | 'n' :: 'a' :: 'n' :: rest => some (.nan, rest)
  | _ => do
    let (whole, rest) ← decimalDigits? t
    let (places, power, rest) ← match fraction? rest with
      | some (places, rest) =>
        match exponent? rest with
        | some (power, rest) => some (places, power, rest)
        | none => some (places, 0, rest)
      | none => (exponent? rest).map fun (power, rest) => ([], power, rest)
    let x := Decimal.ofScientific negative (valueOf 10 (whole ++ places)) (power - places.length)
    if x = .infinite false then none else some (x, rest)

/-! ## Dates and times -/

/-- A number of exactly `width` digits. -/
def fixedNumber? (width : Nat) : Reader Nat := fun t =>
  let digits := t.take width
  if digits.length = width ∧ digits.all Char.isDigit then some (valueOf 10 digits, t.drop width)
  else none

/-- Whether a year has a leap day. -/
def isLeapYear (year : Nat) : Bool := year % 4 == 0 && (year % 100 != 0 || year % 400 == 0)

/-- The number of days of a month. -/
def daysIn (year month : Nat) : Nat :=
  if month = 2 then if isLeapYear year then 29 else 28
  else if month ∈ [4, 6, 9, 11] then 30 else 31

/-- A date in its usual written form. -/
def date? : Reader Text := fun t => do
  let (year, t) ← fixedNumber? 4 t
  let (month, t) ← fixedNumber? 2 (← Reader.skip? ['-'] t)
  let (day, t) ← fixedNumber? 2 (← Reader.skip? ['-'] t)
  if 1 ≤ month ∧ month ≤ 12 ∧ 1 ≤ day ∧ day ≤ daysIn year month then
    some (Text.padded 4 year ++ '-' :: Text.padded 2 month ++ '-' :: Text.padded 2 day, t)
  else none

/-- A fraction of a second with its point, at most nine digits of it and no zeros at its end. -/
def secondFraction (t : Text) : Text × Text :=
  match t with
  | '.' :: rest =>
    let digits := rest.takeWhile Char.isDigit
    if digits.isEmpty then ([], t)
    else
      let kept := Text.trimEnd (· == '0') (digits.take 9)
      (if kept.isEmpty then [] else '.' :: kept, rest.drop digits.length)
  | _ => ([], t)

/-- A time of day in its usual written form; a leap second counts as second 60. -/
def time? : Reader Text := fun t => do
  let (hour, t) ← fixedNumber? 2 t
  let (minute, t) ← fixedNumber? 2 (← Reader.skip? [':'] t)
  let (second, t) ← fixedNumber? 2 (← Reader.skip? [':'] t)
  if hour ≤ 23 ∧ minute ≤ 59 ∧ second ≤ 60 then
    let (fraction, t) := secondFraction t
    some (Text.padded 2 hour ++ ':' :: Text.padded 2 minute ++ ':' :: Text.padded 2 second
      ++ fraction, t)
  else none

/-- An offset from universal time in its usual written form. -/
def offset? : Reader Text := fun t =>
  match t with
  | 'Z' :: t => some (['Z'], t)
  | 'z' :: t => some (['Z'], t)
  | _ => do
    let (s, t) := sign t
    let s ← s
    let (hour, t) ← fixedNumber? 2 t
    let (minute, t) ← fixedNumber? 2 (← Reader.skip? [':'] t)
    if hour ≤ 23 ∧ minute ≤ 59 then
      let s := if hour = 0 ∧ minute = 0 then '+' else s
      some (s :: Text.padded 2 hour ++ ':' :: Text.padded 2 minute, t)
    else none

/-- A time that follows a date, with its offset if it has one. -/
def timeAfterDate? : Reader Text
  | c :: t =>
    if c = 'T' ∨ c = 't' ∨ c = ' ' then do
      let (time, t) ← time? t
      match offset? t with
      | some (offset, t) => some ('T' :: time ++ offset, t)
      | none => some ('T' :: time, t)
    else none
  | [] => none

/-- A **date, a time, or both**. -/
def datetime? : Reader Text := fun t =>
  match date? t with
  | some (date, t) =>
    match timeAfterDate? t with
    | some (time, t) => some (date ++ time, t)
    | none => some (date, t)
  | none => time? t

/-! ## Any scalar -/

/-- A date or time, a floating-point number, or a whole number, whichever can be read first. -/
def number? : Reader Scalar := fun t =>
  match datetime? t with
  | some (written, rest) => some (.datetime written, rest)
  | none => match float? t with
    | some (x, rest) => some (.float x, rest)
    | none => (integer? t).map fun (n, rest) => (.integer n, rest)

/-- Any **scalar**. -/
def scalar? : Reader Scalar := fun t =>
  match t with
  | 't' :: 'r' :: 'u' :: 'e' :: rest => some (.boolean true, rest)
  | 'f' :: 'a' :: 'l' :: 's' :: 'e' :: rest => some (.boolean false, rest)
  | '"' :: _ => (string? t).map fun (s, rest) => (.string s, rest)
  | '\'' :: _ => (string? t).map fun (s, rest) => (.string s, rest)
  | _ => number? t

end StaticGzip.Config.Toml
