import StaticGzip.Config.Value
import StaticGzip.Text.Reader

/-! # Reading documents of the JSON language

A configuration file may be a JSON object. Whole numbers of 64 bits with a sign stay whole, all
other numbers are floating-point numbers.

* **`JsonDocument.number?`** — a number. The digits are rounded to a binary number first, and
  multiplied or divided by a power of ten after that.
* **`JsonDocument.read?`** — the members of a document. -/

namespace StaticGzip.Config.JsonDocument

/-- The rest after blanks and line ends. -/
def skipBlanks (t : Text) : Text :=
  t.dropWhile fun c => c == ' ' || c == '\n' || c == '\t' || c == '\r'

/-! ## Strings -/

/-- The number of four hexadecimal digits. -/
def unit? (t : Text) : Option (Nat × Text) :=
  match t with
  | a :: b :: c :: d :: rest => do
    let n ← [a, b, c, d].foldlM (fun n c => (Text.hexDigit? c).map (16 * n + ·)) 0
    some (n, rest)
  | _ => none

/-- The character of one unit, or of two that form a pair. -/
def unicode? : Reader Char := fun t => do
  let (n, t) ← unit? t
  if 0xd800 ≤ n ∧ n < 0xdc00 then
    let (m, t) ← unit? (← Reader.skip? ['\\', 'u'] t)
    if 0xdc00 ≤ m ∧ m < 0xe000 then
      some (Char.ofNat (0x10000 + (n - 0xd800) * 0x400 + (m - 0xdc00)), t)
    else none
  else if 0xdc00 ≤ n ∧ n < 0xe000 then none
  else some (Char.ofNat n, t)

/-- The character that an escape stands for; the text begins after the backslash. -/
def escape? : Reader Char
  | '"' :: t => some ('"', t)
  | '\\' :: t => some ('\\', t)
  | '/' :: t => some ('/', t)
  | 'b' :: t => some (Char.ofNat 8, t)
  | 'f' :: t => some (Char.ofNat 12, t)
  | 'n' :: t => some ('\n', t)
  | 'r' :: t => some ('\r', t)
  | 't' :: t => some ('\t', t)
  | 'u' :: t => unicode? t
  | _ => none

/-- The rest of a string after the characters read so far, last one first. -/
def stringRest? : Nat → Text → Reader Text
  | 0, _, _ => none
  | fuel + 1, backward, t =>
    match t with
    | '"' :: rest => some (backward.reverse, rest)
    | '\\' :: rest => do
      let (c, rest) ← escape? rest
      stringRest? fuel (c :: backward) rest
    | c :: rest => if c.toNat < 32 then none else stringRest? fuel (c :: backward) rest
    | [] => none

/-- A **string**. -/
def string? : Reader Text
  | '"' :: t => stringRest? (t.length + 1) [] t
  | _ => none

/-! ## Numbers -/

/-- The digits of a number that fit into 64 bits, as a number, and how many digits do not. -/
def significand (start : Nat) (digits : Text) : Nat × Nat :=
  digits.foldl
    (fun (n, dropped) c =>
      let more := 10 * n + (c.toNat - '0'.toNat)
      if dropped = 0 ∧ more ≤ Value.maxUnsigned then (more, 0) else (n, dropped + 1))
    (start, 0)

/-- A power of ten as a binary number. -/
def powerOfTen (k : Nat) : Binary64 := Binary64.ofNat (Nat.pow 10 k)

/-- A binary number times a power of ten, in steps that stay within the powers there are. -/
def scaled? : Nat → Binary64 → Int → Option Binary64
  | 0, x, _ => some x
  | fuel + 1, x, power =>
    if !x.isNonzero then some x
    else if power.natAbs ≤ 308 then
      if 0 ≤ power then
        match x.mul (powerOfTen power.natAbs) with
        | .finite s m e => some (.finite s m e)
        | _ => none
      else some (x.div (powerOfTen power.natAbs))
    else if 0 ≤ power then none
    else scaled? fuel (x.div (powerOfTen 308)) (power + 308)

/-- The rest of a number after its first digits: its fraction and its exponent. -/
def tail? (t : Text) : Option (Text × Int × Text) := do
  let (places, t) ← match t with
    | '.' :: rest => Reader.many1? Char.isDigit rest
    | _ => some ([], t)
  match t with
  | c :: rest =>
    if c = 'e' ∨ c = 'E' then
      let (negative, rest) := Decimal.splitSign rest
      let (digits, rest) ← Reader.many1? Char.isDigit rest
      let n : Int := Decimal.digitsValue digits
      some (places, if negative then -n else n, rest)
    else some (places, 0, t)
  | [] => some (places, 0, t)

/-- The digits before the point: a zero stands alone. -/
def wholeDigits? (t : Text) : Option (Text × Text) :=
  match t with
  | '0' :: rest => if (rest.head?.any Char.isDigit) then none else some (['0'], rest)
  | _ => Reader.many1? Char.isDigit t

/-- A **number**. -/
def number? (origin : Origin) : Reader Value := fun t => do
  let (negative, t) := match t with
    | '-' :: rest => (true, rest)
    | _ => (false, t)
  let signed (x : Binary64) := if negative then x.neg else x
  let (whole, t) ← wholeDigits? t
  let (places, power, rest) ← tail? t
  let isWhole := rest.length = t.length
  let (n, dropped) := significand 0 whole
  let value : Int := if negative then -(n : Int) else n
  if isWhole ∧ dropped = 0 ∧ Value.fitsSigned value ∧ ¬(negative ∧ n = 0) then
    some (.integer origin value, rest)
  else
    let (m, lost) := significand n places
    let kept := places.length - lost
    let x ← scaled? 8 (Binary64.ofNat m) (power + dropped - kept)
    some (.float origin (signed x), rest)

/-! ## Values -/

/-- The items of an array, at least one, up to its closing bracket. -/
def items? (value : Reader Value) : Nat → List Value → Reader (List Value)
  | 0, _, _ => none
  | fuel + 1, backward, t => do
    let (v, t) ← value (skipBlanks t)
    match skipBlanks t with
    | ',' :: rest => items? value fuel (v :: backward) rest
    | ']' :: rest => some ((v :: backward).reverse, rest)
    | _ => none

/-- The members of an object, at least one, up to its closing brace; the last one of a name
counts. -/
def members? (value : Reader Value) : Nat → List (String × Value) →
    Reader (List (String × Value))
  | 0, _, _ => none
  | fuel + 1, members, t => do
    let (key, t) ← string? (skipBlanks t)
    let t ← Reader.skip? [':'] (skipBlanks t)
    let (v, t) ← value (skipBlanks t)
    let members := Value.insert (String.ofList key) v members
    match skipBlanks t with
    | ',' :: rest => members? value fuel members rest
    | '\x7d' :: rest => some (members, rest)
    | _ => none

/-- A word of the language, a string or a number. -/
def simple? (origin : Origin) : Reader Value := fun t =>
  match t with
  | 'n' :: 'u' :: 'l' :: 'l' :: rest => some (.nil origin, rest)
  | 't' :: 'r' :: 'u' :: 'e' :: rest => some (.boolean origin true, rest)
  | 'f' :: 'a' :: 'l' :: 's' :: 'e' :: rest => some (.boolean origin false, rest)
  | '"' :: _ => (string? t).map fun (s, rest) => (.string origin (String.ofList s), rest)
  | _ => number? origin t

/-- How deep values may nest. -/
def maxDepth : Nat := 127

/-- A **value** that nests at most so deep. -/
def value? (origin : Origin) : Nat → Reader Value
  | 0, t => simple? origin t
  | depth + 1, t =>
    match t with
    | '[' :: rest =>
      match skipBlanks rest with
      | ']' :: rest => some (.array origin [], rest)
      | rest => (items? (value? origin depth) (rest.length + 1) [] rest).map
          fun (items, rest) => (.array origin items, rest)
    | '\x7b' :: rest =>
      match skipBlanks rest with
      | '\x7d' :: rest => some (.table origin [], rest)
      | rest => (members? (value? origin depth) (rest.length + 1) [] rest).map
          fun (members, rest) => (.table origin members, rest)
    | _ => simple? origin t

/-- The members of a **document** as configuration values; a document that is no object is
refused. -/
def read? (origin : Origin) (t : Text) : Option (List (String × Value)) := do
  let (v, rest) ← value? origin maxDepth (skipBlanks t)
  match v, skipBlanks rest with
  | .table _ members, [] => some members
  | _, _ => none

end StaticGzip.Config.JsonDocument
