import StaticGzip.Text.Basic

/-! # Internet addresses

An internet address of version 4 is four bytes, one of version 6 eight 16-bit groups. A socket
address adds a port and, for version 6, a scope.

* **`IpAddress.text`, `SocketAddress.text`** — the written form. The longest run of two or more
  zero groups is left out, and an address that maps one of version 4 shows its four bytes.
* **`SocketAddress.ofText?`** — the address that a text denotes. -/

namespace StaticGzip

/-- An **internet address**. -/
inductive IpAddress where
  | v4 (bytes : Vector UInt8 4)
  | v6 (groups : Vector UInt16 8)
deriving DecidableEq, Repr

/-- A **socket address**: an internet address, a scope that only version 6 has, and a port. -/
inductive SocketAddress where
  | v4 (bytes : Vector UInt8 4) (port : UInt16)
  | v6 (groups : Vector UInt16 8) (scope : UInt32) (port : UInt16)
deriving DecidableEq, Repr

namespace SocketAddress

/-- The internet address of a socket address. -/
def ip : SocketAddress → IpAddress
  | v4 bytes _ => .v4 bytes
  | v6 groups _ _ => .v6 groups

/-- The port of a socket address. -/
def port : SocketAddress → UInt16
  | v4 _ p => p
  | v6 _ _ p => p

/-- The same address with another port. -/
def withPort (a : SocketAddress) (p : UInt16) : SocketAddress :=
  match a with
  | v4 bytes _ => v4 bytes p
  | v6 groups scope _ => v6 groups scope p

@[simp] theorem port_withPort (a : SocketAddress) (p : UInt16) : (a.withPort p).port = p := by
  cases a <;> rfl

end SocketAddress

/-! ## Written form -/

namespace IpAddress

/-- Four bytes with dots between. -/
def dotted (bytes : List UInt8) : Text :=
  ['.'].intercalate (bytes.map fun b => Text.ofNat b.toNat)

/-- Groups in lower-case hexadecimal with colons between. -/
def colonGroups (groups : List UInt16) : Text :=
  [':'].intercalate (groups.map fun g => Nat.toDigits 16 g.toNat)

/-- The length of the run of zeros at the start of some groups. -/
def zeroRun (groups : List UInt16) : Nat := (groups.takeWhile (· == 0)).length

/-- Start and length of the longest run of zero groups; of equal runs, the first. -/
def longestZeroRun (groups : List UInt16) : Nat × Nat :=
  (List.range groups.length).foldl
    (fun best i =>
      let n := zeroRun (groups.drop i)
      if best.2 < n then (i, n) else best)
    (0, 0)

/-- The bytes of the address of version 4 that some groups map, if they map one. -/
def mapped? : List UInt16 → Option (List UInt8)
  | [0, 0, 0, 0, 0, 0xffff, g, h] =>
    some [(g >>> 8).toUInt8, g.toUInt8, (h >>> 8).toUInt8, h.toUInt8]
  | _ => none

/-- The written form of the groups of an address of version 6. -/
def groupsText (groups : List UInt16) : Text :=
  match mapped? groups with
  | some bytes => "::ffff:".toList ++ dotted bytes
  | none =>
    let (start, length) := longestZeroRun groups
    if 1 < length then
      colonGroups (groups.take start) ++ "::".toList ++ colonGroups (groups.drop (start + length))
    else colonGroups groups

/-- The **written form** of an internet address. -/
def text : IpAddress → Text
  | v4 bytes => dotted bytes.toList
  | v6 groups => groupsText groups.toList

end IpAddress

/-- The **written form** of a socket address. An address of version 6 stands in brackets, together
with its scope unless that is zero. -/
def SocketAddress.text : SocketAddress → Text
  | v4 bytes port => IpAddress.dotted bytes.toList ++ ':' :: Text.ofNat port.toNat
  | v6 groups scope port =>
    let zone := if scope = 0 then [] else '%' :: Text.ofNat scope.toNat
    '[' :: IpAddress.groupsText groups.toList ++ zone ++ "]:".toList ++ Text.ofNat port.toNat

/-- The written form as a string. -/
def SocketAddress.display (a : SocketAddress) : String := String.ofList a.text

/-! ## Reading

Each reader takes what it can from the start of a text and returns the value and the rest. -/

namespace Address

/-- A reader takes a value from the start of a text. -/
abbrev Reader (α : Type) := Text → Option (α × Text)

/-- The rest of the text after a given character. -/
def skip? (c : Char) : Text → Option Text
  | d :: rest => if d = c then some rest else none
  | [] => none

/-- A numeral of the decimal or hexadecimal system with at most `width` digits. -/
def numeral? (digit? : Char → Option Nat) (base width : Nat) : Reader Nat := fun t =>
  let digits := t.takeWhile fun c => (digit? c).isSome
  if digits.isEmpty || width < digits.length then none
  else some (digits.foldl (fun n c => base * n + (digit? c).getD 0) 0, t.drop digits.length)

/-- A decimal numeral that may have zeros in front and is at most `limit`. -/
def boundedNumeral? (limit : Nat) : Reader Nat := fun t => do
  let (n, rest) ← numeral? Text.digit? 10 t.length t
  if n ≤ limit then some (n, rest) else none

/-- A byte: at most three digits, and no zero in front of another digit. -/
def byte? : Reader UInt8 := fun t => do
  let (n, rest) ← numeral? Text.digit? 10 3 t
  if 255 < n || (t.head? == some '0' && rest.length + 1 < t.length) then none
  else some (UInt8.ofNat n, rest)

/-- A group of at most four hexadecimal digits. -/
def group? : Reader UInt16 := fun t => do
  let (n, rest) ← numeral? Text.hexDigit? 16 4 t
  some (UInt16.ofNat n, rest)

/-- Four bytes with dots between. -/
def bytes? : Reader (Vector UInt8 4) := fun t => do
  let (a, t) ← byte? t
  let (b, t) ← byte? (← skip? '.' t)
  let (c, t) ← byte? (← skip? '.' t)
  let (d, t) ← byte? (← skip? '.' t)
  some (#v[a, b, c, d], t)

/-- The two groups of four bytes. -/
def pairs (bytes : Vector UInt8 4) : List UInt16 :=
  [bytes[0].toUInt16 <<< 8 ||| bytes[1].toUInt16, bytes[2].toUInt16 <<< 8 ||| bytes[3].toUInt16]

/-- What stands before a group: a colon, except before the first one. -/
def separated? (first : Bool) (t : Text) : Option Text := if first then some t else skip? ':' t

/-- As many groups as there are, at most `limit`, and whether they end in four dotted bytes, which
stand for the last two groups. -/
def groups (limit : Nat) (first : Bool) (t : Text) : List UInt16 × Bool × Text :=
  match limit with
  | 0 => ([], false, t)
  | limit + 1 =>
    let dotted := if limit = 0 then none else (separated? first t).bind bytes?
    match dotted with
    | some (bytes, rest) => (pairs bytes, true, rest)
    | none =>
      match (separated? first t).bind group? with
      | none => ([], false, t)
      | some (g, rest) =>
        let (gs, ended, rest) := groups limit false rest
        (g :: gs, ended, rest)

/-- The eight groups of some groups before and after a gap of zeros. -/
def fill (head tail : List UInt16) : Vector UInt16 8 :=
  let all := head ++ List.replicate (8 - head.length - tail.length) 0 ++ tail
  Vector.ofFn fun i => all.getD i 0

/-- The groups of an address of version 6. Dotted bytes may not stand before a gap, and a gap
stands for at least one group. -/
def groups? : Reader (Vector UInt16 8) := fun t =>
  let (head, dotted, rest) := groups 8 true t
  if head.length = 8 then some (fill head [], rest)
  else if dotted then none
  else do
    let rest ← skip? ':' (← skip? ':' rest)
    let (tail, _, rest) := groups (7 - head.length) true rest
    some (fill head tail, rest)

/-- A port after its colon. -/
def port? : Reader UInt16 := fun t => do
  let (n, rest) ← boundedNumeral? 65535 (← skip? ':' t)
  some (UInt16.ofNat n, rest)

/-- A scope after its percent sign, or zero where there is none. -/
def scope (t : Text) : UInt32 × Text :=
  match (skip? '%' t).bind (boundedNumeral? 4294967295) with
  | some (n, rest) => (UInt32.ofNat n, rest)
  | none => (0, t)

/-- A socket address of version 4. -/
def socketV4? : Reader SocketAddress := fun t => do
  let (bytes, t) ← bytes? t
  let (port, t) ← port? t
  some (.v4 bytes port, t)

/-- A socket address of version 6. -/
def socketV6? : Reader SocketAddress := fun t => do
  let (groups, t) ← groups? (← skip? '[' t)
  let (scope, t) := scope t
  let (port, t) ← port? (← skip? ']' t)
  some (.v6 groups scope port, t)

end Address

/-- The socket address that a **whole text** denotes. -/
def SocketAddress.ofText? (t : Text) : Option SocketAddress :=
  match (Address.socketV4? t).orElse fun _ => Address.socketV6? t with
  | some (a, []) => some a
  | _ => none

/-- The wording for a text that denotes no socket address. -/
def SocketAddress.invalid : String := "invalid socket address syntax"

end StaticGzip
