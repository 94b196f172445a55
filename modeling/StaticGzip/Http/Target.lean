import StaticGzip.Text.Basic

/-! # Request targets

A request names its resource in one of four forms: a path with an optional query (`/a?b`), a whole
address (`http://host/a?b`), a bare authority (`host:80`), or an asterisk. Only the path and the
query matter afterwards. A fragment is dropped.

* **`Target.ofText?`** — the path and query of a target, or what is wrong with it.
* **`Target.text`** — the path and the query joined again. -/

namespace StaticGzip.Http

/-- What is wrong with a request target. -/
inductive TargetError where
  | empty
  | tooLong
  | schemeTooLong
  | invalidCharacter
  | invalidAuthority
  | invalidFormat
deriving DecidableEq, Repr

/-- The wording of a target error. -/
def TargetError.message : TargetError → String
  | .empty => "empty string"
  | .tooLong => "uri too long"
  | .schemeTooLong => "scheme too long"
  | .invalidCharacter => "invalid uri character"
  | .invalidAuthority => "invalid authority"
  | .invalidFormat => "invalid format"

/-- A **target**: its path, and its query without the question mark. -/
structure Target where
  path : Text
  query : Option Text
deriving DecidableEq, Repr

namespace Target

/-! ## Characters -/

/-- A character that may stand in a path. -/
def isPathChar (c : Char) : Bool :=
  let n := c.toNat
  n == 0x21 || n == 0x22 || (0x24 ≤ n && n ≤ 0x3b) || n == 0x3d || (0x40 ≤ n && n ≤ 0x5f)
    || (0x61 ≤ n && n ≤ 0x7e) || 0x7f ≤ n

/-- A character that may stand in a query. -/
def isQueryChar (c : Char) : Bool :=
  let n := c.toNat
  n == 0x21 || (0x24 ≤ n && n ≤ 0x3b) || n == 0x3d || (0x3f ≤ n && n ≤ 0x7e) || 0x7f ≤ n

/-- A character that may stand in a scheme. -/
def isSchemeChar (c : Char) : Bool := c.isAlphanum || "+-.~".toList.contains c

/-- A character that may stand in an authority, apart from the percent sign and the characters
that end it. -/
def isAuthorityChar (c : Char) : Bool := c.isAlphanum || "!$&'()*+,-.:;=@[]_~".toList.contains c

/-- The characters that end an authority. -/
def endsAuthority (c : Char) : Bool := c == '/' || c == '?' || c == '#'

/-! ## Path and query -/

/-- The path and query of a text that is one. The path ends at the first question mark, and either
ends at a number sign, with which the fragment begins. An empty path is read as `/`. -/
def ofPathAndQuery? (t : Text) : Except TargetError Target :=
  let path := t.takeWhile fun c => c != '?' && c != '#'
  let rest := t.dropWhile fun c => c != '?' && c != '#'
  if !path.all isPathChar then .error .invalidCharacter
  else
    let shown := if path.isEmpty then ['/'] else path
    match rest with
    | '?' :: more =>
      let query := more.takeWhile (· != '#')
      if query.all isQueryChar then .ok ⟨shown, some query⟩ else .error .invalidCharacter
    | _ => .ok ⟨shown, none⟩

/-! ## Authority -/

/-- What has been seen of an authority. -/
structure Authority where
  colons : Nat
  opened : Bool
  closed : Bool
  percent : Bool
  afterAt : Bool
deriving DecidableEq, Repr

/-- One more character of an authority. Colons and percent signs before an `@` belong to the user,
and those between brackets to an address; both are forgotten. -/
def Authority.step (a : Authority) (c : Char) : Except TargetError Authority :=
  if c = ':' then
    if 8 ≤ a.colons then .error .invalidAuthority
    else .ok { a with colons := a.colons + 1, afterAt := false }
  else if c = '[' then
    if a.percent || a.opened then .error .invalidAuthority
    else .ok { a with opened := true, afterAt := false }
  else if c = ']' then
    if !a.opened || a.closed then .error .invalidAuthority
    else .ok { a with closed := true, colons := 0, percent := false, afterAt := false }
  else if c = '@' then .ok { a with colons := 0, percent := false, afterAt := true }
  else if c = '%' then .ok { a with percent := true, afterAt := false }
  else if isAuthorityChar c then .ok { a with afterAt := false }
  else .error .invalidCharacter

/-- Whether an authority may end here: brackets are closed, at most one colon is left, and neither
a percent sign of the host nor an `@` is the end of it. -/
def Authority.isComplete (a : Authority) : Bool :=
  a.opened == a.closed && a.colons ≤ 1 && !a.afterAt && !a.percent

/-- The authority at the start of a text and what follows it. -/
def splitAuthority? (t : Text) : Except TargetError (Text × Text) := do
  let authority := t.takeWhile fun c => !endsAuthority c
  let seen ← authority.foldlM Authority.step ⟨0, false, false, false, false⟩
  if seen.isComplete then .ok (authority, t.drop authority.length)
  else .error .invalidAuthority

/-! ## Scheme -/

/-- The longest scheme. -/
def maxScheme : Nat := 64

/-- What follows the scheme and its `://`, or nothing if the text has no scheme. -/
def afterScheme? (t : Text) : Except TargetError (Option Text) :=
  let scheme := t.takeWhile isSchemeChar
  match t.drop scheme.length with
  | ':' :: '/' :: '/' :: rest =>
    if t.length ≤ 3 then .ok none
    else if maxScheme < scheme.length then .error .schemeTooLong
    else .ok (some rest)
  | _ => .ok none

/-! ## Whole targets -/

/-- The longest target, in bytes. -/
def maxBytes : Nat := 65534

/-- The **target written by a text**. -/
def ofText? (t : Text) : Except TargetError Target :=
  if maxBytes < t.byteLength then .error .tooLong
  else match t with
    | [] => .error .empty
    | ['*'] => .ok ⟨['*'], none⟩
    | '/' :: _ => ofPathAndQuery? t
    | _ => do
      match ← afterScheme? t with
      | none =>
        let (_, rest) ← splitAuthority? t
        if rest.isEmpty then .ok ⟨[], none⟩
        else if t.length = 1 then .error .invalidCharacter
        else .error .invalidFormat
      | some afterScheme =>
        let (authority, rest) ← splitAuthority? afterScheme
        if authority.isEmpty then .error .invalidFormat else ofPathAndQuery? rest

/-- The path, and the query after a question mark if there is one. -/
def text (target : Target) : Text :=
  match target.query with
  | some query => target.path ++ '?' :: query
  | none => target.path

@[simp] theorem text_none (path : Text) : text ⟨path, none⟩ = path := rfl

@[simp] theorem text_some (path query : Text) : text ⟨path, some query⟩ = path ++ '?' :: query :=
  rfl

end Target

end StaticGzip.Http
