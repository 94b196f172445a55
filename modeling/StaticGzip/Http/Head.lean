import StaticGzip.Http.Request
import StaticGzip.Http.Stream
import StaticGzip.Text.Blank

/-! # Heads of requests on a connection

The head of a request is a line with its method, target and version, the header lines, and an empty
line. Some header lines tell where the request ends and whether the connection lasts.

* **`HeadError`** — what is wrong with a head, and the status that answers it.
* **`Head.scan`** — the head at the start of a stream.
* **`Head.afterBody?`** — what follows the body of a request, which nobody reads. -/

namespace StaticGzip.Http

/-- What is **wrong with a head**. -/
inductive HeadError where
  | method
  | target
  | targetTooLong
  | version
  | line
  | tooLarge
  | length
  | coding
  | codingUnexpected
deriving DecidableEq, Repr

namespace HeadError

/-- The inner form of an error. -/
def form : HeadError → String
  | .method => "Method"
  | .target => "Uri"
  | .targetTooLong => "UriTooLong"
  | .version => "Version"
  | .line => "Header(Token)"
  | .tooLarge => "TooLarge"
  | .length => "Header(ContentLengthInvalid)"
  | .coding => "Header(TransferEncodingInvalid)"
  | .codingUnexpected => "Header(TransferEncodingUnexpected)"

/-- The status that answers an error. -/
def status : HeadError → Nat
  | .targetTooLong => 414
  | .tooLarge => 431
  | _ => 400

end HeadError

/-! ## The first line -/

/-- The characters that some bytes are, one each. -/
def charsOf (bytes : Bytes) : Text := bytes.map fun b => Char.ofNat b.toNat

/-- A byte of a method or of a header name. -/
def isTokenByte (b : UInt8) : Bool := isTokenChar (Char.ofNat b.toNat)

/-- A byte that may stand in a target before its form is looked at. -/
def isTargetByte (b : UInt8) : Bool := 0x21 ≤ b && b != 0x7f

namespace Head

/-- Empty lines before a head are skipped. -/
def emptyLines : Scanner HeadError Unit
  | 13 :: 10 :: rest => emptyLines rest
  | [13] => .short
  | 13 :: _ => .broken .line
  | 10 :: rest => emptyLines rest
  | [] => .short
  | bytes => .read () bytes

/-- A word of a class with the blank that ends it. -/
def word (p : UInt8 → Bool) (e : HeadError) : Scanner HeadError Bytes := do
  let word ← Scanner.span p
  if word.isEmpty then Scanner.fail e
  Scanner.byte 32 e
  return word

/-- How a version begins. -/
def versionMark : Bytes := "HTTP/1.".toUTF8.data.toList

/-- One of the two versions that are spoken. A wrong start is told before all of it is there. -/
def version : Scanner HeadError Version := fun bytes =>
  let start := bytes.take versionMark.length
  if !start.isPrefixOf versionMark then .broken .version
  else match bytes.drop versionMark.length with
    | [] => .short
    | 48 :: rest => .read .v10 rest
    | 49 :: rest => .read .v11 rest
    | _ => .broken .version

/-! ## Header lines -/

/-- A byte that separates a header name from its value. -/
def isBlankByte (b : UInt8) : Bool := b == 32 || b == 9

/-- A header line: a name, a colon, and a value without the blanks around it. -/
def line : Scanner HeadError (Bytes × Bytes) := do
  let name ← Scanner.span isTokenByte
  if name.isEmpty then Scanner.fail .line
  Scanner.byte 58 .line
  let _ ← Scanner.span isBlankByte
  let value ← Scanner.span isValueByte
  Scanner.lineEnd .line
  return (name, (value.reverse.dropWhile isBlankByte).reverse)

/-- Nothing at the empty line that ends a head, and otherwise what is read there. -/
def untilEmpty (more : Scanner HeadError (List (Bytes × Bytes))) :
    Scanner HeadError (List (Bytes × Bytes)) := do
  if Scanner.isLineEnd (← Scanner.peek) then
    Scanner.lineEnd .line
    return []
  else more

/-- Header lines up to the empty line, and at most so many. -/
def lines : Nat → Scanner HeadError (List (Bytes × Bytes))
  | 0 => untilEmpty do
    let _ ← line
    Scanner.fail .tooLarge
  | limit + 1 => untilEmpty do
    return (← line) :: (← lines limit)

/-- The most header lines of a head. -/
def maxLines : Nat := 100

end Head

/-! ## What the header lines tell -/

/-- Whether a header value lists a word between its commas, whatever the case. -/
def lists (value : Bytes) (word : String) : Bool :=
  match readable? value with
  | none => false
  | some text => (text.splitOn ',').any fun part => Text.lowerAscii (Text.trim part) == word.toList

/-- Whether the last word that a header value lists is the given one. -/
def listsLast (value : Bytes) (word : String) : Bool :=
  match readable? value with
  | none => false
  | some text =>
    ((text.splitOn ',').getLast?.map fun part => Text.lowerAscii (Text.trim part))
      == some word.toList

/-- What header lines **tell about a request**: the length of its body, whether the body comes in
chunks, and whether the connection lasts. -/
structure Terms where
  length : Option Nat
  chunked : Option Bool
  lasting : Bool
deriving DecidableEq, Repr

namespace Terms

/-- The greatest length of a body. -/
def maxLength : Nat := UInt64.size - 3

/-- The length that a header value writes. -/
def length? (value : Bytes) : Except HeadError Nat :=
  match Text.decimal? (charsOf value) with
  | some n =>
    if UInt64.size ≤ n then .error .length
    else if maxLength < n then .error .tooLarge
    else .ok n
  | none => .error .length

/-- The terms after one more header line. A length after a coding does not count, and two lengths
must agree. -/
def step (version : Version) (t : Terms) (h : Header) : Except HeadError Terms :=
  match h.name with
  | "transfer-encoding" =>
    if version = .v11 then .ok { t with chunked := some (listsLast h.value "chunked") }
    else .error .codingUnexpected
  | "content-length" =>
    if t.chunked.isSome then .ok t
    else do
      let n ← length? h.value
      if t.length.all (· == n) then .ok { t with length := some n } else .error .length
  | "connection" =>
    .ok { t with
      lasting := if t.lasting then !lists h.value "close" else lists h.value "keep-alive" }
  | _ => .ok t

/-- The **terms of a request**. The newer version lasts unless it says otherwise. -/
def ofHeaders (version : Version) (headers : Headers) : Except HeadError Terms := do
  let terms ← headers.foldlM (step version) ⟨none, none, version = .v11⟩
  if terms.chunked = some false then .error .coding else .ok terms

end Terms

/-! ## Whole heads -/

/-- The **head of a request** and its terms. -/
structure Head where
  request : Request
  terms : Terms
deriving DecidableEq, Repr

namespace Head

/-- The target of some bytes. -/
def target? (bytes : Bytes) : Except HeadError Target :=
  if Target.maxBytes < bytes.length then .error .targetTooLong
  else match String.fromUTF8? ⟨bytes.toArray⟩ with
    | none => .error .target
    | some s => (Target.ofText? s.toList).mapError fun _ => .target

/-- The head of a method, a target, a version and header lines that have the right form each. -/
def ofParts (method target : Bytes) (version : Version) (lines : List (Bytes × Bytes)) :
    Except HeadError Head := do
  let target ← target? target
  let headers ← lines.mapM fun (name, value) =>
    (Header.ofBytes name value).mapError fun _ => .tooLarge
  let terms ← Terms.ofHeaders version headers
  return ⟨⟨⟨charsOf method⟩, target, version, headers⟩, terms⟩

/-- The **head at the start of a stream**. -/
def scan : Scanner HeadError Head := do
  emptyLines
  let method ← word isTokenByte .method
  let target ← word isTargetByte .target
  let version ← version
  Scanner.lineEnd .line
  let lines ← lines maxLines
  match ofParts method target version lines with
  | .ok head => return head
  | .error e => Scanner.fail e

/-- An empty body in chunks. -/
def noChunks : Bytes := "0\r\n\r\n".toUTF8.data.toList

/-- What follows the **body** of a request, if all of the body has arrived. Of a body in chunks only
an empty one is looked for. -/
def afterBody? (h : Head) (rest : Bytes) : Option Bytes :=
  if h.terms.chunked.isSome then
    if noChunks.isPrefixOf rest then some (rest.drop noChunks.length) else none
  else
    let n := h.terms.length.getD 0
    if n ≤ rest.length then some (rest.drop n) else none

end Head

end StaticGzip.Http
