import StaticGzip.Calendar
import StaticGzip.Http.Request
import StaticGzip.Http.Response

/-! # Responses on a connection

A response goes out as a line with the version and the status, its header lines, an empty line, and
its body.

* **`Reply`** — what the request decides about the form of its response.
* **`Response.wire`** — the bytes of a response. -/

namespace StaticGzip.Http

/-- The **form of a response**: the version it speaks, whether the connection lasts, and whether
the body is left out. -/
structure Reply where
  version : Version
  lasting : Bool
  bodiless : Bool
deriving DecidableEq, Repr

namespace Response

/-- The words for a status. -/
def reason : Nat → String
  | 200 => "OK"
  | 400 => "Bad Request"
  | 404 => "Not Found"
  | 414 => "URI Too Long"
  | 431 => "Request Header Fields Too Large"
  | 500 => "Internal Server Error"
  | _ => "<none>"

/-- The first line of a response. -/
def statusLine (version : Version) (status : Nat) : Text :=
  s!"HTTP/{version.text} {status} {reason status}".toList

/-- The header lines that a connection adds: the length unless it is told, whether the connection
lasts where the version would have it otherwise, and the date. -/
def addedHeaders (r : Response) (form : Reply) (time : Moment) : Headers :=
  let told := r.headers.any (·.name == "content-length")
  let length := if told then [] else [⟨"content-length", utf8 (Text.ofNat r.body.size)⟩]
  let connection :=
    if form.version = .v11 then
      if form.lasting then [] else [⟨"connection", utf8 "close".toList⟩]
    else if form.lasting then [⟨"connection", utf8 "keep-alive".toList⟩]
    else []
  length ++ connection ++ [⟨"date", utf8 time.headerTime⟩]

/-- A line with its end. -/
def lineBytes (line : Bytes) : Bytes := line ++ [13, 10]

/-- A header line. -/
def headerBytes (h : Header) : Bytes := lineBytes (utf8 h.name.toList ++ [58, 32] ++ h.value)

/-- The **bytes of a response**. -/
def wire (r : Response) (form : Reply) (time : Moment) : ByteArray :=
  let headers := r.headers ++ addedHeaders r form time
  let head := lineBytes (utf8 (statusLine form.version r.status))
    ++ headers.flatMap headerBytes ++ lineBytes []
  let head : ByteArray := ⟨head.toArray⟩
  if form.bodiless then head else head ++ r.body

end Response

end StaticGzip.Http
