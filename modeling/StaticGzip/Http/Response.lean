import StaticGzip.Event
import StaticGzip.Http.Header

/-! # Responses

Three kinds of response leave the server: a compressed file, and two plain ones for a missing file
and for a failure. -/

namespace StaticGzip.Http

/-- A **response**. -/
structure Response where
  status : Nat
  headers : Headers
  body : ByteArray

namespace Response

/-- The bytes of a text. -/
def utf8 (t : Text) : Bytes := t.flatMap String.utf8EncodeChar

/-- A response without headers. -/
def plain (status : Nat) (body : String) : Response := ⟨status, [], body.toUTF8⟩

/-- The response for a missing file. -/
def notFound : Response := plain 404 "Not Found"

/-- The response for a failure. -/
def internalError : Response := plain 500 "Internal Server Error"

/-- The headers of a compressed file. -/
def fileHeaders (contentType : Option Bytes) (size : Nat) : Headers :=
  [⟨"content-encoding", utf8 "gzip".toList⟩]
    ++ (contentType.map (Header.mk "content-type")).toList
    ++ [⟨"content-length", utf8 (Text.ofNat size)⟩]

/-- The event of a content type that cannot stand in a header. -/
def unbuildable : Event :=
  .failure s!"Failed to build 200 response: {HeaderError.invalidValue.message}"

/-- The response for a **compressed file** and what is logged about it. A content type that cannot
stand in a header makes it a failure. -/
def gzip (body : ByteArray) (contentType : Option Text) : Response × List Event :=
  let value := contentType.map utf8
  if value.all (·.all isValueByte) then (⟨200, fileHeaders value body.size, body⟩, [])
  else (internalError, [unbuildable])

end Response

end StaticGzip.Http
