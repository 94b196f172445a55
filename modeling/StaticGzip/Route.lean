import StaticGzip.ContentType
import StaticGzip.Http.Header

/-! # Which file a request asks for

A request whose last path segment has an extension asks for that file. A request without one asks
for the index page, and only if its `Accept` lines list `text/html`.

* **`extension`** — from the last dot of the last segment, unless the dot begins the segment.
* **`acceptsHtml`** — whether one of the comma-separated parts is exactly `text/html`.
* **`Route.ofRequest?`** — the file and its content type, or nothing. -/

namespace StaticGzip

/-- The last segment of a path read backwards, trailing slashes ignored. -/
def backwardSegment (path : Text) : Text :=
  (path.reverse.dropWhile (· == '/')).takeWhile (· != '/')

/-- The **extension** of a path with its dot, or nothing: it runs from the last dot of the last
segment. A dot at the start of the segment begins no extension, and the segment `..` has none. -/
def extension (path : Text) : Text :=
  let backward := backwardSegment path
  if backward = ['.', '.'] then []
  else
    let suffix := backward.takeWhile (· != '.')
    match backward.drop suffix.length with
    | '.' :: _ :: _ => '.' :: suffix.reverse
    | _ => []

/-- The token that asks for a page. -/
def htmlToken : Text := "text/html".toList

/-- Whether the `Accept` lines, joined by a comma and a blank, list `text/html` between two commas.
The parts are not trimmed. -/
def acceptsHtml (headers : Http.Headers) : Bool :=
  match headers.texts "accept" with
  | [] => false
  | lines => ((", ".toList.intercalate lines).splitOn ',').contains htmlToken

/-- The file of the requests without an extension. -/
def indexFile : Text := "index.html".toList

/-- A **route**: the file that a request asks for, below the root, and its content type. -/
structure Route where
  file : Text
  contentType : Option ContentType
deriving DecidableEq, Repr

/-- The route of a request, or nothing if no file could answer it. -/
def Route.ofRequest? (path : Text) (headers : Http.Headers) : Option Route :=
  if extension path ≠ [] then some ⟨path, ContentType.ofExtension? (extension path)⟩
  else if acceptsHtml headers then some ⟨indexFile, some .html⟩
  else none

end StaticGzip
