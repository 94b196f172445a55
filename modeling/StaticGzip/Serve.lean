import StaticGzip.Event
import StaticGzip.FileSystem
import StaticGzip.Gzip.Member
import StaticGzip.Route

/-! # Serving a file

A request path with its headers leads to a compressed file, to nothing, or to a failure. On the way
at most two questions are asked of the file system, both about one path below the root.

* **`Serving`** — the result, with the questions asked and the events logged, in order.
* **`serve`** — the route, the question what is there, and the question what it contains. -/

namespace StaticGzip

/-- A **file to be sent**: its compressed content, its content type if it has one, and the size
before compression. -/
structure ServedFile where
  body : ByteArray
  contentType : Option ContentType
  originalSize : Nat

/-- What serving a request leads to. -/
inductive Outcome where
  | found (file : ServedFile)
  | notFound

/-- A **failure to serve** a request. -/
inductive ServeError where
  | stat (path : Path) (source : IoError)
  | read (path : Path) (source : IoError)
  | compress (source : IoError)
deriving DecidableEq, Repr

/-- The wording of a failure. -/
def ServeError.message : ServeError → String
  | stat path source => s!"failed to stat {path.display}: {source.message}"
  | read path source => s!"failed to read {path.display}: {source.message}"
  | compress source => s!"gzip compression failed: {source.message}"

/-- The **serving** of a request: its result, the questions it asked, and what it logged. -/
structure Serving where
  result : Except ServeError Outcome
  calls : List FileCall
  events : List Event

namespace Serve

/-- An event of the file lookup. -/
def event (message : String) (fields : List (String × FieldValue)) : Event :=
  ⟨.debug, Event.files, message, fields⟩

/-- The event of a request that no file could answer. -/
def unroutable (path : Text) : Event :=
  event "extensionless request without text/html accept" [("path", .quoted (String.ofList path))]

/-- The event of a missing file. -/
def missing (file : Path) : Event := event "file not found" [("file", .plain file.display)]

/-- The event of a path that is no regular file. -/
def irregular (file : Path) : Event := event "not a regular file" [("file", .plain file.display)]

/-- The event of a file that is about to be read. -/
def reading (file : Path) (size : Nat) : Event :=
  event "reading file" [("file", .plain file.display), ("size", .plain (toString size))]

/-- The file to be sent for some content. -/
def sent (contentType : Option ContentType) (content : ByteArray) : ServedFile :=
  ⟨Gzip.compress content, contentType, content.size⟩

/-- Serving the file at a path, which has been found to be a regular one of a given size. -/
def regular (fs : FileSystem) (file : Path) (contentType : Option ContentType) (size : Nat) :
    Serving :=
  let calls := [.stat file, .read file]
  let events := [reading file size]
  match fs.read file with
  | .error source => ⟨.error (.read file source), calls, events⟩
  | .ok content => ⟨.ok (.found (sent contentType content)), calls, events⟩

/-- Serving whatever is at a path. What is missing or no regular file is not found. -/
def file (fs : FileSystem) (file : Path) (contentType : Option ContentType) : Serving :=
  match fs.stat file with
  | .error source =>
    if source.kind = .notFound then ⟨.ok .notFound, [.stat file], [missing file]⟩
    else ⟨.error (.stat file source), [.stat file], []⟩
  | .ok found =>
    if found.isFile then regular fs file contentType found.size
    else ⟨.ok .notFound, [.stat file], [irregular file]⟩

end Serve

/-- **Serving a request** from the files below a root. -/
def serve (fs : FileSystem) (root : Path) (path : Text) (headers : Http.Headers) : Serving :=
  match Route.ofRequest? path headers with
  | none => ⟨.ok .notFound, [], [Serve.unroutable path]⟩
  | some route => Serve.file fs (root.joinWithin route.file) route.contentType

end StaticGzip
