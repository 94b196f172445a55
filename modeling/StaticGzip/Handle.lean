import StaticGzip.AccessLog.Format
import StaticGzip.Config.Settings
import StaticGzip.Http.Response
import StaticGzip.Serve

/-! # Answering a request

A request is served, its outcome becomes a response, and if the settings ask for it an access line
is logged last. The method is not looked at, and a body is not read.

* **`Handle.respond`** — the response of an outcome and what is logged about it.
* **`Handle.answer`** — the answer to a request without its access line.
* **`handle`** — the whole answer to a request. -/

namespace StaticGzip

/-- An **answered request**: the response and all events in order. -/
structure Answer where
  response : Http.Response
  events : List Event

namespace Handle

/-- The event of a compressed file that is about to be sent. -/
def sending (path : Text) (file : ServedFile) : Event :=
  ⟨.debug, Event.router, "serving gzip response",
    [("path", .quoted (String.ofList path)),
      ("original", .plain (toString file.originalSize)),
      ("compressed", .plain (toString file.body.size))]⟩

/-- The event of a failure to serve. -/
def failed (method : Http.Method) (path : Text) (e : ServeError) : Event :=
  .failure s!"{String.ofList method.text} {String.ofList path}: {e.message}"

/-- The **response of a result** and what is logged about it. -/
def respond (method : Http.Method) (path : Text) :
    Except ServeError Outcome → Http.Response × List Event
  | .ok (.found file) =>
    let (response, events) :=
      Http.Response.gzip file.body (file.contentType.map (·.text.toList))
    (response, sending path file :: events)
  | .ok .notFound => (.notFound, [])
  | .error e => (.internalError, [failed method path e])

/-- The **answer without its access line**. -/
def answer (fs : FileSystem) (root : Path) (request : Http.Request) : Answer :=
  let served := serve fs root request.target.path request.headers
  let (response, events) := respond request.method request.target.path served.result
  ⟨response, served.events ++ events⟩

end Handle

/-- The circumstances of a request: who asks, when, and how long the answer takes. -/
structure Circumstances where
  peer : SocketAddress
  time : Moment
  elapsed : AccessLog.Elapsed
deriving DecidableEq, Repr

/-- The **entry** of an answered request. Of several lines of one header only the first counts. -/
def accessEntry (c : Circumstances) (request : Http.Request) (response : Http.Response) :
    AccessLog.Entry :=
  { AccessLog.Entry.start c.peer c.time request.method request.target request.version with
    status := response.status
    bodyBytes := response.body.size
    referer := request.headers.firstText? "referer"
    userAgent := request.headers.firstText? "user-agent"
    elapsed := c.elapsed }

/-- The access line of an answered request, if the settings ask for one. -/
def accessEvents (logging : LoggingSettings) (c : Circumstances) (request : Http.Request)
    (response : Http.Response) : List Event :=
  if logging.accessLog then
    [.accessLine ((accessEntry c request response).line (.ofString logging.accessLogFormat))]
  else []

/-- The **answer** to a request. -/
def handle (fs : FileSystem) (settings : Settings) (c : Circumstances) (request : Http.Request) :
    Answer :=
  let answer := Handle.answer fs settings.root request
  { answer with
    events := answer.events ++ accessEvents settings.logging c request answer.response }

end StaticGzip
