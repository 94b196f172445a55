import StaticGzip.Handle
import StaticGzip.Proofs.Http.HeaderText
import StaticGzip.Proofs.ServingContract

/-! # Three shapes of response

What serving a request leads to decides the response: a found file is sent compressed, a missing one
is not found, and a failure is an internal error that is logged. The headers of a found file name
its content type, and a content type that may not stand in a header would make the response an
internal error. No content type of a served file does so.

* **`Http.Response.Sends`** — a complete response with a compressed body.
* **`Http.Response.Built`, `Http.Response.built_gzip`** — a content type gives all of a response or
  nothing of it.
* **`Answer.Fits`** — the response and the error events that a result of serving calls for.
* **`handle_fits`** — every request is answered so. -/

namespace StaticGzip

/-! ## Building a response -/

namespace Http

/-- The names of the headers of a compressed file. -/
def Response.fileHeaderNames : List String := ["content-encoding", "content-type", "content-length"]

/-- A response **sends a body** compressed: it is a success, it says that the body is compressed,
how long it is, and of which type it is if it has one, and it has no other header. -/
structure Response.Sends (r : Response) (contentType : Option Text) (body : ByteArray) : Prop where
  status : r.status = 200
  body : r.body = body
  encoding : r.headers.values "content-encoding" = [utf8 "gzip".toList]
  contentType : r.headers.values "content-type" = (contentType.map utf8).toList
  /-- The length is written in decimal. -/
  length : r.headers.values "content-length" = [utf8 (.ofNat r.body.size)]
  /-- Whoever reads the length reads the number of bytes of the body. -/
  length_read : ∀ value ∈ r.headers.values "content-length",
    (readable? value).bind Text.decimal? = some r.body.size
  names : ∀ h ∈ r.headers, h.name ∈ fileHeaderNames

/-- The **two ways to build** a response for a compressed file: the whole of it and nothing in the
log, or a plain internal error in its place and one error in the log. -/
inductive Response.Built (contentType : Option Text) (body : ByteArray) :
    Response × List Event → Prop where
  /-- The content type may stand in a header, or there is none. -/
  | whole {r : Response} (legal : ∀ t ∈ contentType, IsValueText t)
      (sends : r.Sends contentType body) : Built contentType body (r, [])
  /-- The content type may not stand in a header. -/
  | replaced {t : Text} {event : Event} (given : contentType = some t)
      (illegal : ¬ IsValueText t) (error : event.level = .error) :
    Built contentType body (⟨500, [], "Internal Server Error".toUTF8⟩, [event])

namespace Response

variable {contentType : Option Text} {body : ByteArray}

/-- The headers of a compressed file have the names of such headers. -/
theorem name_mem_of_mem_fileHeaders {value : Option Bytes} {size : Nat} {h : Header}
    (hh : h ∈ fileHeaders value size) : h.name ∈ fileHeaderNames := by
  unfold fileHeaders at hh
  rcases List.mem_append.mp hh with hh | hh
  · rcases List.mem_append.mp hh with hh | hh
    · rw [List.mem_singleton.mp hh]
      decide
    · obtain ⟨bytes, -, rfl⟩ := Option.map_eq_some_iff.mp (Option.mem_toList.mp hh)
      exact List.mem_cons_of_mem _ List.mem_cons_self
  · rw [List.mem_singleton.mp hh]
    simp [fileHeaderNames]

/-- A response with the headers of a compressed file **sends the file**. -/
theorem sends_fileHeaders (contentType : Option Text) (body : ByteArray) :
    Sends ⟨200, fileHeaders (contentType.map utf8) body.size, body⟩ contentType body := by
  have length : (fileHeaders (contentType.map utf8) body.size).values "content-length"
      = [utf8 (.ofNat body.size)] := by
    cases contentType <;> rfl
  exact {
    status := rfl
    body := rfl
    encoding := by cases contentType <;> rfl
    contentType := by cases contentType <;> rfl
    length := length
    length_read := by
      intro value hv
      rw [length, List.mem_singleton] at hv
      rw [hv]
      exact decimal?_readable?_ofNat body.size
    names := fun _ => name_mem_of_mem_fileHeaders }

/-- A content type that may stand in a header gives a **complete response**, and nothing is
logged. -/
theorem gzip_of_isValueText (legal : ∀ t ∈ contentType, IsValueText t) (body : ByteArray) :
    (gzip body contentType).1.Sends contentType body ∧ (gzip body contentType).2 = [] := by
  have bytes : (contentType.map utf8).all (·.all isValueByte) = true := by
    cases contentType with
    | none => rfl
    | some t => exact (all_isValueByte_utf8_iff t).mpr (legal t rfl)
  rw [gzip, if_pos bytes]
  exact ⟨sends_fileHeaders contentType body, rfl⟩

/-- A content type that may not stand in a header gives **nothing but an internal error**, and one
error is logged. -/
theorem gzip_of_not_isValueText {t : Text} (illegal : ¬ IsValueText t) (body : ByteArray) :
    gzip body (some t) = (internalError, [unbuildable]) := by
  have bytes : ¬ ((some t).map utf8).all (·.all isValueByte) = true := fun h =>
    illegal ((all_isValueByte_utf8_iff t).mp h)
  rw [gzip, if_neg bytes]

/-- **Every content type** gives a complete response or an internal error, by whether it may stand
in a header. -/
theorem built_gzip (body : ByteArray) (contentType : Option Text) :
    Built contentType body (gzip body contentType) := by
  by_cases legal : ∀ t ∈ contentType, IsValueText t
  · obtain ⟨sends, quiet⟩ := gzip_of_isValueText legal body
    have whole := Built.whole legal sends
    rwa [← quiet] at whole
  · obtain ⟨t, rfl, illegal⟩ : ∃ t, contentType = some t ∧ ¬ IsValueText t := by
      simpa using legal
    rw [gzip_of_not_isValueText illegal body]
    exact .replaced rfl illegal rfl

end Response

/-- The text of every content type **may stand in a header**. -/
theorem isValueText_contentType (type : ContentType) : IsValueText type.text.toList := by
  rw [← all_isValueByte_utf8_iff]
  cases type <;> decide

end Http

/-! ## Answering a request -/

/-- The **errors** among some events. -/
def Event.errors (events : List Event) : List Event := events.filter (·.level == .error)

@[simp] theorem Event.errors_append (events more : List Event) :
    errors (events ++ more) = errors events ++ errors more := List.filter_append ..

/-- A file that a lookup has found was **read**, and its body is read back as what was read. -/
theorem Serve.Lookup.exists_read {fs : FileSystem} {path : Path}
    {contentType : Option ContentType} {s : Serving} {file : ServedFile}
    (h : Lookup fs path contentType s) (found : s.result = .ok (.found file)) :
    ∃ content, fs.read path = .ok content ∧ Gzip.decompress? file.body = some content := by
  cases h with
  | @found m content stat isFile read =>
    obtain rfl : sent contentType content = file := by simpa using found
    exact ⟨content, read, (delivers_sent contentType content).body⟩
  | _ => exact absurd found (by simp)

/-- Looking up a file logs no errors. -/
theorem Serve.Lookup.errors_eq_nil {fs : FileSystem} {file : Path}
    {contentType : Option ContentType} {s : Serving} (h : Lookup fs file contentType s) :
    Event.errors s.events = [] := by
  cases h <;> rfl

/-- Serving a request logs no errors; that is left to whoever answers it. -/
theorem errors_serve (fs : FileSystem) (root : Path) (path : Text) (headers : Http.Headers) :
    Event.errors (serve fs root path headers).events = [] := by
  cases routed : Route.ofRequest? path headers with
  | none =>
    rw [serve_of_no_route routed]
    rfl
  | some route => exact (serve_of_route routed fs).errors_eq_nil

/-- An access line is no error. -/
theorem errors_accessEvents (logging : LoggingSettings) (c : Circumstances)
    (request : Http.Request) (response : Http.Response) :
    Event.errors (accessEvents logging c request response) = [] := by
  unfold accessEvents
  split <;> rfl

/-- A request with a found file has a **route**, and its file was read below the root. -/
theorem exists_read_of_found {fs : FileSystem} {root : Path} {path : Text}
    {headers : Http.Headers} {file : ServedFile}
    (h : (serve fs root path headers).result = .ok (.found file)) :
    ∃ route content, Route.ofRequest? path headers = some route ∧
      fs.read (root.joinWithin route.file) = .ok content ∧
      Gzip.decompress? file.body = some content := by
  cases routed : Route.ofRequest? path headers with
  | none =>
    rw [serve_of_no_route routed] at h
    exact absurd (Except.ok.inj h) (by simp)
  | some route =>
    obtain ⟨content, read, back⟩ := (serve_of_route routed fs).exists_read h
    exact ⟨route, content, rfl, read, back⟩

/-- An answer **fits** what serving the request has led to. -/
def Answer.Fits (a : Answer) (fs : FileSystem) (root : Path) (request : Http.Request) :
    Except ServeError Outcome → Prop
  | .ok (.found file) =>
    a.response.Sends (file.contentType.map (·.text.toList)) file.body ∧
      (∃ route content, Route.ofRequest? request.target.path request.headers = some route ∧
        fs.read (root.joinWithin route.file) = .ok content ∧
        Gzip.decompress? a.response.body = some content) ∧
      Event.errors a.events = []
  | .ok .notFound => a.response = ⟨404, [], "Not Found".toUTF8⟩ ∧ Event.errors a.events = []
  | .error e => a.response = ⟨500, [], "Internal Server Error".toUTF8⟩ ∧
    ∃ event, Event.errors a.events = [event] ∧
      event.message = String.ofList request.method.text ++ " " ++ String.ofList request.target.path
        ++ ": " ++ e.message

namespace Handle

/-- What is logged about a request comes from serving it, from its result, and from the access
line. -/
theorem errors_handle (fs : FileSystem) (settings : Settings) (c : Circumstances)
    (request : Http.Request) :
    Event.errors (handle fs settings c request).events
      = Event.errors (respond request.method request.target.path
          (serve fs settings.root request.target.path request.headers).result).2 := by
  simp only [handle, answer, Event.errors_append, errors_serve, errors_accessEvents,
    List.nil_append, List.append_nil]

/-- The response of a request is that of its result. -/
theorem response_handle (fs : FileSystem) (settings : Settings) (c : Circumstances)
    (request : Http.Request) :
    (handle fs settings c request).response
      = (respond request.method request.target.path
          (serve fs settings.root request.target.path request.headers).result).1 := rfl

/-- The response of a **found file** is complete, and it logs no error. -/
theorem respond_found (method : Http.Method) (path : Text) (file : ServedFile) :
    (respond method path (.ok (.found file))).1.Sends
        (file.contentType.map (·.text.toList)) file.body ∧
      Event.errors (respond method path (.ok (.found file))).2 = [] := by
  have legal : ∀ t ∈ file.contentType.map (·.text.toList), Http.IsValueText t := by
    intro t ht
    obtain ⟨type, -, rfl⟩ := Option.map_eq_some_iff.mp ht
    exact Http.isValueText_contentType type
  obtain ⟨sends, quiet⟩ := Http.Response.gzip_of_isValueText legal file.body
  have events : (respond method path (.ok (.found file))).2 = sending path file
      :: (Http.Response.gzip file.body (file.contentType.map (·.text.toList))).2 := rfl
  rw [events, quiet]
  exact ⟨sends, rfl⟩

end Handle

/-- **The response is decided by serving.** Every answer fits what serving the request has led to,
and a response for a compressed file is built whole, or an internal error is sent in its place. -/
theorem handle_fits (fs : FileSystem) (settings : Settings) (c : Circumstances)
    (request : Http.Request) :
    (handle fs settings c request).Fits fs settings.root request
        (serve fs settings.root request.target.path request.headers).result ∧
      ∀ (body : ByteArray) (contentType : Option Text),
        Http.Response.Built contentType body (Http.Response.gzip body contentType) := by
  refine ⟨?_, Http.Response.built_gzip⟩
  have response := Handle.response_handle fs settings c request
  have errors := Handle.errors_handle fs settings c request
  cases result : (serve fs settings.root request.target.path request.headers).result with
  | ok outcome =>
    rw [result] at response errors
    cases outcome with
    | found file =>
      obtain ⟨sends, quiet⟩ := Handle.respond_found request.method request.target.path file
      obtain ⟨route, content, routed, read, back⟩ := exists_read_of_found result
      rw [← response] at sends
      refine ⟨sends, ⟨route, content, routed, read, ?_⟩, errors.trans quiet⟩
      rw [sends.body, back]
    | notFound => exact ⟨response, errors⟩
  | error e =>
    rw [result] at response errors
    refine ⟨response, _, errors, ?_⟩
    simp [Handle.failed, Event.failure, toString]

end StaticGzip
