import StaticGzip.Proofs.ResponseShapes

/-! # Accounts of answered requests

An access line accounts for one answered request. It is written if the settings ask for it, after
everything else that is logged about the request, and it shows the response that is returned,
whichever of the three that is. Of the headers it shows two, each by the first line of its name; a
first line that cannot be read hides those that follow it.

* **`Http.Headers.First`** — what the first line of a name says.
* **`AccessLog.Entry.Records`** — an entry tells a request and its response as they are.
* **`Answer.Accounted`** — the access line of an answer.
* **`handle_accounted`** — every answer has the access line that the settings ask for. -/

namespace StaticGzip

/-! ## First lines -/

namespace Http

/-- A value that **can be read** is made of tabs and printable ASCII. -/
def IsReadable (value : Bytes) : Prop := ∀ b ∈ value, b = 9 ∨ 32 ≤ b ∧ b < 127

theorem all_isReadableByte_iff (value : Bytes) :
    value.all isReadableByte = true ↔ IsReadable value := by
  simp [IsReadable, isReadableByte]

/-- A value is read byte by byte exactly if it can be read. -/
theorem readable?_of_isReadable {value : Bytes} (h : IsReadable value) :
    readable? value = some (value.map fun b => Char.ofNat b.toNat) := by
  rw [readable?, if_pos ((all_isReadableByte_iff value).mpr h)]

theorem readable?_of_not_isReadable {value : Bytes} (h : ¬ IsReadable value) :
    readable? value = none := by
  rw [readable?, if_neg (mt (all_isReadableByte_iff value).mp h)]

namespace Headers

variable {headers : Headers} {name : String}

/-- What the **first line of a name** says: nothing if there is no such line or if it cannot be
read, and else its text. Later lines of the name do not matter. -/
inductive First (headers : Headers) (name : String) : Option Text → Prop where
  /-- No line has the name. -/
  | absent (others : ∀ line ∈ headers, line.name ≠ name) : First headers name none
  /-- The first line of the name can be read. -/
  | readable {before after : Headers} {value : Bytes}
      (split : headers = before ++ ⟨name, value⟩ :: after)
      (first : ∀ line ∈ before, line.name ≠ name) (legible : IsReadable value) :
    First headers name (some (value.map fun b => Char.ofNat b.toNat))
  /-- The first line of the name cannot be read. -/
  | unreadable {before after : Headers} {value : Bytes}
      (split : headers = before ++ ⟨name, value⟩ :: after)
      (first : ∀ line ∈ before, line.name ≠ name) (illegible : ¬ IsReadable value) :
    First headers name none

/-- Lines of other names have no values of the name. -/
theorem values_eq_nil (others : ∀ line ∈ headers, line.name ≠ name) : values headers name = [] := by
  simpa [values] using others

/-- The first value of a name is that of its first line. -/
theorem head?_values {before after : Headers} {value : Bytes}
    (first : ∀ line ∈ before, line.name ≠ name) :
    (values (before ++ ⟨name, value⟩ :: after) name).head? = some value := by
  rw [values_append, values_eq_nil first]
  simp [values]

/-- Headers have no line of a name, or a **first one**. -/
theorem exists_first (headers : Headers) (name : String) :
    (∀ line ∈ headers, line.name ≠ name) ∨
      ∃ before value after, headers = before ++ ⟨name, value⟩ :: after ∧
        ∀ line ∈ before, line.name ≠ name := by
  cases found : headers.find? (·.name == name) with
  | none => exact .inl (by simpa using found)
  | some line =>
    obtain ⟨named, before, after, split, first⟩ := List.find?_eq_some_iff_append.mp found
    obtain rfl : line.name = name := by simpa using named
    exact .inr ⟨before, line.value, after, split, by simpa using first⟩

/-- The text of a name is what its **first line says**. -/
theorem first_firstText? (headers : Headers) (name : String) :
    First headers name (headers.firstText? name) := by
  rcases exists_first headers name with others | ⟨before, value, after, rfl, first⟩
  · have none : headers.firstText? name = none := by simp [firstText?, values_eq_nil others]
    rw [none]
    exact .absent others
  · have read : firstText? (before ++ ⟨name, value⟩ :: after) name = readable? value := by
      rw [firstText?, head?_values first, Option.bind_some]
    rw [read]
    by_cases legible : IsReadable value
    · rw [readable?_of_isReadable legible]
      exact .readable rfl first legible
    · rw [readable?_of_not_isReadable legible]
      exact .unreadable rfl first legible

end Headers

end Http

/-! ## Entries -/

/-- An entry **records** a request, its circumstances and its response. -/
structure AccessLog.Entry.Records (e : AccessLog.Entry) (c : Circumstances)
    (request : Http.Request) (response : Http.Response) : Prop where
  status : e.status = response.status
  /-- The size is the number of bytes that are sent, after compression. -/
  bodyBytes : e.bodyBytes = response.body.size
  method : e.method = request.method.text
  path : e.path = request.target.path
  query : e.query = request.target.query
  version : e.version = request.version
  referer : request.headers.First "referer" e.referer
  userAgent : request.headers.First "user-agent" e.userAgent
  remote : e.remote = c.peer
  time : e.time = c.time
  elapsed : e.elapsed = c.elapsed

/-- The entry of an answered request **records it**. -/
theorem records_accessEntry (c : Circumstances) (request : Http.Request)
    (response : Http.Response) : (accessEntry c request response).Records c request response where
  status := rfl
  bodyBytes := rfl
  method := rfl
  path := rfl
  query := rfl
  version := rfl
  referer := Http.Headers.first_firstText? _ _
  userAgent := Http.Headers.first_firstText? _ _
  remote := rfl
  time := rfl
  elapsed := rfl

/-! ## Other events -/

/-- **No access line** is among some events. -/
def Event.NoAccess (events : List Event) : Prop := ∀ event ∈ events, event.target ≠ Event.access

/-- Looking up a file writes no access line. -/
theorem Serve.Lookup.noAccess {fs : FileSystem} {file : Path} {contentType : Option ContentType}
    {s : Serving} (h : Lookup fs file contentType s) : Event.NoAccess s.events := by
  cases h <;> simp [Event.NoAccess, Serve.missing, Serve.irregular, Serve.reading, Serve.event,
    Event.files, Event.access]

/-- Serving a request writes no access line. -/
theorem noAccess_serve (fs : FileSystem) (root : Path) (path : Text) (headers : Http.Headers) :
    Event.NoAccess (serve fs root path headers).events := by
  cases routed : Route.ofRequest? path headers with
  | none =>
    rw [serve_of_no_route routed]
    simp [Event.NoAccess, Serve.unroutable, Serve.event, Event.files, Event.access]
  | some route => exact (serve_of_route routed fs).noAccess

/-- A response for a compressed file is built without an access line. -/
theorem Http.Response.noAccess_gzip (body : ByteArray) (contentType : Option Text) :
    Event.NoAccess (gzip body contentType).2 := by
  unfold gzip
  dsimp only
  split <;> simp [Event.NoAccess, unbuildable, Event.failure, Event.lifecycle, Event.access]

namespace Handle

/-- Making a response of a result writes no access line. -/
theorem noAccess_respond (method : Http.Method) (path : Text)
    (result : Except ServeError Outcome) : Event.NoAccess (respond method path result).2 := by
  cases result with
  | error e => simp [respond, Event.NoAccess, failed, Event.failure, Event.lifecycle, Event.access]
  | ok outcome =>
    cases outcome with
    | notFound => simp [respond, Event.NoAccess]
    | found file =>
      intro event logged
      rcases List.mem_cons.mp logged with rfl | logged
      · simp [sending, Event.router, Event.access]
      · exact Http.Response.noAccess_gzip _ _ event logged

/-- An answer without its access line has no access line. -/
theorem noAccess_answer (fs : FileSystem) (root : Path) (request : Http.Request) :
    Event.NoAccess (answer fs root request).events := by
  intro event logged
  rcases List.mem_append.mp logged with logged | logged
  · exact noAccess_serve _ _ _ _ event logged
  · exact noAccess_respond _ _ _ event logged

/-- A response is a complete one for a compressed file, or one of the two **plain ones**. -/
theorem respond_cases (method : Http.Method) (path : Text) (result : Except ServeError Outcome) :
    (∃ contentType body, (respond method path result).1.Sends contentType body) ∨
      (respond method path result).1 = .notFound ∨
      (respond method path result).1 = .internalError := by
  cases result with
  | error e => exact .inr (.inr rfl)
  | ok outcome =>
    cases outcome with
    | notFound => exact .inr (.inl rfl)
    | found file => exact .inl ⟨_, _, (respond_found method path file).1⟩

end Handle

/-! ## Answers -/

/-- An answer is **accounted for** as the settings ask. -/
structure Answer.Accounted (a : Answer) (logging : LoggingSettings) (c : Circumstances)
    (request : Http.Request) : Prop where
  /-- If no access lines are asked for, there is none. -/
  silent : logging.accessLog = false → ∀ event ∈ a.events, event.target ≠ Event.access
  /-- If they are asked for, there is one, after all other events. It shows the request and the
  response that is returned, in the format of the settings. -/
  line : logging.accessLog = true → ∃ (before : List Event) (entry : AccessLog.Entry),
    entry.Records c request a.response ∧
    a.events = before ++ [⟨.info, Event.access,
      String.ofList (entry.line (.ofString logging.accessLogFormat)), []⟩] ∧
    ∀ event ∈ before, event.target ≠ Event.access
  /-- The response is a success, or it is one of two failures. -/
  status : a.response.status = 200 ∨ a.response.status = 404 ∨ a.response.status = 500
  /-- What a successful response says of its length is the size that is recorded. -/
  length : a.response.status = 200 → ∃ value, a.response.headers.values "content-length" = [value] ∧
    ∀ entry : AccessLog.Entry, entry.Records c request a.response →
      (Http.readable? value).bind Text.decimal? = some entry.bodyBytes

/-- **Every answer is accounted for**, whatever the request asks for and whatever comes of it. -/
theorem handle_accounted (fs : FileSystem) (settings : Settings) (c : Circumstances)
    (request : Http.Request) :
    (handle fs settings c request).Accounted settings.logging c request := by
  have response := Handle.response_handle fs settings c request
  have others := Handle.noAccess_answer fs settings.root request
  have events : (handle fs settings c request).events
      = (Handle.answer fs settings.root request).events
        ++ accessEvents settings.logging c request (handle fs settings c request).response := rfl
  have shape := Handle.respond_cases request.method request.target.path
    (serve fs settings.root request.target.path request.headers).result
  rw [← response] at shape
  constructor
  case silent =>
    intro off
    rw [events, accessEvents, off, if_neg Bool.false_ne_true, List.append_nil]
    exact others
  case line =>
    intro on
    refine ⟨_, _, records_accessEntry c request _, ?_, others⟩
    rw [events, accessEvents, on, if_pos rfl]
    rfl
  case status =>
    rcases shape with ⟨_, _, sends⟩ | plain | plain
    · exact .inl sends.status
    · exact .inr (.inl (by rw [plain]; rfl))
    · exact .inr (.inr (by rw [plain]; rfl))
  case length =>
    intro success
    rcases shape with ⟨_, _, sends⟩ | plain | plain
    · refine ⟨_, sends.length, fun entry records => ?_⟩
      rw [records.bodyBytes]
      exact sends.length_read _ (by rw [sends.length]; exact List.mem_singleton_self _)
    · rw [plain] at success
      exact absurd success (by decide)
    · rw [plain] at success
      exact absurd success (by decide)

end StaticGzip
