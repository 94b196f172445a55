import StaticGzip.Proofs.Gzip.Member
import StaticGzip.Proofs.Lookup

/-! # What serving a request does

Under every file system, the questions that a request asks and the result it leads to follow from
its route and from the answers. The conditions below exclude one another and leave nothing out, so
each of them is stated as an equivalence.

* **`ServedFile.Delivers`** — a compressed file that is read back as some content.
* **`Serve.Contract`** — the results of a lookup, each with the answers that lead to it.
* **`Serve.Lookup.contract`** — every lookup keeps the contract.
* **`serve_contract`** — a request asks nothing if it has no route, and else it is a lookup. -/

namespace StaticGzip

/-! ## Answers -/

namespace FileSystem

/-- **Nothing to be found** is at a path: it is missing, or something else than a regular file. -/
def Lacks (fs : FileSystem) (file : Path) : Prop :=
  (∃ e, fs.stat file = .error e ∧ e.kind = .notFound) ∨
    ∃ m, fs.stat file = .ok m ∧ m.isFile = false

/-- **A regular file** is at a path. -/
def HasFile (fs : FileSystem) (file : Path) : Prop := ∃ m, fs.stat file = .ok m ∧ m.isFile = true

end FileSystem

/-- A file **delivers** some content under a content type: its body is one member that is read back
as the content, whose size it states. -/
structure ServedFile.Delivers (f : ServedFile) (content : ByteArray)
    (contentType : Option ContentType) : Prop where
  body : Gzip.decompress? f.body = some content
  originalSize : f.originalSize = content.size
  contentType : f.contentType = contentType

/-- The file to be sent for some content **delivers it**. -/
theorem Serve.delivers_sent (contentType : Option ContentType) (content : ByteArray) :
    (sent contentType content).Delivers content contentType where
  body := Gzip.decompress?_compress content
  originalSize := rfl
  contentType := rfl

namespace Serve

/-! ## Results -/

/-- The **contract of a lookup**: the questions it asks, and each result with the answers that lead
to it. -/
structure Contract (fs : FileSystem) (file : Path) (contentType : Option ContentType)
    (s : Serving) : Prop where
  /-- A regular file is read after it was looked for, and nothing else is read. -/
  calls : (s.calls = [.stat file] ∧ ¬ fs.HasFile file) ∨
    (s.calls = [.stat file, .read file] ∧ fs.HasFile file)
  /-- What is missing or no regular file is not found, and it is not read. -/
  notFound : s.result = .ok .notFound ∧ s.calls = [.stat file] ↔ fs.Lacks file
  /-- Any other failure to look for the file is passed on, and nothing is read. -/
  unknown (e : IoError) : s.result = .error (.stat file e) ∧ s.calls = [.stat file] ↔
    fs.stat file = .error e ∧ e.kind ≠ .notFound
  /-- A failure to read a regular file is passed on, even if the file is missing by now. -/
  unreadable (e : IoError) : s.result = .error (.read file e) ∧ s.calls = [.stat file, .read file] ↔
    fs.HasFile file ∧ fs.read file = .error e
  /-- A regular file that can be read is found, and what was read is delivered. -/
  found (content : ByteArray) :
    (∃ f, s.result = .ok (.found f) ∧ f.Delivers content contentType) ∧
        s.calls = [.stat file, .read file] ↔
      fs.HasFile file ∧ fs.read file = .ok content

namespace Lookup

variable {fs : FileSystem} {file : Path} {contentType : Option ContentType} {s : Serving}

/-- A regular file is read, and nothing else is. -/
theorem calls_or (h : Lookup fs file contentType s) :
    (s.calls = [.stat file] ∧ ¬ fs.HasFile file) ∨
      (s.calls = [.stat file, .read file] ∧ fs.HasFile file) := by
  cases h with
  | missing stat => exact .inl ⟨rfl, by simp [FileSystem.HasFile, stat]⟩
  | unknown stat => exact .inl ⟨rfl, by simp [FileSystem.HasFile, stat]⟩
  | irregular stat isFile => exact .inl ⟨rfl, by simp [FileSystem.HasFile, stat, isFile]⟩
  | unreadable stat isFile => exact .inr ⟨rfl, _, stat, isFile⟩
  | found stat isFile => exact .inr ⟨rfl, _, stat, isFile⟩

/-- What is missing or no regular file is **not found**. -/
theorem notFound_iff (h : Lookup fs file contentType s) :
    s.result = .ok .notFound ∧ s.calls = [.stat file] ↔ fs.Lacks file := by
  unfold FileSystem.Lacks
  cases h with
  | missing stat kind => simp [stat, kind]
  | unknown stat kind => simp [stat, kind]
  | irregular stat isFile => simp [stat, isFile]
  | unreadable stat isFile read => simp [stat, isFile]
  | found stat isFile read => simp [stat, isFile]

/-- Any other **failure to look for the file** is passed on. -/
theorem unknown_iff (h : Lookup fs file contentType s) (e : IoError) :
    s.result = .error (.stat file e) ∧ s.calls = [.stat file] ↔
      fs.stat file = .error e ∧ e.kind ≠ .notFound := by
  cases h with
  | missing stat kind =>
    have excluded : ¬ (fs.stat file = .error e ∧ e.kind ≠ .notFound) := by
      rintro ⟨same, other⟩
      rw [stat] at same
      exact other (Except.error.inj same ▸ kind)
    simp [excluded]
  | @unknown e' stat kind =>
    constructor
    · rintro ⟨same, -⟩
      obtain rfl : e' = e := by simpa using same
      exact ⟨stat, kind⟩
    · rintro ⟨same, -⟩
      obtain rfl : e' = e := by simpa [stat] using same
      exact ⟨rfl, rfl⟩
  | irregular stat isFile => simp [stat]
  | unreadable stat isFile read => simp [stat]
  | found stat isFile read => simp [stat]

/-- A **failure to read** a regular file is passed on. -/
theorem unreadable_iff (h : Lookup fs file contentType s) (e : IoError) :
    s.result = .error (.read file e) ∧ s.calls = [.stat file, .read file] ↔
      fs.HasFile file ∧ fs.read file = .error e := by
  unfold FileSystem.HasFile
  cases h with
  | missing stat kind => simp [stat]
  | unknown stat kind => simp [stat]
  | irregular stat isFile => simp [stat, isFile]
  | unreadable stat isFile read => simp [stat, isFile, read]
  | found stat isFile read => simp [read]

/-- A regular file that can be read is **found**, and what was read is delivered. -/
theorem found_iff (h : Lookup fs file contentType s) (content : ByteArray) :
    (∃ f, s.result = .ok (.found f) ∧ f.Delivers content contentType) ∧
        s.calls = [.stat file, .read file] ↔
      fs.HasFile file ∧ fs.read file = .ok content := by
  unfold FileSystem.HasFile
  cases h with
  | missing stat kind => simp [stat]
  | unknown stat kind => simp [stat]
  | irregular stat isFile => simp [stat, isFile]
  | unreadable stat isFile read => simp [read]
  | @found m there stat isFile read =>
    constructor
    · rintro ⟨⟨f, same, delivers⟩, -⟩
      obtain rfl : sent contentType there = f := by simpa using same
      -- The body tells what was read, since it is read back as that.
      have back := (delivers_sent contentType there).body.symm.trans delivers.body
      exact ⟨⟨m, stat, isFile⟩, Option.some.inj back ▸ read⟩
    · rintro ⟨-, same⟩
      obtain rfl : there = content := by simpa [read] using same
      exact ⟨⟨_, rfl, delivers_sent contentType there⟩, rfl⟩

/-- **Every lookup** keeps the contract. -/
theorem contract (h : Lookup fs file contentType s) : Contract fs file contentType s where
  calls := h.calls_or
  notFound := h.notFound_iff
  unknown := h.unknown_iff
  unreadable := h.unreadable_iff
  found := h.found_iff

end Lookup

end Serve

/-! ## Requests -/

/-- A request has **no route** exactly if its path has no extension and it does not accept a
page. -/
theorem Route.ofRequest?_eq_none_iff {path : Text} {headers : Http.Headers} :
    Route.ofRequest? path headers = none ↔ extension path = [] ∧ acceptsHtml headers = false := by
  unfold Route.ofRequest?
  by_cases named : extension path = []
  · cases page : acceptsHtml headers <;> simp [named]
  · simp [named]

/-- **Serving a request.** Nothing is asked of the file system exactly if the path has no extension
and no page is accepted, and then nothing is found. Every other request has a route, and the lookup
of the route's file within the root keeps its contract. -/
theorem serve_contract (fs : FileSystem) (root : Path) (path : Text) (headers : Http.Headers) :
    ((serve fs root path headers).calls = [] ∧ (serve fs root path headers).result = .ok .notFound ↔
      extension path = [] ∧ acceptsHtml headers = false) ∧
    (extension path = [] ∧ acceptsHtml headers = false ∨
      ∃ route, Route.ofRequest? path headers = some route ∧
        Serve.Contract fs (root.joinWithin route.file) route.contentType
          (serve fs root path headers)) := by
  rw [← Route.ofRequest?_eq_none_iff]
  cases routed : Route.ofRequest? path headers with
  | none =>
    rw [serve_of_no_route routed]
    exact ⟨by simp, .inl rfl⟩
  | some route =>
    have lookup : Serve.Lookup fs (root.joinWithin route.file) route.contentType
        (serve fs root path headers) := serve_of_route routed fs
    have asked : (serve fs root path headers).calls ≠ [] := by
      rcases lookup.calls_eq with calls | calls <;> rw [calls] <;> simp
    exact ⟨by simp [asked], .inr ⟨route, rfl, lookup.contract⟩⟩

end StaticGzip
