import StaticGzip.Serve

/-! # How the lookup of a file ends

A lookup asks what is at a path, and perhaps what it contains. It can end in five ways, one rule
for each; everything that is said of a lookup follows from the rules.

* **`Serve.Lookup`** — the rules.
* **`Serve.lookup_iff`** — the rules allow exactly the serving that the lookup gives.
* **`serve_congr`** — only the answers to the questions that were asked matter. -/

namespace StaticGzip

/-- Whether two file systems **answer a question alike**. -/
def FileCall.SameAnswer (fs other : FileSystem) : FileCall → Prop
  | stat p => fs.stat p = other.stat p
  | read p => fs.read p = other.read p

namespace Serve

variable {fs other : FileSystem} {file : Path} {contentType : Option ContentType} {s : Serving}

/-- The **rules of a lookup**: what a file system answers about a path, and the serving that
follows from it. -/
inductive Lookup (fs : FileSystem) (file : Path) (contentType : Option ContentType) :
    Serving → Prop where
  /-- Nothing is there. -/
  | missing {e : IoError} (stat : fs.stat file = .error e) (kind : e.kind = .notFound) :
    Lookup fs file contentType ⟨.ok .notFound, [.stat file], [Serve.missing file]⟩
  /-- What is there cannot be told. -/
  | unknown {e : IoError} (stat : fs.stat file = .error e) (kind : e.kind ≠ .notFound) :
    Lookup fs file contentType ⟨.error (.stat file e), [.stat file], []⟩
  /-- Something else than a regular file is there. -/
  | irregular {m : FileMeta} (stat : fs.stat file = .ok m) (isFile : m.isFile = false) :
    Lookup fs file contentType ⟨.ok .notFound, [.stat file], [Serve.irregular file]⟩
  /-- A regular file is there, and it cannot be read. -/
  | unreadable {m : FileMeta} {e : IoError} (stat : fs.stat file = .ok m)
      (isFile : m.isFile = true) (read : fs.read file = .error e) :
    Lookup fs file contentType
      ⟨.error (.read file e), [.stat file, .read file], [reading file m.size]⟩
  /-- A regular file is there, and it is sent. -/
  | found {m : FileMeta} {content : ByteArray} (stat : fs.stat file = .ok m)
      (isFile : m.isFile = true) (read : fs.read file = .ok content) :
    Lookup fs file contentType
      ⟨.ok (.found (sent contentType content)), [.stat file, .read file], [reading file m.size]⟩

/-- Every lookup ends by one of the rules. -/
theorem lookup_file (fs : FileSystem) (file : Path) (contentType : Option ContentType) :
    Lookup fs file contentType (Serve.file fs file contentType) := by
  unfold Serve.file
  split
  · rename_i e stat
    by_cases kind : e.kind = .notFound
    · rw [if_pos kind]
      exact .missing stat kind
    · rw [if_neg kind]
      exact .unknown stat kind
  · rename_i m stat
    by_cases isFile : m.isFile = true
    · rw [if_pos isFile, regular]
      split
      · rename_i e read
        exact .unreadable stat isFile read
      · rename_i content read
        exact .found stat isFile read
    · rw [if_neg isFile]
      exact .irregular stat (by simpa using isFile)

/-- A rule leaves no choice of the serving. -/
theorem Lookup.eq_file (h : Lookup fs file contentType s) :
    s = Serve.file fs file contentType := by
  cases h with
  | missing stat kind => simp [Serve.file, stat, kind]
  | unknown stat kind => simp [Serve.file, stat, kind]
  | irregular stat isFile => simp [Serve.file, stat, isFile]
  | unreadable stat isFile read => simp [Serve.file, stat, isFile, regular, read]
  | found stat isFile read => simp [Serve.file, stat, isFile, regular, read]

/-- The rules allow exactly **the serving that the lookup gives**. -/
theorem lookup_iff : Lookup fs file contentType s ↔ s = Serve.file fs file contentType := by
  constructor
  · exact Lookup.eq_file
  · rintro rfl
    exact lookup_file fs file contentType

/-- The questions of a lookup: what is there, and then perhaps what it contains. -/
theorem Lookup.calls_eq (h : Lookup fs file contentType s) :
    s.calls = [.stat file] ∨ s.calls = [.stat file, .read file] := by
  cases h with
  | missing => exact .inl rfl
  | unknown => exact .inl rfl
  | irregular => exact .inl rfl
  | unreadable => exact .inr rfl
  | found => exact .inr rfl

/-- All questions of a lookup are about one path. -/
theorem Lookup.path_of_mem_calls (h : Lookup fs file contentType s) {call : FileCall}
    (hc : call ∈ s.calls) : call.path = file := by
  rcases h.calls_eq with calls | calls
  · rw [calls, List.mem_singleton] at hc
    rw [hc]
    rfl
  · rw [calls, List.mem_cons, List.mem_singleton] at hc
    rcases hc with rfl | rfl <;> rfl

/-- A rule applies under every file system that **answers the questions alike**. -/
theorem Lookup.congr (h : Lookup fs file contentType s)
    (same : ∀ call ∈ s.calls, call.SameAnswer fs other) : Lookup other file contentType s := by
  -- What is at the path is asked in every case, what it contains only where the rule says so.
  have sameStat : fs.stat file = other.stat file := by
    refine same (.stat file) ?_
    rcases h.calls_eq with calls | calls <;> rw [calls] <;> simp
  cases h with
  | missing stat kind => exact .missing (sameStat ▸ stat) kind
  | unknown stat kind => exact .unknown (sameStat ▸ stat) kind
  | irregular stat isFile => exact .irregular (sameStat ▸ stat) isFile
  | unreadable stat isFile read =>
    have sameRead : fs.read file = other.read file := same (.read file) (by simp)
    exact .unreadable (sameStat ▸ stat) isFile (sameRead ▸ read)
  | found stat isFile read =>
    have sameRead : fs.read file = other.read file := same (.read file) (by simp)
    exact .found (sameStat ▸ stat) isFile (sameRead ▸ read)

end Serve

/-- Serving a request without a route asks nothing. -/
theorem serve_of_no_route {fs : FileSystem} {root : Path} {path : Text} {headers : Http.Headers}
    (h : Route.ofRequest? path headers = none) :
    serve fs root path headers = ⟨.ok .notFound, [], [Serve.unroutable path]⟩ := by
  rw [serve, h]

/-- Serving a request with a route is a lookup within the root. -/
theorem serve_of_route {root : Path} {path : Text} {headers : Http.Headers} {route : Route}
    (h : Route.ofRequest? path headers = some route) (fs : FileSystem) :
    Serve.Lookup fs (root.joinWithin route.file) route.contentType
      (serve fs root path headers) := by
  rw [serve, h]
  exact Serve.lookup_file _ _ _

/-- Serving a request depends only on **the answers to the questions that it asks**. -/
theorem serve_congr {fs other : FileSystem} {root : Path} {path : Text} {headers : Http.Headers}
    (same : ∀ call ∈ (serve fs root path headers).calls, call.SameAnswer fs other) :
    serve fs root path headers = serve other root path headers := by
  cases h : Route.ofRequest? path headers with
  | none => rw [serve_of_no_route h, serve_of_no_route h]
  | some route =>
    have := ((serve_of_route h fs).congr same).eq_file
    rw [this, ← (serve_of_route h other).eq_file]

end StaticGzip
