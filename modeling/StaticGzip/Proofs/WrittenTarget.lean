import StaticGzip.Proofs.AccessLog.ControlCharacters

/-! # Targets as they are written

A target that begins with a slash is written as a path, a query after the first question mark, and
a fragment after the first number sign. The fragment is dropped. Of the rest nothing is decoded,
made shorter or lost: the path is what is served, and the access log shows the target as it was
written.

* **`Http.Target.eq_of_ofText?`** — the path and the query of a target that begins with a slash.
* **`AccessLog.Entry.ShowsTarget`** — what an entry shows of a written target.
* **`handle_keepsTarget`** — every answer keeps the target of its request. -/

namespace StaticGzip

/-! ## Paths and queries -/

namespace Http.Target

open Text (before after?)

variable {t : Text} {target : Target}

/-- A path and a query that have been cut apart are **joined again**. -/
theorem text_before_after (t : Text) : text ⟨before '?' t, after? '?' t⟩ = t := by
  rcases Text.eq_before_or '?' t with absent | ⟨query, split⟩
  · obtain ⟨whole, none⟩ := Text.before_of_not_mem absent
    rw [none, text_none, whole]
  · obtain ⟨path, some⟩ := Text.before_append (Text.not_mem_before '?' t) query
    rw [← split] at some
    rw [some, text_some, ← split]

/-- The query of the text before a fragment is what the reader takes of the rest of the path. -/
theorem dropWhile_before (t : Text) :
    (before '#' t).dropWhile (· != '?')
      = before '#' (t.dropWhile fun c => c != '?' && c != '#') := by
  induction t with
  | nil => rfl
  | cons c t ih =>
    by_cases sign : c = '#'
    · subst sign
      simp [before]
    · by_cases question : c = '?'
      · subst question
        simp [before]
      · simpa [before, sign, question] using ih

/-- **A path with its query** is cut at the first number sign and then at the first question
mark. -/
theorem eq_of_ofPathAndQuery? (slash : t.head? = some '/') (h : ofPathAndQuery? t = .ok target) :
    target = ⟨before '?' (before '#' t), after? '?' (before '#' t)⟩ := by
  have path : t.takeWhile (fun c => c != '?' && c != '#') = before '?' (before '#' t) := by
    rw [before, before, List.takeWhile_takeWhile]
    congr 1
    funext c
    rw [Bool.decide_and, Bool.decide_eq_true, Bool.decide_eq_true]
  have query := dropWhile_before t
  have last := Text.ends_dropWhile (fun c => c != '?' && c != '#') t
  have some : (before '?' (before '#' t)).isEmpty = false := by
    obtain ⟨more, rfl⟩ : ∃ more, t = '/' :: more := by
      cases t with
      | nil => simp at slash
      | cons c more => exact ⟨more, by rw [Option.some.inj slash]⟩
    simp [before]
  rw [ofPathAndQuery?, path] at h
  rw [after?, query]
  generalize t.dropWhile (fun c => c != '?' && c != '#') = rest at h last
  dsimp only at h
  rw [some] at h
  split at h
  · simp at h
  · split at h
    · split at h
      · cases h
        simp [before]
      · simp at h
    -- Where no query follows, there is nothing more or a fragment.
    · rename_i noQuery
      cases h
      cases rest with
      | nil => rfl
      | cons c rest =>
        have stops := last c rfl
        have sign : c = '#' := by
          by_contra other
          have question : c = '?' := by simpa [other] using stops
          exact noQuery rest (by rw [question])
        simp [before, sign]

/-- The path and the query of a target that **begins with a slash**. -/
theorem eq_of_ofText? (slash : t.head? = some '/') (h : ofText? t = .ok target) :
    target = ⟨before '?' (before '#' t), after? '?' (before '#' t)⟩ := by
  unfold ofText? at h
  split at h
  · simp at h
  · split at h
    · simp at slash
    · simp at slash
    · exact eq_of_ofPathAndQuery? slash h
    · rename_i other
      cases t with
      | nil => simp at slash
      | cons c more => exact absurd (by rw [Option.some.inj slash]) (other more)

end Http.Target

/-- An accepted target has **no blanks**. -/
theorem Http.Target.Spelled.not_mem_text {target : Http.Target} (h : target.Spelled) :
    ' ' ∉ target.text := by
  have inPath : ' ' ∉ target.path := by
    intro there
    exact absurd (h.path _ there) (by decide)
  rw [Http.Target.text]
  split
  · rename_i query some
    intro there
    rcases List.mem_append.mp there with there | there
    · exact inPath there
    · rcases List.mem_cons.mp there with mark | there
      · exact absurd mark (by decide)
      · exact absurd (h.query query some _ there) (by decide)
  · exact inPath

/-! ## Entries -/

namespace AccessLog.Entry

/-- An entry **shows a written target** with its path and its query. -/
structure ShowsTarget (e : Entry) (request : Http.Request) (written path : Text)
    (query : Option Text) : Prop where
  path : e.path = path
  query : e.query = query
  /-- What is shown is the target as it was written. -/
  requestUri : e.requestUri = written
  uriLine : e.line (.custom "$request_uri".toList) = written
  /-- The first line of the request has the target between its method and its version. -/
  requestLine : e.line (.custom "$request".toList)
    = request.method.text ++ [' '] ++ written ++ " HTTP/".toList ++ request.version.text.toList
  /-- There it stands between the only two blanks. -/
  words : (∃ t, Http.Method.ofText? t = some request.method) →
    (e.line (.custom "$request".toList)).splitOn ' '
      = [request.method.text, written, "HTTP/".toList ++ request.version.text.toList]

/-- Method, target and version are **told by the blanks** of the first line of a request. -/
theorem splitOn_requestLine {request : Http.Request} {written : Text} {t : Text}
    (method : Http.Method.ofText? t = some request.method) (target : ' ' ∉ written) :
    (request.method.text ++ [' '] ++ written ++ " HTTP/".toList
        ++ request.version.text.toList).splitOn ' '
      = [request.method.text, written, "HTTP/".toList ++ request.version.text.toList] := by
  have noBlank : ∀ word ∈ [request.method.text, written,
      "HTTP/".toList ++ request.version.text.toList], ' ' ∉ word := by
    simp only [List.forall_mem_cons]
    refine ⟨fun there => ?_, target, by cases request.version <;> decide, List.forall_mem_nil _⟩
    exact absurd (Http.Method.all_of_ofText? method _ there) (by decide)
  rw [← List.splitOn_intercalate ' ' noBlank (List.cons_ne_nil _ _)]
  simp [List.intercalate_cons_cons]

end AccessLog.Entry

/-- The entry of a request shows the target **as it was written**, whatever the answer is. -/
theorem accessEntry_showsTarget {t : Text} {request : Http.Request} (slash : t.head? = some '/')
    (h : Http.Target.ofText? t = .ok request.target) (c : Circumstances)
    (response : Http.Response) :
    (accessEntry c request response).ShowsTarget request (Text.before '#' t)
      (Text.before '?' (Text.before '#' t)) (Text.after? '?' (Text.before '#' t)) := by
  have cut := Http.Target.eq_of_ofText? slash h
  have joined : request.target.text = Text.before '#' t := by
    rw [cut, Http.Target.text_before_after]
  have noBlank : ' ' ∉ Text.before '#' t :=
    joined ▸ (Http.Target.spelled_of_ofText? h).not_mem_text
  have uri : (accessEntry c request response).requestUri = Text.before '#' t := joined
  have line : (accessEntry c request response).line (.custom "$request".toList)
      = request.method.text ++ [' '] ++ Text.before '#' t ++ " HTTP/".toList
        ++ request.version.text.toList := by
    rw [show "$request".toList = '$' :: "request".toList from rfl,
      AccessLog.Entry.line_placeholder _ (by decide)]
    show (accessEntry c request response).requestLine = _
    rw [AccessLog.Entry.requestLine, uri, List.append_assoc request.method.text]
    rfl
  exact {
    path := congrArg Http.Target.path cut
    query := congrArg Http.Target.query cut
    requestUri := uri
    uriLine := by
      rw [show "$request_uri".toList = '$' :: "request_uri".toList from rfl,
        AccessLog.Entry.line_placeholder _ (by decide)]
      exact uri
    requestLine := line
    words := by
      rintro ⟨m, method⟩
      rw [line, AccessLog.Entry.splitOn_requestLine method noBlank] }

/-- The answer to a request **keeps a written target**: its path is what is served, and the entry
shows it, whatever the answer is. -/
structure KeepsTarget (fs : FileSystem) (settings : Settings) (c : Circumstances)
    (request : Http.Request) (written path : Text) (query : Option Text) : Prop where
  response : (handle fs settings c request).response = (Handle.respond request.method path
    (serve fs settings.root path request.headers).result).1
  events : (serve fs settings.root path request.headers).events
    <+: (handle fs settings c request).events
  entry : ∀ response, (accessEntry c request response).ShowsTarget request written path query

/-- **The target is kept as it was written** if it begins with a slash: its fragment is dropped, its
path is what comes before the first question mark and is what is served, its query is what comes
after it, and the log shows them joined as they were. -/
theorem handle_keepsTarget {t : Text} {request : Http.Request} (slash : t.head? = some '/')
    (h : Http.Target.ofText? t = .ok request.target) (fs : FileSystem) (settings : Settings)
    (c : Circumstances) :
    KeepsTarget fs settings c request (Text.before '#' t) (Text.before '?' (Text.before '#' t))
      (Text.after? '?' (Text.before '#' t)) := by
  have path : request.target.path = Text.before '?' (Text.before '#' t) :=
    congrArg Http.Target.path (Http.Target.eq_of_ofText? slash h)
  refine ⟨?_, ?_, accessEntry_showsTarget slash h c⟩
  · rw [← path]
    rfl
  · rw [← path, handle, Handle.answer, List.append_assoc]
    exact List.prefix_append _ _

/-- A target with several slashes, question marks and number signs is kept up to the first of the
last. -/
theorem handle_keepsTarget_thicket :
    let written := "//a/../b.css??x=%2E?#c?d#e".toList
    let request : Http.Request :=
      ⟨⟨"PURGE".toList⟩, ⟨"//a/../b.css".toList, some "?x=%2E?".toList⟩, .v10, []⟩
    let missing : FileSystem := ⟨fun _ => .error (.system 2), fun _ => .error (.system 5)⟩
    let settings : Settings :=
      ⟨⟨"0.0.0.0", 80, none⟩, "/srv/www", ⟨"info", true, "$request"⟩, ⟨75, 30, 30, none⟩⟩
    written.head? = some '/' ∧ Http.Target.ofText? written = .ok request.target ∧
      KeepsTarget missing settings ⟨.v4 #v[192, 0, 2, 7] 40000, ⟨0, 0, 0⟩, .zero⟩ request
        "//a/../b.css??x=%2E?".toList "//a/../b.css".toList (some "?x=%2E?".toList) := by
  intro written request missing settings
  have slash : written.head? = some '/' := by decide
  have accepted : Http.Target.ofText? written = .ok request.target := by rfl
  exact ⟨slash, accepted, handle_keepsTarget slash accepted missing settings _⟩

end StaticGzip
