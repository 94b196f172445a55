import StaticGzip.Handle
import StaticGzip.Proofs.AccessLog.PlainValues
import StaticGzip.Proofs.Http.AcceptedRequests
import StaticGzip.Proofs.Text.Numeral
import StaticGzip.Proofs.Text.Run

/-! # Fields between quotes

A line of the combined format has three fields between quotes: the request line, the referer and the
user agent. Nothing else in it has a quote, but a field with a quote in it is written as it is. So
the fields are told by the quotes of the line if no field has one, and only then.

* **`Entry.combinedParts`** — what stands before, between and after the quotes of a line.
* **`Entry.Unquoted`** — an entry without a quote in path, referer and user agent.
* **`line_combined_tells_fields`** — the line of an accepted request.
* **`quotes_shift_fields`** — two different requests with one line. -/

namespace StaticGzip

namespace AccessLog.Entry

variable (e : Entry)

/-! ## The parts of a line -/

/-- Status and size, as they stand between two fields. -/
def resultText : Text := ' ' :: Text.ofNat e.status ++ ' ' :: Text.ofNat e.bodyBytes ++ [' ']

/-- What stands before the first quote. -/
def originText : Text := e.client ++ " - - [".toList ++ e.time.logTime ++ "] ".toList

/-- What stands **before, between and after** the quotes of a combined line. -/
def combinedParts : List Text :=
  [e.originText, e.requestLine, e.resultText, orDash e.referer, [' '], orDash e.userAgent, []]

/-- A combined line is its parts with quotes between them. -/
theorem combined_eq_intercalate : e.combined = ['"'].intercalate e.combinedParts := by
  simp [combined, common, quoted, combinedParts, originText, resultText,
    List.intercalate_cons_cons]

/-- No quote stands **outside the fields**. -/
theorem not_mem_originText : '"' ∉ e.originText := by
  have client : '"' ∉ e.client := e.remote.ip.plain_text.not_mem (by decide)
  have time : '"' ∉ e.time.logTime := e.time.plain_logTime.not_mem (by decide)
  simp [originText, client, time]

theorem plain_resultText : e.resultText.Plain := by
  simp [resultText, Text.isPlainChar]

/-- The quotes of a combined line are **its own six** and those of its fields. -/
theorem count_quote_combined : e.combined.count '"'
    = 6 + e.requestLine.count '"' + (orDash e.referer).count '"'
      + (orDash e.userAgent).count '"' := by
  have origin : e.originText.count '"' = 0 := List.count_eq_zero.mpr e.not_mem_originText
  have result : e.resultText.count '"' = 0 :=
    List.count_eq_zero.mpr (e.plain_resultText.not_mem (by decide))
  rw [combined_eq_intercalate, combinedParts]
  simp [List.intercalate_cons_cons, origin, result]
  omega

/-! ## Entries without quotes -/

/-- An entry is **unquoted** if it has no quote in its path, its referer and its user agent. -/
structure Unquoted (e : Entry) : Prop where
  path : '"' ∉ e.path
  referer : ∀ t ∈ e.referer, '"' ∉ t
  userAgent : ∀ t ∈ e.userAgent, '"' ∉ t

theorem not_mem_orDash_iff {t : Option Text} : '"' ∉ orDash t ↔ ∀ t' ∈ t, '"' ∉ t' := by
  cases t with
  | none => simp [orDash]
  | some t => simp [orDash]

/-- The parts of a line with six quotes are **found again**. -/
theorem splitOn_combined (six : e.combined.count '"' = 6) :
    e.combined.splitOn '"' = e.combinedParts := by
  rw [count_quote_combined] at six
  have request : '"' ∉ e.requestLine := List.count_eq_zero.mp (by omega)
  have referer : '"' ∉ orDash e.referer := List.count_eq_zero.mp (by omega)
  have userAgent : '"' ∉ orDash e.userAgent := List.count_eq_zero.mp (by omega)
  have result : '"' ∉ e.resultText := e.plain_resultText.not_mem (by decide)
  have parts : ∀ part ∈ e.combinedParts, '"' ∉ part := by
    simp only [combinedParts, List.forall_mem_cons]
    exact ⟨e.not_mem_originText, request, result, referer, by decide, userAgent, by decide,
      List.forall_mem_nil _⟩
  rw [combined_eq_intercalate]
  exact List.splitOn_intercalate '"' parts (List.cons_ne_nil _ _)

/-- Status and size are told by **their text**. -/
theorem of_resultText_eq {a b : Entry} (same : a.resultText = b.resultText) :
    a.status = b.status ∧ a.bodyBytes = b.bodyBytes := by
  have injective : Function.Injective Text.ofNat :=
    Function.LeftInverse.injective Text.digitsValue_ofNat
  have blank (rest : Text) : Text.Ends Char.isDigit (' ' :: rest) := Text.ends_cons.mpr (by decide)
  simp only [resultText, List.cons_append, List.append_assoc, List.cons.injEq, true_and] at same
  -- The status goes as far as the first blank, and the size is what is left but for the last one.
  have status := congrArg (List.takeWhile Char.isDigit) same
  have size := congrArg (List.dropWhile Char.isDigit) same
  rw [Text.takeWhile_append (Text.isNumeral_ofNat _).2 (blank _),
    Text.takeWhile_append (Text.isNumeral_ofNat _).2 (blank _)] at status
  rw [Text.dropWhile_append (Text.isNumeral_ofNat _).2 (blank _),
    Text.dropWhile_append (Text.isNumeral_ofNat _).2 (blank _)] at size
  exact ⟨injective status, injective (List.append_cancel_right (List.cons.inj size).2)⟩

/-- Entries **say the same** of a request if they have the same fields, status and size. -/
structure SaysSame (a b : Entry) : Prop where
  requestLine : a.requestLine = b.requestLine
  status : a.status = b.status
  bodyBytes : a.bodyBytes = b.bodyBytes
  referer : orDash a.referer = orDash b.referer
  userAgent : orDash a.userAgent = orDash b.userAgent

/-- A line with six quotes is that of **no other fields**. -/
theorem saysSame_of_combined_eq {a b : Entry} (same : a.combined = b.combined)
    (six : b.combined.count '"' = 6) : a.SaysSame b := by
  have parts : a.combinedParts = b.combinedParts := by
    rw [← a.splitOn_combined (same ▸ six), ← b.splitOn_combined six, same]
  simp only [combinedParts, List.cons.injEq, true_and, and_true] at parts
  obtain ⟨-, requestLine, result, referer, userAgent⟩ := parts
  obtain ⟨status, bodyBytes⟩ := of_resultText_eq result
  exact ⟨requestLine, status, bodyBytes, referer, userAgent⟩

/-- The combined line of an entry **tells its fields** if none of them has a quote. -/
structure TellsFields (e : Entry) : Prop where
  /-- The line has six quotes, and those of the path, the referer and the user agent. -/
  quotes : (e.line .combined).count '"'
    = 6 + e.path.count '"' + (orDash e.referer).count '"' + (orDash e.userAgent).count '"'
  /-- There are no more than six exactly if none of these has a quote. -/
  six : (e.line .combined).count '"' = 6 ↔ e.Unquoted
  /-- Between the six quotes stand the request line, the referer and the user agent. -/
  parts : e.Unquoted → (e.line .combined).splitOn '"' = e.combinedParts
  /-- No entry that says anything else has the same line. -/
  unique : e.Unquoted → ∀ other : Entry, other.line .combined = e.line .combined →
    other.SaysSame e

end AccessLog.Entry

/-! ## Accepted requests -/

/-- The quotes of an accepted request's line are **those of its path**. -/
theorem count_quote_requestLine (c : Circumstances) {request : Http.Request}
    (h : request.Accepted) (response : Http.Response) :
    (accessEntry c request response).requestLine.count '"'
      = (accessEntry c request response).path.count '"' := by
  obtain ⟨_, method⟩ := h.method
  obtain ⟨_, target⟩ := h.target
  have other {p : Char → Bool} {t : Text} (all : ∀ c ∈ t, p c = true) (quote : p '"' = false) :
      t.count '"' = 0 :=
    List.count_eq_zero.mpr fun there => by simp [all _ there] at quote
  have inMethod : request.method.text.count '"' = 0 :=
    other (Http.Method.all_of_ofText? method) (by decide)
  have inQuery := fun query some => other ((Http.Target.spelled_of_ofText? target).query query some)
    (by decide)
  have inVersion : request.version.text.toList.count '"' = 0 := by
    cases request.version <;> decide
  have inTarget : request.target.text.count '"' = request.target.path.count '"' := by
    rw [Http.Target.text]
    split
    · rename_i query some
      simp [inQuery query some]
    · rfl
  have whole : (accessEntry c request response).requestLine
      = request.method.text ++ ' ' :: request.target.text ++ " HTTP/".toList
        ++ request.version.text.toList := rfl
  have path : (accessEntry c request response).path = request.target.path := rfl
  rw [whole, path]
  simp [inMethod, inTarget, inVersion]

/-- **The combined line tells its fields**, unless one of them has a quote: for every accepted
request, whoever asks, whatever is answered and however long it takes. -/
theorem line_combined_tells_fields (c : Circumstances) {request : Http.Request}
    (h : request.Accepted) (response : Http.Response) :
    (accessEntry c request response).TellsFields := by
  have quotes := (accessEntry c request response).count_quote_combined
  rw [count_quote_requestLine c h response] at quotes
  have six : (accessEntry c request response).combined.count '"' = 6
      ↔ (accessEntry c request response).Unquoted := by
    rw [quotes]
    constructor
    · intro none
      exact ⟨List.count_eq_zero.mp (by omega),
        AccessLog.Entry.not_mem_orDash_iff.mp (List.count_eq_zero.mp (by omega)),
        AccessLog.Entry.not_mem_orDash_iff.mp (List.count_eq_zero.mp (by omega))⟩
    · rintro ⟨path, referer, userAgent⟩
      have path := List.count_eq_zero.mpr path
      have referer := List.count_eq_zero.mpr (AccessLog.Entry.not_mem_orDash_iff.mpr referer)
      have userAgent := List.count_eq_zero.mpr (AccessLog.Entry.not_mem_orDash_iff.mpr userAgent)
      omega
  exact {
    quotes := quotes
    six := six
    parts := fun unquoted => AccessLog.Entry.splitOn_combined _ (six.mpr unquoted)
    unique := fun unquoted _ same =>
      AccessLog.Entry.saysSame_of_combined_eq same (six.mpr unquoted) }

/-- A **visit** of the root directory from somewhere. -/
def visit (referer userAgent : String) : Http.Request where
  method := .get
  target := ⟨['/'], none⟩
  version := .v11
  headers := [⟨"referer", referer.toList.map fun c => UInt8.ofNat c.toNat⟩,
    ⟨"user-agent", userAgent.toList.map fun c => UInt8.ofNat c.toNat⟩]

/-- Who visits, and when. -/
def visitor : Circumstances := ⟨.v4 #v[203, 0, 113, 1] 80, ⟨0, 0, 0⟩, .zero⟩

/-- The entry of a visit that was not found. -/
def visitEntry (referer userAgent : String) : AccessLog.Entry :=
  accessEntry visitor (visit referer userAgent) .notFound

/-- A visit is **accepted** if its two header values are. -/
theorem accepted_visit {referer userAgent : String}
    (values : ((visit referer userAgent).headers.all fun h => h.value.all Http.isValueByte) = true) :
    (visit referer userAgent).Accepted where
  method := ⟨"GET".toList, rfl⟩
  target := ⟨['/'], rfl⟩
  headers := by
    simp only [visit, List.all_cons, List.all_nil, Bool.and_true, Bool.and_eq_true] at values
    simp only [visit, List.forall_mem_cons]
    have name (s : String) (token : Http.headerName? s.toUTF8.data.toList = some s) {value : Bytes}
        (accepted : value.all Http.isValueByte = true) :
        Http.Header.ofBytes s.toUTF8.data.toList value = .ok ⟨s, value⟩ := by
      rw [Http.Header.ofBytes, token]
      exact if_pos accepted
    exact ⟨⟨_, _, name "referer" (by rfl) values.1⟩, ⟨_, _, name "user-agent" (by rfl) values.2⟩,
      List.forall_mem_nil _⟩

/-- A referer that reads like the end of a line is told as what it is. -/
theorem line_combined_tells_fields_escaped :
    (visit "- 200 0 -" "\\x22").Accepted ∧ (visitEntry "- 200 0 -" "\\x22").Unquoted ∧
      ((visitEntry "- 200 0 -" "\\x22").line .combined).splitOn '"'
        = ["203.0.113.1 - - [01/Jan/1970:00:00:00 +0000] ".toList, "GET / HTTP/1.1".toList,
          " 404 9 ".toList, "- 200 0 -".toList, [' '], "\\x22".toList, []] := by
  have accepted : (visit "- 200 0 -" "\\x22").Accepted := accepted_visit (by decide)
  have tells := line_combined_tells_fields visitor accepted .notFound
  have unquoted : (visitEntry "- 200 0 -" "\\x22").Unquoted := ⟨by decide, by decide, by decide⟩
  refine ⟨accepted, unquoted, (tells.parts unquoted).trans ?_⟩
  decide

/-- **Quotes shift the fields**: two accepted requests have different referers and user agents, and
one line. -/
theorem quotes_shift_fields :
    (visit "a\" \"b" "c").Accepted ∧ (visit "a" "b\" \"c").Accepted ∧
      (visitEntry "a\" \"b" "c").line .combined = (visitEntry "a" "b\" \"c").line .combined ∧
      (visitEntry "a\" \"b" "c").referer ≠ (visitEntry "a" "b\" \"c").referer ∧
      (visitEntry "a\" \"b" "c").userAgent ≠ (visitEntry "a" "b\" \"c").userAgent ∧
      ((visitEntry "a\" \"b" "c").line .combined).count '"' = 8 := by
  exact ⟨accepted_visit (by decide), accepted_visit (by decide), by decide, by decide, by decide,
    by decide⟩

end StaticGzip
