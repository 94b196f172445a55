import StaticGzip.Handle
import StaticGzip.Proofs.AccessLog.JsonLine
import StaticGzip.Proofs.AccessLog.Pattern
import StaticGzip.Proofs.AccessLog.PlainValues
import StaticGzip.Proofs.Http.AcceptedRequests

/-! # One line for one request

No value that comes from an accepted request has a control character that breaks lines, nor has any
that comes from the server. So a line of the access log has those of its pattern and no others.

* **`Entry.Unbroken`** — an entry none of whose texts breaks a line.
* **`accessEntry_unbroken`** — the entry of an accepted request is one.
* **`Pattern.literals`** — the literal text of a pattern.
* **`controlBytes_line_accessEntry`** — the control bytes of the line of an accepted request. -/

namespace StaticGzip

open Text (NoControls controls controlBytes)

/-! ## Accepted requests -/

namespace Http

/-- A token has no control characters. -/
theorem noControls_of_isTokenChar {t : Text} (h : ∀ c ∈ t, isTokenChar c = true) :
    NoControls t := by
  intro c there
  have marks : NoControls "!#$%&'*+-.^_`|~".toList := by decide
  have token := h c there
  rw [isTokenChar, Bool.or_eq_true, List.contains_iff_mem] at token
  rcases token with letter | mark
  · exact Text.le_toNat_of_isAlphanum letter
  · exact marks c mark

theorem Target.Spelled.noControls_path {target : Target} (h : target.Spelled) :
    NoControls target.path := by
  intro c there
  have spelled := h.path c there
  simp only [isPathChar, Bool.or_eq_true, Bool.and_eq_true, decide_eq_true_eq, beq_iff_eq]
    at spelled
  omega

theorem Target.Spelled.noControls_query {target : Target} (h : target.Spelled) :
    ∀ query ∈ target.query, NoControls query := by
  intro query some c there
  have spelled := h.query query some c there
  simp only [isQueryChar, Bool.or_eq_true, Bool.and_eq_true, decide_eq_true_eq, beq_iff_eq]
    at spelled
  omega

/-- A header value that can be read breaks no line: of control characters it has **only tabs**. -/
theorem controls_of_readable? {value : Bytes} {t : Text} (h : readable? value = some t) :
    controls t = [] := by
  unfold readable? at h
  split at h
  · rename_i readable
    cases h
    rw [List.all_eq_true] at readable
    have bytes (b : UInt8) (h : isReadableByte b = true) :
        Text.isControl (Char.ofNat b.toNat) = false := by
      rw [isReadableByte, Bool.or_eq_true, Bool.and_eq_true, decide_eq_true_eq, beq_iff_eq,
        UInt8.le_iff_toNat_le] at h
      rcases h with rfl | ⟨noControl, -⟩
      · decide
      · have valid : b.toNat.isValidChar := Or.inl (Nat.lt_trans b.toNat_lt (by decide))
        have code : (Char.ofNat b.toNat).toNat = b.toNat := by
          rw [Char.ofNat, dif_pos valid]
          rfl
        have notBelow : ¬ b.toNat < 32 := Nat.not_lt.mpr noControl
        rw [Text.isControl, code, decide_eq_false notBelow, Bool.false_and]
    rw [Text.controls, List.filter_eq_nil_iff, List.forall_mem_map]
    intro b there
    rw [bytes b (readable b there)]
    exact Bool.false_ne_true
  · simp at h

theorem controls_of_firstText? {headers : Headers} {name : String} :
    ∀ t ∈ headers.firstText? name, controls t = [] := by
  intro t some
  obtain ⟨value, -, read⟩ := Option.bind_eq_some_iff.mp some
  exact controls_of_readable? read

end Http

namespace AccessLog

/-! ## Entries -/

/-- An entry is **unbroken** if no text in it has a control character that breaks lines. -/
structure Entry.Unbroken (e : Entry) : Prop where
  method : controls e.method = []
  path : controls e.path = []
  query : ∀ query ∈ e.query, controls query = []
  referer : ∀ referer ∈ e.referer, controls referer = []
  userAgent : ∀ userAgent ∈ e.userAgent, controls userAgent = []

namespace Entry.Unbroken

variable {e : Entry} (h : e.Unbroken)

include h

theorem requestUri : controls e.requestUri = [] := by
  unfold Entry.requestUri Http.Target.text
  cases query : e.query with
  | none => exact h.path
  | some query' =>
    have more := h.query query' query
    simp [h.path, more, Text.controls_cons_of_le]

theorem requestLine : controls e.requestLine = [] := by
  have version : controls e.version.text.toList = [] := by cases e.version <;> decide
  rw [Entry.requestLine, List.append_assoc, List.append_assoc]
  simp [h.method, h.requestUri, version, Text.controls_cons_of_le]

/-- **No value** that a pattern may name has a control character that breaks lines. -/
theorem patternValues : ∀ value ∈ e.patternValues, controls value.2 = [] := by
  have orDash {t : Option Text} (some : ∀ t' ∈ t, controls t' = []) :
      controls (Entry.orDash t) = [] := by
    cases t with
    | none => decide
    | some t => exact some t rfl
  have plain {t : Text} (h : t.Plain) : controls t = [] := h.noControls.controls_eq
  simp only [Entry.patternValues, List.forall_mem_cons]
  exact ⟨plain e.remote.ip.plain_text, plain e.time.plain_logTime, plain e.time.plain_isoTime,
    h.requestLine, h.method, h.requestUri, plain (Decimal.plain_fixed 3 _),
    plain (Text.plain_ofNat _), plain (Text.plain_ofNat _), orDash h.referer, orDash h.userAgent,
    List.forall_mem_nil _⟩

end Entry.Unbroken

/-! ## Lines -/

theorem noControls_of_isNameChar {t : Text} (h : ∀ c ∈ t, Entry.isNameChar c = true) :
    NoControls t := by
  intro c there
  have named := h c there
  rw [Entry.isNameChar, Bool.or_eq_true, beq_iff_eq] at named
  rcases named with letter | rfl
  · exact Text.le_toNat_of_isAlphanum letter
  · decide

/-- What a piece of a pattern has **of its own**. -/
def Piece.literalText : Piece → Text
  | literal t => t
  | placeholder _ => []

/-- The **literal text** of a pattern: what stands outside its placeholders. -/
def Pattern.literals (pattern : Text) : Text := (Pattern.pieces pattern).flatMap Piece.literalText

namespace Entry.Unbroken

variable {e : Entry} (h : e.Unbroken)

include h

/-- What stands for a piece of a pattern breaks no line, unless **the piece itself** does. -/
theorem controls_shown {piece : Piece} {pieces : List Piece}
    (split : Pattern.IsSplit (piece :: pieces)) :
    controls (piece.shown e) = controls piece.literalText := by
  cases piece with
  | literal t => rfl
  | placeholder name =>
    rw [Piece.shown, Piece.literalText]
    cases found : e.valueOf? name with
    | none =>
      have named : NoControls name := noControls_of_isNameChar split.1
      exact (Text.noControls_cons.mpr ⟨by decide, named⟩).controls_eq
    | some value =>
      obtain ⟨before, after, values, -⟩ := List.lookup_eq_some_iff.mp found
      exact h.patternValues (String.ofList name, value) (by simp [values])

/-- The control characters of a line are those of the **literal text** of its pieces. -/
theorem controls_flatMap_shown {pieces : List Piece} (split : Pattern.IsSplit pieces) :
    controls (pieces.flatMap (Piece.shown e)) = controls (pieces.flatMap Piece.literalText) := by
  induction pieces with
  | nil => rfl
  | cons piece pieces ih =>
    have others : Pattern.IsSplit pieces := by
      cases piece with
      | literal t => exact split.2
      | placeholder name => exact split.2.2
    rw [List.flatMap_cons, List.flatMap_cons, Text.controls_append, Text.controls_append,
      h.controls_shown split, ih others]

theorem controls_common : controls e.common = [] := by
  rw [← e.flatMap_shown_commonPieces, h.controls_flatMap_shown (by decide)]
  decide

theorem controls_combined : controls e.combined = [] := by
  rw [combined, List.append_assoc, ← e.flatMap_shown_commonPieces, ← e.flatMap_shown_headerPieces,
    ← List.flatMap_append, h.controls_flatMap_shown (by decide)]
  decide

theorem controls_custom (pattern : Text) :
    controls (e.custom pattern) = controls (Pattern.literals pattern) := by
  rw [e.custom_eq_flatMap_pieces, h.controls_flatMap_shown (Pattern.isSplit_pieces pattern)]
  rfl

end Entry.Unbroken

end AccessLog

/-- The entry of an accepted request is **unbroken**. -/
theorem accessEntry_unbroken (c : Circumstances) {request : Http.Request}
    (h : request.Accepted) (response : Http.Response) :
    (accessEntry c request response).Unbroken := by
  obtain ⟨_, method⟩ := h.method
  obtain ⟨_, target⟩ := h.target
  have spelled := Http.Target.spelled_of_ofText? target
  exact {
    method := (Http.noControls_of_isTokenChar (Http.Method.all_of_ofText? method)).controls_eq
    path := spelled.noControls_path.controls_eq
    query := fun query some => (spelled.noControls_query query some).controls_eq
    referer := Http.controls_of_firstText?
    userAgent := Http.controls_of_firstText? }

/-- **No request breaks a line** of the access log: whoever asks, whatever is answered and however
long it takes, the line of an accepted request has no control bytes but tabs in the fixed formats,
and those of the pattern's literal text, in order, in any other format. -/
theorem controlBytes_line_accessEntry (c : Circumstances) {request : Http.Request}
    (h : request.Accepted) (response : Http.Response) :
    controlBytes ((accessEntry c request response).line .common) = [] ∧
      controlBytes ((accessEntry c request response).line .combined) = [] ∧
      controlBytes ((accessEntry c request response).line .json) = [] ∧
      ∀ pattern, controlBytes ((accessEntry c request response).line (.custom pattern))
        = controlBytes (AccessLog.Pattern.literals pattern) := by
  have unbroken := accessEntry_unbroken c h response
  exact ⟨Text.controlBytes_eq_nil unbroken.controls_common,
    Text.controlBytes_eq_nil unbroken.controls_combined,
    Text.controlBytes_eq_nil (AccessLog.Entry.noControls_json _).controls_eq,
    fun pattern => Text.controlBytes_congr (unbroken.controls_custom pattern)⟩

/-- A visit from a page: its address has a **tab** in it. -/
def tabbedVisit : Http.Request where
  method := .get
  target := ⟨"/a\"b".toList, some "c?d".toList⟩
  version := .v11
  headers := [⟨"referer", [104, 9, 105]⟩, ⟨"user-agent", [255]⟩]

/-- The tab of the visit stays in its line, and only the line feed of the pattern breaks it. -/
theorem controlBytes_line_tabbedVisit :
    tabbedVisit.Accepted ∧
      controlBytes ((accessEntry ⟨.v4 #v[127, 0, 0, 1] 80, ⟨0, 0, 0⟩, .zero⟩ tabbedVisit
        .notFound).line (.custom "$http_referer$status\n".toList)) = [10] := by
  have accepted : tabbedVisit.Accepted := {
    method := ⟨"GET".toList, rfl⟩
    target := ⟨"/a\"b?c?d#e".toList, rfl⟩
    headers := by
      simp only [tabbedVisit, List.forall_mem_cons]
      exact ⟨⟨"Referer".toUTF8.data.toList, [104, 9, 105], rfl⟩,
        ⟨"User-Agent".toUTF8.data.toList, [255], rfl⟩, List.forall_mem_nil _⟩ }
  have own : AccessLog.Pattern.literals "$http_referer$status\n".toList = ['\n'] := by
    simp [AccessLog.Pattern.literals, AccessLog.Pattern.pieces, AccessLog.Piece.literalText,
      AccessLog.Entry.isNameChar]
  have line := (controlBytes_line_accessEntry ⟨.v4 #v[127, 0, 0, 1] 80, ⟨0, 0, 0⟩, .zero⟩ accepted
    .notFound).2.2.2 "$http_referer$status\n".toList
  rw [own] at line
  exact ⟨accepted, line⟩

end StaticGzip
