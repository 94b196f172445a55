import Mathlib.Data.List.Basic
import StaticGzip.Proofs.AccessLog.Pattern

/-! # The expansion of patterns

A pattern falls apart into pieces in one way only, if no literal text is cut in two. So its line is
known from its pieces: values stand where known names stood, and all else is kept. Patterns put one
after the other are expanded one after the other, unless a name of the first one goes on in the
second.

* **`Pattern.existsUnique_pieces`** — every pattern falls apart into whole pieces, in one way.
* **`Pattern.EndsInName`** — a pattern that ends within a placeholder.
* **`Entry.custom_append`** — the line of two patterns, one after the other.
* **`Entry.line_custom_expands`** — all of this of every entry and every pattern. -/

namespace StaticGzip.AccessLog

namespace Pattern

/-! ## One way to fall apart -/

/-- Pieces are **whole** if no literal text is empty and none follows upon another. -/
def IsWhole : List Piece → Prop
  | [] => True
  | .literal t :: pieces => t ≠ [] ∧ (∀ t', pieces.head? ≠ some (.literal t')) ∧ IsWhole pieces
  | .placeholder _ :: pieces => IsWhole pieces

/-- Where a dollar sign or nothing comes next, the next piece is no literal text. -/
theorem head?_pieces_ne {rest : Text} (ends : Text.Ends (· != '$') rest) (t : Text) :
    (pieces rest).head? ≠ some (.literal t) := by
  cases rest with
  | nil => simp [pieces]
  | cons c rest =>
    obtain rfl : c = '$' := by simpa using ends
    simp [pieces]

/-- A pattern falls apart into **whole pieces**. -/
theorem isWhole_pieces (pattern : Text) : IsWhole (pieces pattern) := by
  fun_induction pieces pattern with
  | case1 => trivial
  | case2 rest ih => exact ih
  | case3 c rest _ ih =>
    exact ⟨List.cons_ne_nil _ _, head?_pieces_ne (Text.ends_dropWhile _ rest), ih⟩

/-- What follows a literal text of whole pieces begins with a dollar sign. -/
theorem ends_ofPieces {pieces : List Piece} (next : ∀ t, pieces.head? ≠ some (.literal t)) :
    Text.Ends (· != '$') (ofPieces pieces) := by
  cases pieces with
  | nil => exact Text.ends_nil
  | cons piece pieces =>
    cases piece with
    | literal t => exact absurd rfl (next t)
    | placeholder name => exact Text.ends_cons.mpr (by decide)

/-- Whole pieces are **found again** in the pattern that they make up. -/
theorem pieces_ofPieces {row : List Piece} (split : IsSplit row) (whole : IsWhole row) :
    pieces (ofPieces row) = row := by
  induction row with
  | nil => simp [pieces]
  | cons piece row ih =>
    cases piece with
    | literal t =>
      obtain ⟨noDollar, others⟩ := split
      obtain ⟨some, next, whole⟩ := whole
      obtain ⟨c, t, rfl⟩ := List.exists_cons_of_ne_nil some
      obtain ⟨first, later⟩ := not_or.mp (mt List.mem_cons.mpr noDollar)
      have run : ∀ d ∈ t, (d != '$') = true := fun d hd =>
        bne_iff_ne.mpr fun dollar => later (dollar ▸ hd)
      rw [ofPieces_literal, List.cons_append, pieces.eq_3 c _ (Ne.symm first),
        Text.takeWhile_append run (ends_ofPieces next),
        Text.dropWhile_append run (ends_ofPieces next), ih others whole]
    | placeholder name =>
      obtain ⟨named, ends, others⟩ := split
      rw [ofPieces_placeholder, pieces, Text.takeWhile_append named ends,
        Text.dropWhile_append named ends, ih others whole]

/-- Every pattern falls apart into whole pieces, **in one way**. -/
theorem existsUnique_pieces (pattern : Text) :
    ∃! row, IsSplit row ∧ IsWhole row ∧ ofPieces row = pattern := by
  refine ⟨pieces pattern, ⟨isSplit_pieces pattern, isWhole_pieces pattern,
    ofPieces_pieces pattern⟩, ?_⟩
  rintro row ⟨split, whole, rfl⟩
  exact (pieces_ofPieces split whole).symm

/-! ## Names -/

/-- The **names** of the variables. -/
def names : List String := ["remote_addr", "time_local", "time_iso8601", "request",
  "request_method", "request_uri", "request_time", "status", "body_bytes_sent", "http_referer",
  "http_user_agent"]

/-- A name is **known** if it is that of a variable. -/
def IsKnown (name : Text) : Prop := String.ofList name ∈ names

/-- A pattern **ends in a name** if it ends in a dollar sign and characters of a name, or none. -/
def EndsInName (pattern : Text) : Prop :=
  ∃ before name, pattern = before ++ '$' :: name ∧ ∀ c ∈ name, Entry.isNameChar c = true

theorem EndsInName.append {pattern : Text} (h : EndsInName pattern) (front : Text) :
    EndsInName (front ++ pattern) := by
  obtain ⟨before, name, rfl, named⟩ := h
  exact ⟨front ++ before, name, (List.append_assoc ..).symm, named⟩

end Pattern

namespace Entry

variable (e : Entry)

/-- The variables of every entry have **the same names**. -/
theorem map_fst_patternValues : e.patternValues.map Prod.fst = Pattern.names := rfl

/-- A name has a value in an entry if it is **known**. -/
theorem isSome_valueOf?_iff {name : Text} :
    (e.valueOf? name).isSome = true ↔ Pattern.IsKnown name := by
  rw [valueOf?, Option.isSome_iff_ne_none, ne_eq, List.lookup_eq_none_iff, Pattern.IsKnown,
    ← e.map_fst_patternValues]
  simp

/-! ## Patterns one after the other -/

/-- Two patterns are expanded **one after the other**, unless a name of the first one goes on in the
second. -/
theorem custom_append {p q : Text}
    (apart : Pattern.EndsInName p → Text.Ends isNameChar q) :
    e.custom (p ++ q) = e.custom p ++ e.custom q := by
  induction p using custom.induct with
  | case1 => rw [List.nil_append, custom, List.nil_append]
  | case2 rest ih =>
    have named : ∀ c ∈ rest.takeWhile isNameChar, isNameChar c = true := fun c hc =>
      List.mem_takeWhile_imp hc
    have stops := Text.ends_dropWhile isNameChar rest
    -- The name stops at what is left of the first pattern, or else where the second one begins.
    have stops' : Text.Ends isNameChar (rest.dropWhile isNameChar ++ q) := by
      cases left : rest.dropWhile isNameChar with
      | nil => exact apart ⟨[], rest, rfl, List.dropWhile_eq_nil_iff.mp left⟩
      | cons c left' =>
        rw [left] at stops
        exact Text.ends_cons.mpr (Text.ends_cons.mp stops)
    have split : rest.takeWhile isNameChar ++ rest.dropWhile isNameChar = rest :=
      List.takeWhile_append_dropWhile
    have later : Pattern.EndsInName (rest.dropWhile isNameChar) → Text.Ends isNameChar q := by
      intro ends
      have whole := ends.append ('$' :: rest.takeWhile isNameChar)
      rw [List.cons_append, split] at whole
      exact apart whole
    have first := e.custom_placeholder_append named stops
    have both := e.custom_placeholder_append named stops'
    rw [split] at first
    rw [← List.append_assoc, split] at both
    rw [List.cons_append, both, first, ih later, List.append_assoc]
  | case3 c rest other ih =>
    rw [List.cons_append, custom.eq_3 e c _ other, custom.eq_3 e c _ other, List.cons_append,
      ih fun ends => apart (ends.append [c])]

/-! ## The whole expansion -/

/-- A pattern **without known names** is kept as it is. -/
theorem custom_of_not_isKnown {pattern : Text}
    (unknown : ∀ name, .placeholder name ∈ Pattern.pieces pattern → ¬ Pattern.IsKnown name) :
    e.custom pattern = pattern := by
  have kept : ∀ piece ∈ Pattern.pieces pattern, piece.shown e = piece.text := by
    intro piece there
    cases piece with
    | literal t => rfl
    | placeholder name =>
      have none : e.valueOf? name = none := by
        rw [← Option.not_isSome_iff_eq_none, isSome_valueOf?_iff]
        exact unknown name there
      rw [Piece.shown, none]
      rfl
  calc e.custom pattern = (Pattern.pieces pattern).flatMap (Piece.shown e) :=
        e.custom_eq_flatMap_pieces pattern
    _ = (Pattern.pieces pattern).flatMap Piece.text := List.flatMap_congr kept
    _ = pattern := Pattern.ofPieces_pieces pattern

/-- A pattern is **expanded** in an entry, piece by piece and from left to right. -/
structure Expands (e : Entry) (pattern : Text) : Prop where
  /-- The pattern falls apart into whole pieces in one way. -/
  tokens : ∃! row, Pattern.IsSplit row ∧ Pattern.IsWhole row ∧ Pattern.ofPieces row = pattern
  /-- The line is made of what stands for the pieces, in order. -/
  line (row : List Piece) : Pattern.IsSplit row → Pattern.ofPieces row = pattern →
    e.line (.custom pattern) = row.flatMap (Piece.shown e)
  /-- A value stands for a placeholder if its name is known. -/
  known (name : Text) : (e.valueOf? name).isSome = true ↔ Pattern.IsKnown name
  /-- Another pattern after this one is expanded on its own, unless a name goes on in it. -/
  append (next : Text) : (Pattern.EndsInName pattern → Text.Ends isNameChar next) →
    e.line (.custom (pattern ++ next)) = e.line (.custom pattern) ++ e.line (.custom next)
  /-- Without known names the pattern is the line. -/
  unknown : (∀ name, .placeholder name ∈ Pattern.pieces pattern → ¬ Pattern.IsKnown name) →
    e.line (.custom pattern) = pattern

/-- **Patterns are expanded once, from left to right**: every pattern, and in every entry, whatever
its values contain. -/
theorem line_custom_expands (e : Entry) (pattern : Text) : e.Expands pattern where
  tokens := Pattern.existsUnique_pieces pattern
  line row split := by
    rintro rfl
    exact e.custom_ofPieces split
  known _ := e.isSome_valueOf?_iff
  append _ := e.custom_append
  unknown := e.custom_of_not_isKnown

/-- An entry with a user agent that **looks like a pattern**. -/
def echo : Entry where
  remote := .v4 #v[198, 51, 100, 1] 80
  time := ⟨0, 0, 0⟩
  method := "GET".toList
  path := "/".toList
  query := none
  version := .v11
  status := 404
  bodyBytes := 9
  referer := none
  userAgent := some "$status".toList
  elapsed := .zero

/-- The user agent is not expanded, nor are an unknown name and dollar signs without one. What stands
after the last dollar sign of the first pattern is no character of a name. -/
theorem line_custom_expands_echo :
    let first := "$nope-$http_user_agent-$".toList
    let next := "é$$status".toList
    Pattern.EndsInName first ∧ Text.Ends isNameChar next ∧
      echo.line (.custom (first ++ next)) = "$nope-$status-$é$404".toList := by
  intro first next
  have ends : Pattern.EndsInName first := ⟨"$nope-$http_user_agent-".toList, [], by decide, by simp⟩
  have apart : Text.Ends isNameChar next := by decide
  have firstLine := (line_custom_expands echo first).line [.placeholder "nope".toList,
    .literal ['-'], .placeholder "http_user_agent".toList, .literal ['-'], .placeholder []]
    (by decide) (by decide)
  have nextLine := (line_custom_expands echo next).line [.literal ['é'], .placeholder [],
    .placeholder "status".toList] (by decide) (by decide)
  refine ⟨ends, apart, ?_⟩
  rw [(line_custom_expands echo first).append next fun _ => apart, firstLine, nextLine]
  decide

end Entry

end StaticGzip.AccessLog
