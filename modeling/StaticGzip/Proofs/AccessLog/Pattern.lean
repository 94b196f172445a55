import Mathlib.Data.List.TakeWhile
import StaticGzip.AccessLog.Format
import StaticGzip.Proofs.Text.Run

/-! # Patterns in pieces

A pattern is a row of pieces: literal text without a dollar sign, and placeholders, each a dollar
sign with the longest name that can be read after it. A line is made piece by piece, and no value is
looked at again. The two fixed text formats are patterns like any others.

* **`Pattern.pieces`** — the pieces of a pattern. They make up the pattern again.
* **`Pattern.IsSplit`** — the rows of pieces into which some pattern falls apart.
* **`Entry.custom_ofPieces`** — the line of a pattern from its pieces.
* **`Entry.line_fixed_eq_line_custom`** — the lines of the fixed text formats are those of two
  patterns. -/

namespace StaticGzip.AccessLog

/-- A **piece** of a pattern. -/
inductive Piece where
  | literal (t : Text)
  | placeholder (name : Text)
deriving DecidableEq, Repr

namespace Piece

/-- A piece as it stands in a pattern. -/
def text : Piece → Text
  | literal t => t
  | placeholder name => '$' :: name

/-- What stands for a piece in the line of an entry. An unknown placeholder is kept. -/
def shown (e : Entry) : Piece → Text
  | literal t => t
  | placeholder name => (e.valueOf? name).getD ('$' :: name)

end Piece

namespace Pattern

/-! ## Pieces -/

/-- The pattern that some pieces make up. -/
def ofPieces (pieces : List Piece) : Text := pieces.flatMap Piece.text

@[simp] theorem ofPieces_nil : ofPieces [] = [] := rfl

@[simp] theorem ofPieces_literal (t : Text) (pieces : List Piece) :
    ofPieces (.literal t :: pieces) = t ++ ofPieces pieces := rfl

@[simp] theorem ofPieces_placeholder (name : Text) (pieces : List Piece) :
    ofPieces (.placeholder name :: pieces) = '$' :: (name ++ ofPieces pieces) := rfl

/-- The **pieces of a pattern**. -/
def pieces : Text → List Piece
  | [] => []
  | '$' :: rest =>
    .placeholder (rest.takeWhile Entry.isNameChar) :: pieces (rest.dropWhile Entry.isNameChar)
  | c :: rest => .literal (c :: rest.takeWhile (· != '$')) :: pieces (rest.dropWhile (· != '$'))
termination_by pattern => pattern.length
decreasing_by
  all_goals exact Nat.lt_succ_of_le (List.dropWhile_sublist _).length_le

/-- The pieces of a pattern **make it up** again. -/
@[simp] theorem ofPieces_pieces (pattern : Text) : ofPieces (pieces pattern) = pattern := by
  fun_induction pieces pattern with
  | case1 => rfl
  | case2 rest ih => rw [ofPieces_placeholder, ih, List.takeWhile_append_dropWhile]
  | case3 c rest _ ih =>
    rw [ofPieces_literal, ih, List.cons_append, List.takeWhile_append_dropWhile]

/-! ## Splitting -/

/-- Some pieces are those into which the pattern they make up **falls apart**: no literal text has
a dollar sign, and every name goes as far as it can. -/
def IsSplit : List Piece → Prop
  | [] => True
  | .literal t :: pieces => '$' ∉ t ∧ IsSplit pieces
  | .placeholder name :: pieces =>
    (∀ c ∈ name, Entry.isNameChar c = true) ∧ Text.Ends Entry.isNameChar (ofPieces pieces) ∧
      IsSplit pieces

instance IsSplit.decide : ∀ pieces : List Piece, Decidable (IsSplit pieces)
  | [] => .isTrue trivial
  | .literal t :: pieces =>
    have := IsSplit.decide pieces
    inferInstanceAs (Decidable ('$' ∉ t ∧ IsSplit pieces))
  | .placeholder name :: pieces =>
    have := IsSplit.decide pieces
    have := List.decidableBAll (Entry.isNameChar · = true) name
    inferInstanceAs (Decidable ((∀ c ∈ name, Entry.isNameChar c = true) ∧
      Text.Ends Entry.isNameChar (ofPieces pieces) ∧ IsSplit pieces))

/-- A pattern **falls apart** into its pieces. -/
theorem isSplit_pieces (pattern : Text) : IsSplit (pieces pattern) := by
  fun_induction pieces pattern with
  | case1 => trivial
  | case2 rest ih =>
    refine ⟨fun c hc => List.mem_takeWhile_imp hc, ?_, ih⟩
    rw [ofPieces_pieces]
    exact Text.ends_dropWhile _ rest
  | case3 c rest other ih =>
    refine ⟨fun dollar => ?_, ih⟩
    rcases List.mem_cons.mp dollar with first | later
    · exact other first.symm
    · exact absurd (List.mem_takeWhile_imp later) (by decide)

end Pattern

/-! ## Lines -/

namespace Entry

variable (e : Entry)

/-- Literal text is **kept** in a line. -/
theorem custom_literal_append {t : Text} (h : '$' ∉ t) (rest : Text) :
    e.custom (t ++ rest) = t ++ e.custom rest := by
  induction t with
  | nil => rfl
  | cons c t ih =>
    obtain ⟨first, later⟩ := not_or.mp (mt List.mem_cons.mpr h)
    rw [List.cons_append, custom.eq_3 e c (t ++ rest) (Ne.symm first), ih later, List.cons_append]

/-- A placeholder is **replaced** in a line, and the value is not looked at again. -/
theorem custom_placeholder_append {name rest : Text} (h : ∀ c ∈ name, isNameChar c = true)
    (ends : Text.Ends isNameChar rest) :
    e.custom ('$' :: (name ++ rest)) = (Piece.placeholder name).shown e ++ e.custom rest := by
  rw [custom, Text.takeWhile_append h ends, Text.dropWhile_append h ends]
  rfl

/-- The line of a pattern that is **one variable** is the value of the variable. -/
theorem line_placeholder {name : Text} (named : name.all isNameChar = true) :
    e.line (.custom ('$' :: name)) = (Piece.placeholder name).shown e := by
  have nothing : Text.Ends isNameChar [] := Text.ends_nil
  have shown := e.custom_placeholder_append (List.all_eq_true.mp named) nothing
  rwa [List.append_nil, custom, List.append_nil] at shown

/-- The line of a pattern is made **piece by piece**. -/
theorem custom_ofPieces {pieces : List Piece} (h : Pattern.IsSplit pieces) :
    e.custom (Pattern.ofPieces pieces) = pieces.flatMap (Piece.shown e) := by
  induction pieces with
  | nil => rw [Pattern.ofPieces_nil, custom, List.flatMap_nil]
  | cons piece pieces ih =>
    cases piece with
    | literal t =>
      obtain ⟨noDollar, others⟩ := h
      rw [Pattern.ofPieces_literal, e.custom_literal_append noDollar, ih others, List.flatMap_cons]
      rfl
    | placeholder name =>
      obtain ⟨named, ends, others⟩ := h
      rw [Pattern.ofPieces_placeholder, e.custom_placeholder_append named ends, ih others,
        List.flatMap_cons]

/-- The line of **any pattern** is made of the pieces into which it falls apart. -/
theorem custom_eq_flatMap_pieces (pattern : Text) :
    e.custom pattern = (Pattern.pieces pattern).flatMap (Piece.shown e) := by
  have line := e.custom_ofPieces (Pattern.isSplit_pieces pattern)
  rwa [Pattern.ofPieces_pieces] at line

end Entry

/-! ## The fixed text formats -/

namespace Pattern

/-- The pattern of the **common** format. -/
def common : Text :=
  "$remote_addr - - [$time_local] \"$request\" $status $body_bytes_sent".toList

/-- What the **combined** format adds to the common one. -/
def headers : Text := " \"$http_referer\" \"$http_user_agent\"".toList

/-- The pieces of the pattern of the common format. -/
def commonPieces : List Piece := [
  .placeholder "remote_addr".toList, .literal " - - [".toList,
  .placeholder "time_local".toList, .literal "] \"".toList,
  .placeholder "request".toList, .literal "\" ".toList,
  .placeholder "status".toList, .literal " ".toList,
  .placeholder "body_bytes_sent".toList]

/-- The pieces that the combined format adds. -/
def headerPieces : List Piece := [
  .literal " \"".toList, .placeholder "http_referer".toList, .literal "\" \"".toList,
  .placeholder "http_user_agent".toList, .literal "\"".toList]

end Pattern

namespace Entry

/-- The pieces of the common format are shown as **its line**. -/
theorem flatMap_shown_commonPieces (e : Entry) :
    Pattern.commonPieces.flatMap (Piece.shown e) = e.common := by
  simp [Pattern.commonPieces, Piece.shown, valueOf?, patternValues, common, quoted,
    List.lookup_cons]

/-- The pieces that the combined format adds are shown as **its two headers**. -/
theorem flatMap_shown_headerPieces (e : Entry) :
    Pattern.headerPieces.flatMap (Piece.shown e)
      = ' ' :: quoted (orDash e.referer) ++ ' ' :: quoted (orDash e.userAgent) := by
  simp [Pattern.headerPieces, Piece.shown, valueOf?, patternValues, quoted, List.lookup_cons]

/-- The **fixed text formats are patterns**: whatever an entry holds, its lines in the common and
the combined format are those of two patterns. -/
theorem line_fixed_eq_line_custom (e : Entry) :
    e.line .common = e.line (.custom Pattern.common) ∧
      e.line .combined = e.line (.custom (Pattern.common ++ Pattern.headers)) := by
  have common : Pattern.common = Pattern.ofPieces Pattern.commonPieces := by decide
  have combined : Pattern.common ++ Pattern.headers
      = Pattern.ofPieces (Pattern.commonPieces ++ Pattern.headerPieces) := by decide
  constructor
  · rw [line, line, common, e.custom_ofPieces (by decide), flatMap_shown_commonPieces]
  · rw [line, line, combined, e.custom_ofPieces (by decide), List.flatMap_append,
      flatMap_shown_commonPieces, flatMap_shown_headerPieces, Entry.combined, List.append_assoc]

end Entry

end StaticGzip.AccessLog
