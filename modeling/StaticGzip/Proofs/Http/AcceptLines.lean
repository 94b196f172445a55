import StaticGzip.Proofs.AccessAccounts

/-! # What the `Accept` lines ask for

The check for a page joins the readable `Accept` lines and splits what it gets at the commas. The
joint puts a blank in front of every line but the first, so that the first part of a later line is
never the word that is looked for, while all other parts come through as they are.

* **`Http.Headers.Legible`** — the readable values of one name, in order.
* **`splitOn_joined`** — the parts of the joined lines, line by line.
* **`ListsPage`** — some line has the word between two commas, at a place where it counts.
* **`acceptsHtml_iff_listsPage`** — the check without the joint. -/

namespace StaticGzip

/-! ## Readable lines -/

namespace Http.Headers

/-- The **legible** values of one name are those of its lines that can be read as text, in order.
The other lines are dropped. -/
inductive Legible (name : String) : Headers → List Text → Prop where
  | nil : Legible name [] []
  /-- A line of another name. -/
  | other {line : Header} {headers : Headers} {lines : List Text} (named : line.name ≠ name)
      (rest : Legible name headers lines) : Legible name (line :: headers) lines
  /-- A line that cannot be read. -/
  | unreadable {value : Bytes} {headers : Headers} {lines : List Text}
      (illegible : ¬ IsReadable value) (rest : Legible name headers lines) :
    Legible name (⟨name, value⟩ :: headers) lines
  /-- A line that can be read. -/
  | readable {value : Bytes} {headers : Headers} {lines : List Text}
      (legible : IsReadable value) (rest : Legible name headers lines) :
    Legible name (⟨name, value⟩ :: headers) ((value.map fun b => Char.ofNat b.toNat) :: lines)

variable {name : String}

@[simp] theorem texts_append (hs ks : Headers) (name : String) :
    texts (hs ++ ks) name = texts hs name ++ texts ks name := by
  simp [texts]

/-- A line of another name has no text. -/
theorem texts_singleton_of_ne {line : Header} (named : line.name ≠ name) :
    texts [line] name = [] := by
  simp [texts, values, named]

/-- A line that cannot be read has no text. -/
theorem texts_singleton_of_unreadable {line : Header} (illegible : ¬ IsReadable line.value) :
    texts [line] name = [] := by
  by_cases named : line.name = name
  · simp [texts, values, named, readable?_of_not_isReadable illegible]
  · exact texts_singleton_of_ne named

/-- A line that can be read is read byte by byte. -/
theorem texts_singleton_of_readable {value : Bytes} (legible : IsReadable value) :
    texts [⟨name, value⟩] name = [value.map fun b => Char.ofNat b.toNat] := by
  simp [texts, values, readable?_of_isReadable legible]

/-- The texts of a name are its **legible values**. -/
theorem legible_texts (name : String) :
    ∀ headers : Headers, headers.Legible name (headers.texts name)
  | [] => .nil
  | line :: headers => by
    have rest := legible_texts name headers
    rw [← List.singleton_append, texts_append]
    by_cases named : line.name = name
    · subst named
      by_cases legible : IsReadable line.value
      · rw [texts_singleton_of_readable legible]
        exact .readable legible rest
      · rw [texts_singleton_of_unreadable legible]
        exact .unreadable legible rest
    · rw [texts_singleton_of_ne named]
      exact .other named rest

end Http.Headers

/-! ## The joint -/

/-- A text behind a blank has the same parts, but for a blank in front of the first one. -/
theorem splitOn_blank_cons (line : Text) :
    (' ' :: line).splitOn ',' = (line.splitOn ',').modifyHead (' ' :: ·) := by
  rw [List.splitOn_cons_eq_if_modifyHead, if_neg (by decide)]

/-- The **parts of the joined lines** are those of the first line as they are, and those of every
later line with a blank in front of the first one. -/
theorem splitOn_joined (first : Text) (later : List Text) :
    (", ".toList.intercalate (first :: later)).splitOn ','
      = first.splitOn ',' ++ later.flatMap fun line => (' ' :: line).splitOn ',' := by
  induction later generalizing first with
  | nil => simp
  | cons next later ih =>
    have joint : ", ".toList.intercalate (first :: next :: later)
        = first ++ ',' :: (' ' :: ", ".toList.intercalate (next :: later)) := by
      simp [List.intercalate_cons_cons]
    -- The blank of the joint joins the first part of the next line, whose parts are known.
    have blank : (' ' :: ", ".toList.intercalate (next :: later)).splitOn ','
        = (' ' :: next).splitOn ',' ++ later.flatMap fun line => (' ' :: line).splitOn ',' := by
      obtain ⟨part, parts, split⟩ := List.exists_cons_of_ne_nil (List.splitOn_ne_nil ',' next)
      rw [splitOn_blank_cons, ih, splitOn_blank_cons, split]
      rfl
    rw [joint, List.splitOn_append_cons_self, blank, List.flatMap_cons]

/-- A word without a blank in front is a part of a text behind a blank exactly if it is one of the
**later parts** of the text. -/
theorem mem_splitOn_blank_cons {word : Text} (start : word.head? ≠ some ' ') (line : Text) :
    word ∈ (' ' :: line).splitOn ',' ↔ word ∈ (line.splitOn ',').tail := by
  rw [splitOn_blank_cons]
  cases line.splitOn ',' with
  | nil => simp
  | cons part parts =>
    have other : word ≠ ' ' :: part := by
      rintro rfl
      exact start rfl
    simp [other]

/-! ## The word between two commas -/

/-- Some line **lists the page**: one of its parts between the commas is `text/html` without
anything else, and it is not the first part unless the line is the first one. -/
def ListsPage (lines : List Text) : Prop :=
  ∃ (i : Nat) (line : Text), lines[i]? = some line ∧
    ∃ k, (line.splitOn ',')[k]? = some "text/html".toList ∧ (k = 0 → i = 0)

theorem not_listsPage_nil : ¬ ListsPage [] := by
  rintro ⟨i, line, found, -⟩
  simp at found

/-- The first line may list the page at any place, the later ones only behind a comma. -/
theorem listsPage_cons (first : Text) (later : List Text) :
    ListsPage (first :: later) ↔ "text/html".toList ∈ first.splitOn ',' ∨
      ∃ line ∈ later, "text/html".toList ∈ (line.splitOn ',').tail := by
  constructor
  · rintro ⟨i, line, found, k, part, place⟩
    cases i with
    | zero =>
      obtain rfl : first = line := by simpa using found
      exact .inl (List.mem_of_getElem? part)
    | succ i =>
      cases k with
      | zero => exact absurd (place rfl) (by omega)
      | succ k =>
        refine .inr ⟨line, List.mem_of_getElem? (i := i) (by simpa using found), ?_⟩
        exact List.mem_of_getElem? (i := k) (by simpa using part)
  · rintro (part | ⟨line, found, part⟩)
    · obtain ⟨k, part⟩ := List.getElem?_of_mem part
      exact ⟨0, first, rfl, k, part, fun _ => rfl⟩
    · obtain ⟨i, found⟩ := List.getElem?_of_mem found
      obtain ⟨k, part⟩ := List.getElem?_of_mem part
      exact ⟨i + 1, line, by simpa using found, k + 1, by simpa using part, by omega⟩

/-- A later line lists the page behind a comma, but not with its first part. -/
example : ListsPage [[], "a,text/html".toList] ∧ ¬ ListsPage [[], "text/html,a".toList] := by
  rw [listsPage_cons, listsPage_cons]
  decide

/-- A line that lists the page still does so when **more lines** follow. -/
theorem ListsPage.append {lines : List Text} (h : ListsPage lines) (more : List Text) :
    ListsPage (lines ++ more) := by
  obtain ⟨i, line, found, part⟩ := h
  refine ⟨i, line, ?_, part⟩
  rw [List.getElem?_append_left (List.getElem?_eq_some_iff.mp found).1, found]

/-- At most one line lists the page if the page is one of its parts. -/
theorem listsPage_iff_mem {lines : List Text} (few : lines.length ≤ 1) :
    ListsPage lines ↔ ∃ line ∈ lines, "text/html".toList ∈ line.splitOn ',' := by
  match lines, few with
  | [], _ => simp [not_listsPage_nil]
  | [line], _ => simp [listsPage_cons]

/-- The check for a page is whether the **readable lines list it**. -/
theorem acceptsHtml_iff_listsPage (headers : Http.Headers) :
    acceptsHtml headers = true ↔ ListsPage (headers.texts "accept") := by
  unfold acceptsHtml
  cases headers.texts "accept" with
  | nil => simp [not_listsPage_nil]
  | cons first later =>
    have start : htmlToken.head? ≠ some ' ' := by decide
    show ((", ".toList.intercalate (first :: later)).splitOn ',').contains htmlToken = true ↔ _
    rw [List.contains_iff_mem, splitOn_joined, List.mem_append, List.mem_flatMap, listsPage_cons]
    simp only [mem_splitOn_blank_cons start]
    rfl

/-- Headers **ask for a page** by their readable `Accept` lines alone, whatever the other lines. -/
structure AsksByLines (headers : Http.Headers) (lines : List Text) : Prop where
  asks : acceptsHtml headers = true ↔ ListsPage lines
  /-- Other lines and lines that cannot be read may as well be left out. -/
  ignores : ∀ before line after, headers = before ++ line :: after →
    line.name ≠ "accept" ∨ ¬ Http.IsReadable line.value →
    acceptsHtml (before ++ after) = acceptsHtml headers
  /-- More lines at the end take nothing back. -/
  keeps : acceptsHtml headers = true → ∀ more, acceptsHtml (headers ++ more) = true
  /-- A single line asks if the page is one of its parts. -/
  single : lines.length ≤ 1 →
    (acceptsHtml headers = true ↔ ∃ line ∈ lines, "text/html".toList ∈ line.splitOn ',')

/-- Whether headers ask for a page depends on the readable `Accept` lines, of which the later ones
count **from their second part on**. -/
theorem acceptsHtml_byLines (headers : Http.Headers) :
    ∃ lines, headers.Legible "accept" lines ∧ AsksByLines headers lines := by
  refine ⟨headers.texts "accept", Http.Headers.legible_texts "accept" headers, ?_⟩
  have asks := acceptsHtml_iff_listsPage headers
  refine ⟨asks, ?_, ?_, fun few => asks.trans (listsPage_iff_mem few)⟩
  · rintro before line after rfl extra
    have silent : Http.Headers.texts [line] "accept" = [] :=
      extra.elim Http.Headers.texts_singleton_of_ne Http.Headers.texts_singleton_of_unreadable
    have same : Http.Headers.texts (before ++ line :: after) "accept"
        = Http.Headers.texts (before ++ after) "accept" := by
      rw [← List.singleton_append, Http.Headers.texts_append, Http.Headers.texts_append, silent,
        Http.Headers.texts_append, List.nil_append]
    rw [Bool.eq_iff_iff, acceptsHtml_iff_listsPage, asks, same]
  · intro listed more
    rw [acceptsHtml_iff_listsPage, Http.Headers.texts_append]
    exact (asks.mp listed).append _

end StaticGzip
