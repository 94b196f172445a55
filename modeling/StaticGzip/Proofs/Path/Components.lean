import Mathlib.Data.List.TakeWhile
import StaticGzip.Path

/-! # What growing and shrinking a path does to its components

A path is kept as text, and its components are read off the text. The laws here say what the
operations on the text do to the components, so that nothing else has to look at slashes.

* **`Path.components_append_slash`** — what follows a slash of a path adds its own components.
* **`Path.components_push`** — one more name is one more component.
* **`Path.components_of_parent?`, `Path.components_pop`** — the parent lacks the last component. -/

namespace StaticGzip.Path

/-! ## Ordinary names -/

/-- An **ordinary name**: a non-empty segment without a slash that is neither `.` nor `..`. -/
structure IsOrdinary (name : Text) : Prop where
  ne_nil : name ≠ []
  no_slash : '/' ∉ name
  ne_current : name ≠ ['.']
  ne_parent : name ≠ ['.', '.']

/-- An ordinary name is not blank. -/
theorem IsOrdinary.isBlank_eq_false {name : Text} (h : IsOrdinary name) :
    isBlank name = false := by
  simp [isBlank, h.ne_nil, h.ne_current]

/-- The component of an ordinary name is that name. -/
theorem IsOrdinary.component? {name : Text} (h : IsOrdinary name) :
    component? name = some (.name name) := by
  simp [Path.component?, h.isBlank_eq_false, h.ne_parent]

/-- A segment without a slash is blank, goes back, or is an ordinary name. -/
theorem isOrdinary_of_segment {segment : Text} (noSlash : '/' ∉ segment)
    (blank : isBlank segment = false) (back : segment ≠ ['.', '.']) : IsOrdinary segment := by
  simp only [isBlank, Bool.or_eq_false_iff, beq_eq_false_iff_ne] at blank
  exact ⟨blank.1, noSlash, blank.2, back⟩

/-- No segment of a text has a slash. -/
theorem no_slash_of_mem_splitOn {t segment : Text} (h : segment ∈ t.splitOn '/') :
    '/' ∉ segment := by
  induction t generalizing segment with
  | nil =>
    rw [List.splitOn_nil, List.mem_singleton] at h
    simp [h]
  | cons c t ih =>
    -- A slash begins a new segment; any other character goes in front of the first one.
    obtain ⟨first, more, split⟩ := List.exists_cons_of_ne_nil (List.splitOn_ne_nil '/' t)
    rw [List.splitOn_cons_eq_if_modifyHead, split] at h
    by_cases slash : c = '/'
    · rw [if_pos (by simp [slash]), ← split, List.mem_cons] at h
      rcases h with rfl | h
      · simp
      · exact ih h
    · rw [if_neg (by simp [slash]), List.modifyHead_cons, List.mem_cons] at h
      rcases h with rfl | h
      · have begins : first ∈ t.splitOn '/' := by simp [split]
        simp [ih begins, Ne.symm slash]
      · exact ih (by simp [split, h])

/-! ## Components of a text in segments -/

/-- The components of the segments of a text, none of them an anchor. -/
def segmentComponents (t : Text) : List Component := (t.splitOn '/').filterMap component?

/-- The components of a path are those of its anchor and those of the segments that follow. -/
theorem components_eq (p : Path) :
    p.components = anchorComponents p.text ++ segmentComponents (body p.text) := rfl

@[simp] theorem segmentComponents_nil : segmentComponents [] = [] := rfl

/-- A slash separates components. -/
theorem segmentComponents_append_slash (s t : Text) :
    segmentComponents (s ++ '/' :: t) = segmentComponents s ++ segmentComponents t := by
  rw [segmentComponents, List.splitOn_append_cons_self, List.filterMap_append]
  rfl

/-- An ordinary name is one component. -/
theorem segmentComponents_of_isOrdinary {name : Text} (h : IsOrdinary name) :
    segmentComponents name = [.name name] := by
  rw [segmentComponents, List.splitOn_eq_singleton h.no_slash, List.filterMap_cons,
    h.component?, List.filterMap_nil]

/-- Segments put together with slashes have their own components again. -/
theorem segmentComponents_intercalate {segments : List Text} (noSlash : ∀ s ∈ segments, '/' ∉ s) :
    segmentComponents (['/'].intercalate segments) = segments.filterMap component? := by
  by_cases h : segments = []
  · rw [h]
    rfl
  · rw [segmentComponents, List.splitOn_intercalate '/' noSlash h]

/-! ## Longer texts -/

/-- Once a text has begun, a slash and what follows leave its anchor alone. -/
theorem anchor_append_slash {t : Text} (h : t ≠ []) (s : Text) :
    anchor (t ++ '/' :: s) = anchor t := by
  obtain ⟨c, t, rfl⟩ := List.exists_cons_of_ne_nil h
  -- An anchor is seen in the first two characters, and the second one is there or is the new slash.
  by_cases slash : c = '/'
  · rw [slash]
    rfl
  by_cases dot : c = '.'
  · subst dot
    cases t with
    | nil => rfl
    | cons d t =>
      by_cases hd : d = '/'
      · rw [hd]
        rfl
      · simp [anchor, hd]
  · simp [anchor, slash, dot]

/-- The body of a text that has begun grows by a slash and what follows. -/
theorem body_append_slash {t : Text} (h : t ≠ []) (s : Text) :
    body (t ++ '/' :: s) = body t ++ '/' :: s := by
  have split := anchor_append_body (t ++ '/' :: s)
  rw [anchor_append_slash h] at split
  have whole : anchor t ++ body (t ++ '/' :: s) = anchor t ++ (body t ++ '/' :: s) := by
    rw [split, ← List.append_assoc, anchor_append_body]
  exact List.append_cancel_left whole

/-- **What follows a slash** of a path that has begun adds its own components. -/
theorem components_append_slash {t : Text} (h : t ≠ []) (s : Text) :
    components ⟨t ++ '/' :: s⟩ = components ⟨t⟩ ++ segmentComponents s := by
  simp only [components_eq, anchorComponents]
  rw [anchor_append_slash h, body_append_slash h, segmentComponents_append_slash,
    List.append_assoc]

/-- What follows the slash of the root adds its own components. -/
theorem components_slash (s : Text) : components ⟨'/' :: s⟩ = .root :: segmentComponents s := rfl

/-- A path that is one ordinary name has that component alone. -/
theorem components_of_isOrdinary {name : Text} (h : IsOrdinary name) :
    components ⟨name⟩ = [.name name] := by
  -- An anchor would be a slash of the name, or all of it.
  have unanchored : anchor name = [] := by
    unfold anchor
    split
    · exact absurd List.mem_cons_self h.no_slash
    · exact absurd rfl h.ne_current
    · exact absurd (List.mem_cons_of_mem _ List.mem_cons_self) h.no_slash
    · rfl
  have whole : body name = name := by
    rw [body, unanchored]
    rfl
  rw [components_eq, whole, segmentComponents_of_isOrdinary h, anchorComponents, unanchored]
  rfl

/-! ## One name more -/

/-- **One more name** is one more component at the end. -/
theorem components_push (p : Path) {name : Text} (h : IsOrdinary name) :
    (p.push name).components = p.components ++ [.name name] := by
  obtain ⟨t⟩ := p
  unfold push
  by_cases empty : t = []
  · subst empty
    rw [if_pos (.inl rfl)]
    exact components_of_isOrdinary h
  by_cases slash : t.getLast? = some '/'
  · -- The slash is there already, so it is taken off before the name is put behind one.
    rw [if_pos (.inr slash)]
    obtain ⟨before, rfl⟩ := List.getLast?_eq_some_iff.mp slash
    rw [List.append_assoc, List.singleton_append]
    by_cases root : before = []
    · subst root
      rw [List.nil_append, List.nil_append, components_slash, components_slash,
        segmentComponents_of_isOrdinary h]
      rfl
    · rw [components_append_slash root, components_append_slash root,
        segmentComponents_of_isOrdinary h, segmentComponents_nil, List.append_nil]
  · rw [if_neg (by simp [empty, slash]), components_append_slash empty,
      segmentComponents_of_isOrdinary h]

/-! ## One component less -/

/-- Two runs of segments are put together with one more slash between. -/
theorem intercalate_append_slash {front back : List Text} (hf : front ≠ []) (hb : back ≠ []) :
    ['/'].intercalate (front ++ back)
      = ['/'].intercalate front ++ '/' :: ['/'].intercalate back := by
  induction front with
  | nil => exact absurd rfl hf
  | cons segment front ih =>
    cases front with
    | nil => simp [List.intercalate_cons_of_ne_nil hb]
    | cons next front =>
      have more := ih (List.cons_ne_nil next front)
      rw [List.cons_append] at more
      rw [List.cons_append, List.cons_append, List.intercalate_cons_cons, more,
        List.intercalate_cons_cons, List.append_assoc _ (['/'].intercalate _)]

/-- Blank segments have no components. -/
theorem filterMap_component?_of_blank {segments : List Text}
    (blank : ∀ s ∈ segments, isBlank s = true) : segments.filterMap component? = [] := by
  rw [List.filterMap_eq_nil_iff]
  intro s hs
  rw [component?, if_pos (blank s hs)]

/-- A segment that is not blank has a component. -/
theorem exists_component?_of_not_blank {segment : Text} (h : isBlank segment = false) :
    ∃ c, component? segment = some c := by
  unfold component?
  rw [if_neg (by simp [h])]
  split
  · exact ⟨_, rfl⟩
  · exact ⟨_, rfl⟩

/-- The blank segments at the start of a list, and where they end. -/
theorem exists_blanks (segments : List Text) :
    ∃ blanks, segments = blanks ++ segments.dropWhile isBlank ∧
      ∀ s ∈ blanks, isBlank s = true :=
  ⟨segments.takeWhile isBlank, List.takeWhile_append_dropWhile.symm,
    fun _ => List.mem_takeWhile_imp⟩

/-- The segments of a path with a component after the anchor: those that its parent keeps, and
more, of which exactly one has a component. -/
theorem exists_segments_of_backwardSegments {p : Path} {segment : Text} {rest : List Text}
    (h : p.backwardSegments = segment :: rest) :
    ∃ c last, (body p.text).splitOn '/' = (rest.dropWhile isBlank).reverse ++ last ∧
      last ≠ [] ∧ last.filterMap component? = [c] := by
  obtain ⟨blanks, split, blank⟩ := exists_blanks ((body p.text).splitOn '/').reverse
  obtain ⟨blanks', split', blank'⟩ := exists_blanks rest
  have found : isBlank segment = false := by
    have := List.head?_dropWhile_not isBlank ((body p.text).splitOn '/').reverse
    rw [backwardSegments] at h
    simpa [h] using this
  obtain ⟨c, hc⟩ := exists_component?_of_not_blank found
  rw [backwardSegments] at h
  rw [h, split', List.reverse_eq_iff] at split
  -- Forwards: what the parent keeps, blanks, the segment with the component, and blanks again.
  refine ⟨c, blanks'.reverse ++ segment :: blanks.reverse, ?_, by simp, ?_⟩
  · rw [split]
    simp
  · rw [List.filterMap_append, List.filterMap_cons, hc,
      filterMap_component?_of_blank (by simpa using blank'),
      filterMap_component?_of_blank (by simpa using blank)]
    rfl

/-- A path without a component after the anchor has only those of the anchor. -/
theorem components_of_backwardSegments_eq_nil {p : Path} (h : p.backwardSegments = []) :
    p.components = anchorComponents p.text := by
  rw [backwardSegments, List.dropWhile_eq_nil_iff] at h
  rw [components_eq, segmentComponents, filterMap_component?_of_blank (by simpa using h),
    List.append_nil]

/-- An anchor alone has its own components. -/
theorem components_anchor (t : Text) : components ⟨anchor t⟩ = anchorComponents t := by
  unfold anchorComponents anchor
  split <;> rfl

/-- The path of an anchor and of the segments that a parent keeps has the components of both. -/
theorem components_anchor_append {p : Path} {kept last : List Text} (hl : last ≠ [])
    (split : (body p.text).splitOn '/' = kept ++ last)
    (hk : ['/'].intercalate kept ≠ [] ∨ kept = []) :
    components ⟨anchor p.text ++ ['/'].intercalate kept⟩ ++ last.filterMap component?
      = p.components := by
  have noSlash : ∀ s ∈ kept ++ last, '/' ∉ s := by
    intro s hs
    exact no_slash_of_mem_splitOn (split ▸ hs)
  by_cases none : kept = []
  · subst none
    rw [List.intercalate_nil, List.append_nil, components_anchor, components_eq,
      segmentComponents, split, List.nil_append]
  · -- The text of the path is that of the parent, a slash, and the other segments.
    have begun : anchor p.text ++ ['/'].intercalate kept ≠ [] := by
      simp [hk.resolve_right none]
    have whole : p.text = anchor p.text ++ ['/'].intercalate kept
        ++ '/' :: ['/'].intercalate last := by
      rw [List.append_assoc, ← intercalate_append_slash none hl, ← split,
        List.intercalate_splitOn, anchor_append_body]
    have components := components_append_slash begun (['/'].intercalate last)
    rw [← whole, segmentComponents_intercalate
      fun s hs => noSlash s (List.mem_append_right _ hs)] at components
    exact components.symm

/-- What a parent keeps is not blank at its end, so it is some text. -/
theorem intercalate_kept (rest : List Text) :
    ['/'].intercalate (rest.dropWhile isBlank).reverse ≠ []
      ∨ (rest.dropWhile isBlank).reverse = [] := by
  cases kept : rest.dropWhile isBlank with
  | nil => exact .inr rfl
  | cons segment more =>
    -- The text ends in a segment that is not blank, and the empty segment is blank.
    have found := List.head?_dropWhile_not isBlank rest
    rw [kept] at found
    have ne : segment ≠ [] := by
      rintro rfl
      simp at found
    refine .inl ?_
    rw [List.reverse_cons]
    by_cases h : more.reverse = []
    · rw [h]
      simpa using ne
    · rw [intercalate_append_slash h (by simp)]
      simp

/-- **The parent** of a path lacks its last component. -/
theorem components_of_parent? {p q : Path} (h : p.parent? = some q) :
    q.components = p.components.dropLast := by
  unfold parent? at h
  split at h
  · rename_i segment rest found
    obtain ⟨c, last, split, hl, hc⟩ := exists_segments_of_backwardSegments found
    -- The segments that the parent drops have one component between them.
    rw [← components_anchor_append hl split (intercalate_kept rest), hc, List.dropLast_concat]
    rw [← Option.some.inj h]
  · rename_i found
    split at h
    -- Only the leading dot has a parent; it is the last component and the only one.
    · rename_i current
      rw [← Option.some.inj h, components_of_backwardSegments_eq_nil found, anchorComponents,
        current]
      rfl
    · exact absurd h (by simp)

/-- A path that ends in a name has a parent. -/
theorem parent?_ne_none {p : Path} {cs : List Component} {name : Text}
    (h : p.components = cs ++ [.name name]) : p.parent? ≠ none := by
  intro none
  unfold parent? at none
  split at none
  · exact absurd none (by simp)
  · rename_i found
    rw [components_of_backwardSegments_eq_nil found] at h
    -- Without a component after the anchor the path would end in that of the anchor, and that is no
    -- name.
    have last : .name name ∈ anchorComponents p.text := by simp [h]
    unfold anchorComponents at last
    split at last <;> simp at last

/-- **Going back** from a name leaves the components before it. -/
theorem components_pop {p : Path} {cs : List Component} {name : Text}
    (h : p.components = cs ++ [.name name]) : p.pop.components = cs := by
  obtain ⟨q, hq⟩ := Option.ne_none_iff_exists'.mp (parent?_ne_none h)
  rw [pop, hq, Option.getD_some, components_of_parent? hq, h, List.dropLast_concat]

end StaticGzip.Path
