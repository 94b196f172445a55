import StaticGzip.Proofs.Confinement

/-! # The content type belongs to the file that is opened

A route takes its content type from the extension of the requested path, and the file is opened at
the path that the join makes of it. The extension is read backwards, slashes at the end left out;
the join reads forwards and drops blank segments and those that are climbed out of again. Both come
to the same last name, so a file is never sent under the type of another one.

* **`lastSegment_push`** — a path that grew by a name has that name as its last segment.
* **`exists_joinWithin_eq_push`** — the join of a path with an extension ends by growing by the
  segment from which the extension is taken.
* **`Route.Opens`, `Route.opens_of_ofRequest?`** — what every route opens below every root. -/

namespace StaticGzip

open StaticGzip.Path

/-! ## Last segments -/

/-- A segment at the end of a text, where it begins the text or follows a slash, is its **last
segment**. -/
theorem lastSegment_append {before segment : Text} (noSlash : '/' ∉ segment) (ne : segment ≠ [])
    (begins : before = [] ∨ before.getLast? = some '/') :
    lastSegment (before ++ segment) = segment := by
  rcases begins with rfl | slash
  · exact lastSegment_of_no_slash noSlash
  · obtain ⟨start, rfl⟩ := List.getLast?_eq_some_iff.mp slash
    obtain ⟨c, there⟩ := List.exists_mem_of_ne_nil segment ne
    have other : c ≠ '/' := by
      rintro rfl
      exact noSlash there
    rw [List.append_assoc, List.singleton_append, lastSegment_append_slash start ⟨c, there, other⟩,
      lastSegment_of_no_slash noSlash]

/-- A path that **grew by a name** has that name as its last segment. -/
theorem lastSegment_push (p : Path) {name : Text} (h : IsOrdinary name) :
    lastSegment (p.push name).text = name := by
  unfold push
  split
  · rename_i begins
    exact lastSegment_append h.no_slash h.ne_nil begins
  · have slash : p.text ++ '/' :: name = (p.text ++ ['/']) ++ name := by simp
    rw [slash]
    exact lastSegment_append h.no_slash h.ne_nil (.inr (by simp))

/-- The extension depends on the **last segment** alone. -/
theorem extension_congr {s t : Text} (same : lastSegment s = lastSegment t) :
    extension s = extension t := by
  have backward : backwardSegment s = backwardSegment t := List.reverse_inj.mp same
  simp only [extension, backward]

/-- The last segment of a path is the last one of its segments **that is not empty**. -/
theorem getLast?_filter_splitOn {path : Text} (h : lastSegment path ≠ []) :
    ((path.splitOn '/').filter (· ≠ [])).getLast? = some (lastSegment path) := by
  obtain ⟨before, n, split⟩ := splitOn_eq_lastSegment path
  have trailing : (List.replicate n ([] : Text)).filter (· ≠ []) = [] := by simp
  rw [split, List.filter_append, List.filter_cons_of_pos (by simpa using h), trailing,
    List.getLast?_concat]

/-! ## The end of a join -/

/-- Empty segments do not move a walk. -/
theorem foldl_step_replicate (w : Walk) (n : Nat) :
    (List.replicate n []).foldl Walk.step w = w := by
  induction n with
  | zero => rfl
  | succ n ih =>
    rw [List.replicate_succ, List.foldl_cons]
    exact ih

/-- An ordinary name is descended into. -/
theorem step_of_isOrdinary (w : Walk) {name : Text} (h : IsOrdinary name) :
    w.step name = ⟨w.path.push name, w.depth + 1⟩ := by
  rw [Walk.step, if_neg (by simp [h.isBlank_eq_false]), if_neg h.ne_parent]

/-- The join of a path with an extension **ends by growing** by the last segment of the path. -/
theorem exists_joinWithin_eq_push {path : Text} (h : extension path ≠ []) (root : Path) :
    ∃ p : Path, root.joinWithin path = p.push (lastSegment path) := by
  obtain ⟨before, n, split⟩ := splitOn_eq_lastSegment path
  refine ⟨(before.foldl Walk.step ⟨root, 0⟩).path, ?_⟩
  rw [joinWithin, walk, split, List.foldl_append, List.foldl_cons,
    step_of_isOrdinary _ (isOrdinary_lastSegment h), foldl_step_replicate]

/-- A path with an extension and the path to which it is joined have the **same last segment**. -/
theorem lastSegment_joinWithin {path : Text} (h : extension path ≠ []) (root : Path) :
    lastSegment (root.joinWithin path).text = lastSegment path := by
  obtain ⟨p, join⟩ := exists_joinWithin_eq_push h root
  rw [join, lastSegment_push p (isOrdinary_lastSegment h)]

/-- A path with an extension is joined to a path whose **last component** is its last segment. -/
theorem getLast?_components_joinWithin {path : Text} (h : extension path ≠ []) (root : Path) :
    (root.joinWithin path).components.getLast? = some (.name (lastSegment path)) := by
  obtain ⟨p, join⟩ := exists_joinWithin_eq_push h root
  rw [join, components_push p (isOrdinary_lastSegment h), List.getLast?_concat]

/-! ## Routes -/

/-- What a route **opens** below a root: a path strictly inside the root, with the extension of the
route's file and under the content type of that extension. -/
structure Route.Opens (route : Route) (root : Path) : Prop where
  /-- The last component of the opened path is an ordinary name, the last segment of the route's
  file that is not empty. -/
  name : ∃ name, IsOrdinary name ∧
    ((route.file.splitOn '/').filter (· ≠ [])).getLast? = some name ∧
    (root.joinWithin route.file).components.getLast? = some (.name name)
  /-- The opened path lies strictly inside the root. -/
  inside : root.IsInside (root.joinWithin route.file)
  /-- The route's file has an extension. -/
  named : extension route.file ≠ []
  /-- The opened path has the same extension. -/
  extension : extension (root.joinWithin route.file).text = extension route.file
  /-- The content type is the one of the extension of the opened path. -/
  contentType : route.contentType
    = ContentType.ofExtension? (StaticGzip.extension (root.joinWithin route.file).text)

/-- The file of a route has an **extension**, and the route has the content type of it, whether the
request names the file or is answered by the index page. -/
theorem Route.named_of_ofRequest? {path : Text} {headers : Http.Headers} {route : Route}
    (h : ofRequest? path headers = some route) :
    StaticGzip.extension route.file ≠ [] ∧
      route.contentType = ContentType.ofExtension? (StaticGzip.extension route.file) := by
  unfold ofRequest? at h
  split at h
  · rename_i found
    rw [← Option.some.inj h]
    exact ⟨found, rfl⟩
  · split at h
    · rw [← Option.some.inj h]
      exact ⟨by decide, by decide⟩
    · exact absurd h (by simp)

/-- **Every route opens a file of its own content type**, below every root. -/
theorem Route.opens_of_ofRequest? {path : Text} {headers : Http.Headers} {route : Route}
    (h : ofRequest? path headers = some route) (root : Path) : route.Opens root := by
  obtain ⟨named, contentType⟩ := named_of_ofRequest? h
  have ordinary := isOrdinary_lastSegment named
  have same := extension_congr (lastSegment_joinWithin named root)
  exact {
    name := ⟨lastSegment route.file, ordinary, getLast?_filter_splitOn ordinary.ne_nil,
      getLast?_components_joinWithin named root⟩
    inside := isInside_joinWithin h root
    named := named
    extension := same
    contentType := by rw [contentType, same] }

/-- A path that climbs, repeats slashes and ends in some opens a style sheet below a root that ends
in a dot. -/
theorem Route.opens_climbing :
    let path := "/a.js/..//x/./../../..b/..//b.css///".toList
    let root := Path.ofString "/srv/www/."
    ofRequest? path [] = some ⟨path, some .css⟩ ∧ Route.Opens ⟨path, some .css⟩ root ∧
      root.joinWithin path = .ofString "/srv/www/b.css" := by
  intro path root
  have routed : ofRequest? path [] = some ⟨path, some .css⟩ := by decide
  exact ⟨routed, opens_of_ofRequest? routed root, by decide⟩

end StaticGzip
