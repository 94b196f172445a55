import StaticGzip.Proofs.Lookup
import StaticGzip.Proofs.Path.LastSegment

/-! # Serving is confined to the root

No request reaches a path that is not strictly below the root, however its path is written, and
nothing outside the root has any influence on how it is served. Links are not followed here: a path
is inside by its components, and what the file system makes of it is its own business.

* **`Path.IsInside`** — the components of the root, and then one or more ordinary names.
* **`isInside_of_mem_calls`** — every question is about a path inside the root.
* **`serve_confined`** — two file systems that agree inside the root serve every request alike. -/

namespace StaticGzip

/-- A path is **inside a root** if its components are those of the root and then one or more
ordinary names. -/
def Path.IsInside (root p : Path) : Prop :=
  ∃ names : List Text, names ≠ [] ∧ (∀ n ∈ names, IsOrdinary n) ∧
    p.components = root.components ++ names.map .name

/-- The root is not inside itself. -/
theorem Path.IsInside.components_ne {root p : Path} (h : root.IsInside p) :
    p.components ≠ root.components := by
  obtain ⟨names, nonempty, -, components⟩ := h
  rw [components]
  simpa using nonempty

/-- A path inside a root continues the components of the root. -/
theorem Path.IsInside.continues {root p : Path} (h : root.IsInside p) :
    root.components <+: p.components := by
  obtain ⟨names, -, -, components⟩ := h
  rw [components]
  exact List.prefix_append _ _

/-- A **routed file** joined within the root is inside it. -/
theorem Route.isInside_joinWithin {path : Text} {headers : Http.Headers} {route : Route}
    (h : Route.ofRequest? path headers = some route) (root : Path) :
    root.IsInside (root.joinWithin route.file) :=
  ⟨Path.namesBelow route.file, namesBelow_file_ne_nil h,
    fun _ => Path.isOrdinary_of_mem_namesBelow, Path.components_joinWithin root route.file⟩

/-- Every question that serving a request asks is about a path **inside the root**. -/
theorem isInside_of_mem_calls {fs : FileSystem} {root : Path} {path : Text}
    {headers : Http.Headers} {call : FileCall} (h : call ∈ (serve fs root path headers).calls) :
    root.IsInside call.path := by
  cases routed : Route.ofRequest? path headers with
  | none =>
    rw [serve_of_no_route routed] at h
    exact absurd h (by simp)
  | some route =>
    rw [(serve_of_route routed fs).path_of_mem_calls h]
    exact Route.isInside_joinWithin routed root

/-! ## Two runs -/

/-- **Serving is confined to the root.** Two file systems that agree inside the root, and differ
anywhere else, are asked the same questions in the same order, all of them about paths inside the
root, and they give the same result and the same events. -/
theorem serve_confined (root : Path) (path : Text) (headers : Http.Headers)
    (fs other : FileSystem)
    (agree : ∀ p, root.IsInside p → fs.stat p = other.stat p ∧ fs.read p = other.read p) :
    (serve fs root path headers).calls = (serve other root path headers).calls ∧
      (∀ call ∈ (serve fs root path headers).calls, root.IsInside call.path) ∧
      (serve fs root path headers).result = (serve other root path headers).result ∧
      (serve fs root path headers).events = (serve other root path headers).events := by
  have inside : ∀ call ∈ (serve fs root path headers).calls, root.IsInside call.path :=
    fun _ => isInside_of_mem_calls
  -- Only the answers to the questions matter, and all of those are about paths inside.
  have alike : serve fs root path headers = serve other root path headers := by
    refine serve_congr fun call hc => ?_
    have answers := agree call.path (inside call hc)
    cases call with
    | stat p => exact answers.1
    | read p => exact answers.2
  refine ⟨?_, inside, ?_, ?_⟩ <;> rw [alike]

/-- A file system in which nothing exists. -/
def nothingAnywhere : FileSystem :=
  ⟨fun _ => .error (.simple .notFound), fun _ => .error (.simple .notFound)⟩

/-- A file system with a readable file at every path, the root itself among them, unless the path
continues the components of the root; there it has nothing. -/
def secretOutside (root : Path) (secret : ByteArray) : FileSystem :=
  let isBelow (p : Path) :=
    root.components.isPrefixOf p.components && p.components != root.components
  ⟨fun p => if isBelow p then .error (.simple .notFound) else .ok ⟨true, secret.size⟩,
    fun p => if isBelow p then .error (.simple .notFound) else .ok secret⟩

/-- Secrets outside the root stay unseen by a path that tries to climb to one of them, though the
file systems tell the root itself and that secret apart. -/
theorem serve_confined_climbing :
    let root := Path.ofString "/srv/www/."
    let path := "//.././../etc/./passwd.html/".toList
    let secret := secretOutside root ⟨#[115, 51]⟩
    (∀ p, root.IsInside p → nothingAnywhere.stat p = secret.stat p ∧
      nothingAnywhere.read p = secret.read p) ∧
    nothingAnywhere.stat root ≠ secret.stat root ∧
    nothingAnywhere.stat (.ofString "/etc/passwd.html")
      ≠ secret.stat (.ofString "/etc/passwd.html") ∧
    (serve nothingAnywhere root path []).calls = (serve secret root path []).calls ∧
    (∀ call ∈ (serve nothingAnywhere root path []).calls, root.IsInside call.path) ∧
    (serve nothingAnywhere root path []).result = (serve secret root path []).result ∧
    (serve nothingAnywhere root path []).events = (serve secret root path []).events := by
  intro root path secret
  have agree : ∀ p, root.IsInside p → nothingAnywhere.stat p = secret.stat p ∧
      nothingAnywhere.read p = secret.read p := by
    intro p inside
    simp [nothingAnywhere, secret, secretOutside, inside.continues, inside.components_ne]
  refine ⟨agree, ?_, ?_, serve_confined root path [] nothingAnywhere secret agree⟩
  · decide
  · decide

end StaticGzip
