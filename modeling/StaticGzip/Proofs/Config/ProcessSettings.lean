import StaticGzip.Config.Process
import StaticGzip.Proofs.Except

/-! # Settings from what a process is given

A process whose arguments and variables are texts loads the settings that an environment and a list
of arguments give. Otherwise it panics, unless the configuration file has been a failure before the
variables are read.

* **`Config.loadFor_eq_load`** — the settings of a process as settings from all sources.
* **`Config.LoadPanics`** — the ways in which loading panics, and **`Config.loadFor_eq_panic_iff`**,
  that there are no others.
* **`Config.Misses`, `Config.NoPositions`** — assignments to positions that no array has, and what a
  process is given that names no position at all. -/

namespace StaticGzip

/-- A step for each of some things **has no value** exactly if it has none for one of them. -/
theorem mapM_eq_none_iff {α β : Type} {f : α → Option β} {as : List α} :
    as.mapM f = none ↔ ∃ a ∈ as, f a = none := by
  induction as with
  | nil => simp
  | cons a as ih =>
    rw [List.mapM_cons]
    cases first : f a with
    | none => simp [first]
    | some b =>
      cases rest : as.mapM f with
      | none => simpa [first, rest] using ih.mp rest
      | some bs => simpa [first, rest] using mt ih.mpr (by simp [rest])

/-! ## Texts -/

namespace SystemText

@[simp] theorem text?_text (s : String) : (text s).text? = some s := rfl

/-- What is **no text** has none. -/
@[simp] theorem text?_eq_none_iff {t : SystemText} : t.text? = none ↔ t = other := by
  cases t <;> simp [text?]

end SystemText

namespace Process

/-- All that the process is given is **text**. -/
structure IsText (p : Process) : Prop where
  arguments : ∀ t ∈ p.arguments, t ≠ .other
  environment : ∀ entry ∈ p.environment, entry.1 ≠ .other ∧ entry.2 ≠ .other

variable {p : Process} {environment : Config.Environment.Variables}

/-- The first arguments have no texts if **one of them is none**. -/
theorem firstArguments?_eq_none_iff :
    p.firstArguments? = none ↔ .other ∈ p.arguments.take 2 := by
  simp [firstArguments?, mapM_eq_none_iff]

/-- The variables have no texts if **a name or a value is none**. -/
theorem environment?_eq_none_iff :
    p.environment? = none ↔ ∃ entry ∈ p.environment, entry.1 = .other ∨ entry.2 = .other := by
  rw [environment?, mapM_eq_none_iff]
  refine exists_congr fun entry => and_congr_right fun _ => ?_
  obtain ⟨name, value⟩ := entry
  cases name <;> cases value <;> simp [SystemText.text?]

/-- If all variables are text, each has the value **that the environment gives it**. -/
theorem valueOf?_eq_lookup (h : p.environment? = some environment) (name : String) :
    p.valueOf? name = environment.lookup name := by
  obtain ⟨arguments, entries⟩ := p
  rw [environment?] at h
  simp only [valueOf?]
  induction entries generalizing environment with
  | nil =>
    cases h
    rfl
  | cons entry entries ih =>
    obtain ⟨key, value⟩ := entry
    rw [List.mapM_cons] at h
    obtain ⟨first, texts, h⟩ := Option.bind_eq_some_iff.mp h
    obtain ⟨others, rest, h⟩ := Option.bind_eq_some_iff.mp h
    cases h
    cases key with
    | other => cases texts
    | text key =>
      cases value with
      | other => cases texts
      | text value =>
        cases texts
        by_cases same : name = key
        · simp [same]
        · have apart : (SystemText.text name == .text key) = false := by simpa using same
          have other : (name == key) = false := by simpa using same
          rw [List.lookup_cons, apart, List.lookup_cons, other]
          exact ih rest

end Process

namespace Config

variable {fs : FileSystem} {foreign : ForeignFiles} {outOfReach : KeyPath.OutOfReach} {p : Process}
  {root result : Value} {assignments : List (String × Value)}

/-! ## Trees -/

/-- An assignment is **out of reach** in the tree that those before it make. -/
def Misses (outOfReach : KeyPath.OutOfReach) (root : Value) (assignments : List (String × Value)) :
    Prop :=
  ∃ before key v after, assignments = before ++ (key, v) :: after ∧
    (KeyPath.ofKey key).isInReach outOfReach (overlay root before) = false

/-- A value is assigned where it **belongs**. -/
theorem assign?_eq_some_iff {key : String} {v : Value} :
    assign? outOfReach root (key, v) = some result ↔
      (KeyPath.ofKey key).isInReach outOfReach root = true ∧
        overlay root [(key, v)] = result := by
  simp only [assign?]
  split
  · next reached => simp [reached, overlay]
  · next missed => simp [missed]

theorem assign?_eq_none_iff {key : String} {v : Value} :
    assign? outOfReach root (key, v) = none ↔
      (KeyPath.ofKey key).isInReach outOfReach root = false := by
  simp only [assign?]
  split
  · next reached => simp [reached]
  · next missed => simpa using missed

/-- The first of some assignments is out of reach, or one **behind it** is in the tree that it
makes. -/
theorem misses_cons {key : String} {v : Value} :
    Misses outOfReach root ((key, v) :: assignments) ↔
      (KeyPath.ofKey key).isInReach outOfReach root = false ∨
        Misses outOfReach (overlay root [(key, v)]) assignments := by
  constructor
  · rintro ⟨before, key', v', after, whole, missed⟩
    obtain ⟨rfl, first⟩ | ⟨before, rfl, rest⟩ := List.cons_eq_append_iff.mp whole
    · cases first
      exact .inl missed
    · exact .inr ⟨before, key', v', after, rest, missed⟩
  · rintro (missed | ⟨before, key', v', after, rfl, missed⟩)
    · exact ⟨[], key, v, assignments, rfl, missed⟩
    · exact ⟨(key, v) :: before, key', v', after, rfl, missed⟩

/-- Assignments **fail** exactly if one of them is out of reach. -/
theorem foldlM_assign?_eq_none_iff :
    assignments.foldlM (assign? outOfReach) root = none ↔ Misses outOfReach root assignments := by
  induction assignments generalizing root with
  | nil => exact ⟨nofun, fun ⟨before, key, v, after, whole, _⟩ => by simp at whole⟩
  | cons first rest ih =>
    obtain ⟨key, v⟩ := first
    rw [List.foldlM_cons, misses_cons, ← assign?_eq_none_iff, ← ih]
    cases assigned : assign? outOfReach root (key, v) with
    | none => simp
    | some next =>
      obtain ⟨-, rfl⟩ := assign?_eq_some_iff.mp assigned
      simp

/-- Assignments that are all in reach make the **same tree** as if nothing were out of reach. -/
theorem foldlM_assign?_eq_some (h : assignments.foldlM (assign? outOfReach) root = some result) :
    overlay root assignments = result := by
  induction assignments generalizing root with
  | nil =>
    cases h
    rfl
  | cons first rest ih =>
    obtain ⟨key, v⟩ := first
    rw [List.foldlM_cons] at h
    obtain ⟨next, assigned, h⟩ := Option.bind_eq_some_iff.mp h
    obtain ⟨-, rfl⟩ := assign?_eq_some_iff.mp assigned
    exact ih h

/-- All sources in reach are laid over one another **one by one**. -/
theorem eq_foldl_of_build? {all : List (List (String × Value))}
    (h : build? outOfReach all = some result) : result = all.foldl overlay .emptyTable := by
  rw [← foldlM_assign?_eq_some h, overlay, List.foldl_flatten]
  rfl

/-! ## Keys without positions -/

/-- Whether a step is into an entry of a table. -/
def KeyStep.isChild : KeyStep → Bool
  | child _ => true
  | index _ => false

/-- The keys of a source **name no position** of any array. -/
def NamesNoPosition (source : List (String × Value)) : Prop :=
  ∀ entry ∈ source, (KeyPath.ofKey entry.1).steps.all KeyStep.isChild = true

theorem namesNoPosition_defaults : NamesNoPosition defaults := by
  have plain : defaults.all (fun entry => (KeyPath.ofKey entry.1).steps.all KeyStep.isChild)
      = true := by
    decide +kernel
  exact List.all_eq_true.mp plain

theorem namesNoPosition_overrides (port rootDir : Option String) :
    NamesNoPosition (overrides port rootDir) := by
  have plain : (KeyPath.ofKey "server.port").steps.all KeyStep.isChild = true ∧
      (KeyPath.ofKey "root_dir").steps.all KeyStep.isChild = true := by
    decide +kernel
  intro entry there
  rw [overrides, List.mem_append, Option.mem_toList, Option.mem_toList] at there
  obtain there | there := there
  · obtain ⟨s, -, rfl⟩ := Option.map_eq_some_iff.mp there
    exact plain.1
  · obtain ⟨s, -, rfl⟩ := Option.map_eq_some_iff.mp there
    exact plain.2

/-- Steps into entries of tables are **in reach**. -/
theorem stepsInReach_of_isChild (steps : List KeyStep) (v : Value)
    (plain : steps.all KeyStep.isChild = true) :
    KeyPath.stepsInReach outOfReach steps v = true := by
  induction steps generalizing v with
  | nil => rfl
  | cons step steps ih =>
    obtain ⟨first, rest⟩ := Bool.and_eq_true_iff.mp plain
    cases step with
    | child key => exact ih _ rest
    | index n => cases first

/-- Where no position is named, **nothing is out of reach**. -/
theorem not_misses (plain : NamesNoPosition assignments) : ¬ Misses outOfReach root assignments := by
  rintro ⟨before, key, v, after, rfl, missed⟩
  have first : (KeyPath.ofKey key).steps.all KeyStep.isChild = true :=
    plain (key, v) (List.mem_append_right before List.mem_cons_self)
  rw [KeyPath.isInReach, KeyPath.stepsInReach, stepsInReach_of_isChild _ _ first] at missed
  cases missed

/-- What a process is given **names no position**: neither does its configuration file, nor does any
of its variables. -/
structure NoPositions (fs : FileSystem) (foreign : ForeignFiles) (p : Process) : Prop where
  file {file : List (String × Value)} (read : readFile fs foreign (fileNameOf p) = .ok file) :
    NamesNoPosition file
  environment {environment : Environment.Variables} (texts : p.environment? = some environment) :
    NamesNoPosition (Environment.entries environment)

theorem NoPositions.not_misses {file : List (String × Value)} {environment : Environment.Variables}
    (plain : NoPositions fs foreign p) (read : readFile fs foreign (fileNameOf p) = .ok file)
    (texts : p.environment? = some environment) (port rootDir : Option String) :
    ¬ Misses outOfReach root (sources file environment port rootDir).flatten := by
  refine Config.not_misses fun entry there => ?_
  obtain ⟨source, there, inside⟩ := List.mem_flatten.mp there
  simp only [sources, List.mem_cons, List.not_mem_nil, or_false] at there
  obtain rfl | rfl | rfl | rfl := there
  · exact namesNoPosition_defaults entry inside
  · exact plain.file read entry inside
  · exact plain.environment texts entry inside
  · exact namesNoPosition_overrides port rootDir entry inside

/-! ## Settings -/

/-- The **settings of a process** that is given texts only are those from all sources. -/
theorem loadFor_eq_load {environment : Environment.Variables} {given : List String}
    (arguments : p.firstArguments? = some given) (texts : p.environment? = some environment)
    (noForeign : foreign (fileNameOf p) = none) (plain : NoPositions fs foreign p) :
    loadFor fs foreign outOfReach p = (load fs environment given.tail).mapError .error := by
  have named : fileNameOf p = fileNameIn environment := by
    rw [fileNameOf, fileNameIn, Process.valueOf?_eq_lookup texts]
  have same : readFile fs foreign (fileNameOf p)
      = (fileEntries fs (fileNameIn environment)).mapError .error := by
    rw [readFile, noForeign, named]
  rw [loadFor, load, loadFrom, arguments, texts, same, Process.valueOf?_eq_lookup texts]
  cases entries : fileEntries fs (fileNameIn environment) with
  | error e => rfl
  | ok file =>
    have read : readFile fs foreign (fileNameOf p) = .ok file := by rw [same, entries, mapError_ok]
    have root : ∃ root, build? outOfReach (sources file environment
        (environment.lookup portVariable) given[1]?) = some root :=
      Option.ne_none_iff_exists'.mp fun failed =>
        plain.not_misses read texts _ _ (foldlM_assign?_eq_none_iff.mp failed)
    obtain ⟨root, built⟩ := root
    have second : given.tail.head? = given[1]? := by simp
    simp only [mapError_ok, Fault.orPanic_some, bind, Except.bind, built, second,
      eq_foldl_of_build? built]

/-- The ways in which loading **panics**: at an argument that is no text; while a configuration file
in another language is read; at a variable that is no text; at a position out of reach. -/
inductive LoadPanics (fs : FileSystem) (foreign : ForeignFiles) (outOfReach : KeyPath.OutOfReach)
    (p : Process) : Prop where
  | argument (h : .other ∈ p.arguments.take 2)
  | file {given : List String} (arguments : p.firstArguments? = some given)
    (h : foreign (fileNameOf p) = some (.error .panic))
  | environment {file : List (String × Value)} {given : List String}
    (arguments : p.firstArguments? = some given)
    (read : readFile fs foreign (fileNameOf p) = .ok file)
    (h : ∃ entry ∈ p.environment, entry.1 = .other ∨ entry.2 = .other)
  | position {file : List (String × Value)} {environment : Environment.Variables}
    {given : List String} (arguments : p.firstArguments? = some given)
    (read : readFile fs foreign (fileNameOf p) = .ok file)
    (texts : p.environment? = some environment)
    (h : Misses outOfReach .emptyTable
      (sources file environment (p.valueOf? portVariable) given[1]?).flatten)

/-- A file panics if it is in **another language** and is taken so. -/
theorem readFile_eq_panic_iff {name : Path} :
    readFile fs foreign name = .error .panic ↔ foreign name = some (.error .panic) := by
  rw [readFile]
  cases foreign name with
  | none => simp [mapError_eq_error_iff]
  | some read => simp

/-- Loading panics **in these ways only**. -/
theorem loadFor_eq_panic_iff :
    loadFor fs foreign outOfReach p = .error .panic ↔ LoadPanics fs foreign outOfReach p := by
  constructor
  · intro panics
    obtain failed | ⟨given, arguments, panics⟩ := bind_eq_error_iff.mp panics
    · have none := Fault.orPanic_eq_panic_iff.mp failed
      exact .argument (Process.firstArguments?_eq_none_iff.mp none)
    have arguments := Fault.orPanic_eq_ok_iff.mp arguments
    obtain failed | ⟨file, read, panics⟩ := bind_eq_error_iff.mp panics
    · exact .file arguments (readFile_eq_panic_iff.mp failed)
    obtain failed | ⟨environment, texts, panics⟩ := bind_eq_error_iff.mp panics
    · exact .environment arguments read
        (Process.environment?_eq_none_iff.mp (Fault.orPanic_eq_panic_iff.mp failed))
    obtain failed | ⟨root, -, panics⟩ := bind_eq_error_iff.mp panics
    · exact .position arguments read (Fault.orPanic_eq_ok_iff.mp texts)
        (foldlM_assign?_eq_none_iff.mp (Fault.orPanic_eq_panic_iff.mp failed))
    -- Settings that are no good are an error.
    · obtain ⟨e, -, same⟩ := mapError_eq_error_iff.mp panics
      cases same
  · intro h
    cases h with
    | argument h =>
      rw [loadFor, Process.firstArguments?_eq_none_iff.mpr h]
      rfl
    | file arguments h =>
      rw [loadFor, arguments, readFile_eq_panic_iff.mpr h]
      rfl
    | environment arguments read h =>
      rw [loadFor, arguments, read, Process.environment?_eq_none_iff.mpr h]
      rfl
    | position arguments read texts h =>
      have failed := foldlM_assign?_eq_none_iff.mpr h
      rw [loadFor, arguments, read, texts]
      simp only [build?, Fault.orPanic_some, bind, Except.bind, failed, Fault.orPanic_none]

/-- A process that is given texts only, none of which names a position, does **not panic** while it
loads its settings, unless a file in another language makes it panic. -/
theorem not_loadPanics (texts : p.IsText) (file : foreign (fileNameOf p) ≠ some (.error .panic))
    (plain : NoPositions fs foreign p) : ¬ LoadPanics fs foreign outOfReach p := by
  intro h
  cases h with
  | argument h => exact texts.arguments _ (List.mem_of_mem_take h) rfl
  | file arguments h => exact file h
  | environment arguments read h =>
    obtain ⟨entry, there, name | value⟩ := h
    · exact (texts.environment entry there).1 name
    · exact (texts.environment entry there).2 value
  | position arguments read texts h => exact plain.not_misses read texts _ _ h

end Config

end StaticGzip
