import Mathlib
import StaticGzip.Proofs.Config.SettingFields

/-! # The precedence of the sources

Four sources give values to settings. They are laid over one another, the lowest first, and what is
held for a setting in the end is what the highest source gives it. Only an empty table never takes
the place of another value: tables are merged, and there is nothing in it to merge.

* **`Regular`** — a source that gives no setting twice, and nothing that is no table for a section.
* **`winning?`** — the winning value of a setting.
* **`at?_laid`** — what is held for a setting in the end is its winning value.
* **`load_follows`** — the settings are loaded exactly if every winning value can be converted, and
  each setting is what its winning value is converted to. -/

namespace StaticGzip.Config

open KeyPath (entriesOf updateEntry put putEntries setSteps)

/-- A **source** of values: keys with trees of values. -/
abbrev Source := List (String × Value)

/-! ## Regular sources -/

/-- A source is **regular** if it gives no setting twice, if whatever it gives for a section is a
table, and if it gives nothing below a setting. All this is said of its single assignments, whose
keys are in lower case. -/
structure Regular (source : Source) : Prop where
  once (s : Setting) : ((assigned source).map (·.place)).count s.place ≤ 1
  sections : ∀ name ∈ Setting.sections, ∀ a ∈ assigned source, [.child name] <+: a.place →
    a.place = [.child name] ∧ a.value.isTable = true ∨
      ∃ key, [.child name, .child key] <+: a.place
  leaves (s : Setting) : ∀ a ∈ assigned source, s.place <+: a.place → a.place = s.place

/-- The assignments of a source are to places below a key. -/
theorem exists_place_of_mem_assigned {source : Source} {a : Assignment}
    (ha : a ∈ assigned source) : ∃ key place v, a = ⟨.child key :: place, v⟩ := by
  obtain ⟨entry, -, ha⟩ := List.mem_flatMap.mp ha
  obtain ⟨b, -, rfl⟩ := List.mem_map.mp ha
  exact ⟨_, _, _, rfl⟩

namespace Regular

variable {source : Source}

/-- The assignments of a regular source **suit every setting**. -/
theorem suits (h : Regular source) (s : Setting) : ∀ a ∈ assigned source, a.Suits s.keys := by
  intro a ha
  have leaf := h.leaves s a ha
  obtain ⟨first, place, v, rfl⟩ := exists_place_of_mem_assigned ha
  rcases s.keys_cases with keys | ⟨name, known, key, keys⟩ <;>
    rw [Setting.place, Place.ofKeys, keys] at leaf <;> rw [keys]
  · by_cases same : first = "root_dir"
    · subst same
      obtain rfl : place = [] := by simpa using leaf
      exact .further (a := ⟨[], v⟩) .here
    · exact .aside (a := ⟨place, v⟩) same
  · by_cases same : first = name
    · subst same
      have inside := h.sections first known _ ha
      -- The section itself, or an entry of it.
      rcases place with _ | ⟨step, place⟩
      · obtain table : v.isTable = true := by simpa using inside
        exact .further (a := ⟨[], v⟩) (.within table)
      · obtain ⟨other, rfl⟩ : ∃ other, .child other = step := by simpa using inside
        by_cases same : other = key
        · subst same
          obtain rfl : place = [] := by simpa using leaf
          exact .further (a := ⟨[.child other], v⟩) (.further (a := ⟨[], v⟩) .here)
        · exact .further (a := ⟨.child other :: place, v⟩) (.aside (a := ⟨place, v⟩) same)
    · exact .aside (a := ⟨place, v⟩) same

end Regular

/-! ## Sections stay -/

/-- Merging entries into a table leaves a table. -/
theorem isTable_putEntries (entries : List (String × Value)) {into : Value}
    (table : into.isTable = true) : (putEntries entries into).isTable = true := by
  induction entries generalizing into with
  | nil => exact table
  | cons entry entries ih => exact ih rfl

theorem hasSection_iff {name : String} {root : Value} :
    HasSection name root ↔ ∃ v, Value.lookup name (entriesOf root) = some v ∧ v.isTable = true := by
  constructor
  · rintro ⟨o, entries, has⟩
    exact ⟨_, has, rfl⟩
  · rintro ⟨v, has, table⟩
    cases v with
    | table o entries => exact ⟨o, entries, has⟩
    | _ => exact absurd table Bool.false_ne_true

/-- A section **stays a table** when a value is set, unless the value replaces it or makes an array
of it. -/
theorem hasSection_set {name : String} {root : Value} (has : HasSection name root) (path : KeyPath)
    (v : Value)
    (clear : ∀ a ∈ v.assignments.map (Assignment.under path.place), [.child name] <+: a.place →
      a.place = [.child name] ∧ a.value.isTable = true ∨
        ∃ key, [.child name, .child key] <+: a.place) :
    HasSection name (KeyPath.set path v root) := by
  obtain ⟨first, steps⟩ := path
  by_cases same : first = name
  · subst same
    obtain ⟨o, entries, found⟩ := has
    have changed : Value.lookup first (entriesOf (KeyPath.set ⟨first, steps⟩ v root))
        = some (setSteps steps v (some (.table o entries))) := by
      rw [← found]
      exact Value.lookup_insert ..
    refine hasSection_iff.mpr ⟨_, changed, ?_⟩
    obtain ⟨a, ha⟩ := List.exists_mem_of_ne_nil _ v.assignments_ne_nil
    have inside := clear _ (List.mem_map_of_mem ha)
    match steps with
    | [] =>
      cases known : v.isTable with
      | true =>
        cases v with
        | table o' more => exact isTable_putEntries more rfl
        | _ => exact absurd known Bool.false_ne_true
      | false =>
        rw [(Value.assignments_of_not_table known).1, List.mem_singleton] at ha
        subst ha
        simp [Assignment.under, KeyPath.place, known] at inside
    | .child key :: steps => rfl
    | .index n :: steps => simp [Assignment.under, KeyPath.place] at inside
  · obtain ⟨o, entries, found⟩ := has
    refine ⟨o, entries, ?_⟩
    rw [← found]
    exact Value.lookup_insert_of_ne (Ne.symm same) _ _

/-- A **section stays** when a regular source is laid over the tree. -/
theorem Regular.hasSection {source : Source} (h : Regular source) {name : String}
    (known : name ∈ Setting.sections) {root : Value} (has : HasSection name root) :
    HasSection name (overlay root source) := by
  have clear := h.sections name known
  clear h
  induction source generalizing root with
  | nil => exact has
  | cons entry source ih =>
    have split : assigned (entry :: source)
        = entry.2.assignments.map (.under (KeyPath.ofKey entry.1).place) ++ assigned source := rfl
    rw [split] at clear
    have first : HasSection name (KeyPath.set (KeyPath.ofKey entry.1) entry.2 root) :=
      hasSection_set has _ _ fun a ha => clear a (List.mem_append_left _ ha)
    exact ih first fun a ha => clear a (List.mem_append_right _ ha)

/-! ## Winning values -/

/-- The value that a source **gives a setting**. -/
def given? (source : Source) (s : Setting) : Option Value :=
  ((assigned source).find? (·.place == s.place)).map (·.value)

/-- The value that the **highest** of some sources gives a setting. The highest source comes
first. -/
def highest? (sources : List Source) (s : Setting) : Option Value :=
  sources.findSome? (given? · s)

/-- The value that the highest source gives a setting **apart from empty tables**. -/
def filled? (sources : List Source) (s : Setting) : Option Value :=
  sources.findSome? fun source => (given? source s).filter (!·.isTable)

/-- The **winning value** of a setting: the one of the highest source that gives anything else than
an empty table, and an empty table if nothing else is given. -/
def winning? (sources : List Source) (s : Setting) : Option Value :=
  (filled? sources s).or (highest? sources s)

/-- The tree of some sources, **laid over one another**, the highest one on top. -/
def laid : List Source → Value
  | [] => .emptyTable
  | source :: lower => overlay (laid lower) source

/-- A table that is given is empty. -/
theorem eq_emptyTable_of_given? {source : Source} {s : Setting} {v : Value}
    (given : given? source s = some v) (table : v.isTable = true) : v = .emptyTable := by
  obtain ⟨a, found, rfl⟩ := Option.map_eq_some_iff.mp given
  exact eq_emptyTable_of_mem_assigned (List.mem_of_find?_eq_some found) table

/-- Assignments of which **at most one** is to some place do to it what that one does. -/
theorem foldl_settle {keys : List String} {as : List Assignment} (held : Option Value)
    (once : (as.map (·.place)).count (.ofKeys keys) ≤ 1) :
    as.foldl (Assignment.settle keys) held
      = match (as.find? (·.place == Place.ofKeys keys)).map (·.value) with
        | some v => some (put v held)
        | none => held := by
  induction as generalizing held with
  | nil => rfl
  | cons a as ih =>
    rw [List.map_cons] at once
    by_cases here : a.place = Place.ofKeys keys
    · rw [here, List.count_cons_self] at once
      have none : as.find? (·.place == Place.ofKeys keys) = none := by
        have others : Place.ofKeys keys ∉ as.map (·.place) := List.count_eq_zero.mp (by omega)
        simpa using others
      rw [List.foldl_cons, ih _ (by omega), none, List.find?_cons_of_pos (by simpa using here)]
      simp [Assignment.settle, here]
    · rw [List.count_cons_of_ne here] at once
      rw [List.foldl_cons, ih _ once, List.find?_cons_of_neg (by simpa using here)]
      simp [Assignment.settle, here]

/-- A **regular source** laid over a tree puts what it gives a setting in the place of what is held
for the setting. -/
theorem Regular.at?_overlay {source : Source} (h : Regular source) (s : Setting) (root : Value) :
    Value.at? s.keys (some (overlay root source))
      = match given? source s with
        | some v => some (put v (Value.at? s.keys (some root)))
        | none => Value.at? s.keys (some root) := by
  rw [Config.at?_overlay s.keys source root (h.suits s), foldl_settle _ (h.once s)]
  rfl

/-- Nothing but empty tables is given where nothing else is. -/
theorem eq_emptyTable_of_filled?_eq_none {sources : List Source} {s : Setting} {v : Value}
    (none : filled? sources s = none) (highest : highest? sources s = some v) :
    v = .emptyTable := by
  obtain ⟨source, mem, given⟩ := List.exists_of_findSome?_eq_some highest
  have empty := List.findSome?_eq_none_iff.mp none source mem
  refine eq_emptyTable_of_given? given ?_
  simpa [given] using empty

/-- **What is held for a setting in the end is its winning value**, however many regular sources are
laid over one another. -/
theorem at?_laid {sources : List Source} (regular : ∀ source ∈ sources, Regular source)
    (s : Setting) : Value.at? s.keys (some (laid sources)) = winning? sources s := by
  induction sources with
  | nil => cases s <;> rfl
  | cons source lower ih =>
    have below := ih fun source mem => regular source (List.mem_cons_of_mem _ mem)
    rw [laid, (regular source List.mem_cons_self).at?_overlay, below]
    cases given : given? source s with
    | none => simp [winning?, filled?, highest?, given]
    | some v =>
      cases table : v.isTable with
      | false =>
        have replaced := (Value.assignments_of_not_table table).2
        simp [winning?, filled?, given, table, replaced, Option.filter_some]
      | true =>
        -- The empty table leaves what the lower sources give.
        obtain rfl := eq_emptyTable_of_given? given table
        have kept (held : Option Value) : put .emptyTable held = held.getD .emptyTable := rfl
        have upper : highest? (source :: lower) s = some .emptyTable := by simp [highest?, given]
        have same : filled? (source :: lower) s = filled? lower s := by
          simp [filled?, given, table]
        dsimp only
        rw [kept, winning?, winning?, same, upper]
        cases filled : filled? lower s with
        | some w => simp
        | none =>
          cases highest : highest? lower s with
          | none => simp
          | some w =>
            rw [eq_emptyTable_of_filled?_eq_none filled highest]
            simp

/-! ## The built-in sources -/

/-- The assignments of the **defaults**: one to each setting but two. -/
theorem assigned_defaults : assigned defaults = [
    ⟨Setting.host.place, .string none "0.0.0.0"⟩,
    ⟨Setting.port.place, .integer none 80⟩,
    ⟨Setting.rootDir.place, .string none "."⟩,
    ⟨Setting.level.place, .string none "info"⟩,
    ⟨Setting.accessLog.place, .boolean none true⟩,
    ⟨Setting.accessLogFormat.place, .string none "combined"⟩,
    ⟨Setting.keepAliveTimeout.place, .integer none 75⟩,
    ⟨Setting.readTimeout.place, .integer none 30⟩,
    ⟨Setting.writeTimeout.place, .integer none 30⟩] := by
  cbv

/-- The assignments of the **explicit values**. -/
theorem assigned_overrides (port rootDir : Option String) :
    assigned (overrides port rootDir)
      = (port.map fun s => ⟨Setting.port.place, .string none s⟩).toList
        ++ (rootDir.map fun s => ⟨Setting.rootDir.place, .string none s⟩).toList := by
  cases port <;> cases rootDir <;> cbv

/-- A source that only assigns settings, and none of them twice, is **regular**. -/
theorem regular_of_settings {source : Source} (settings : List Setting)
    (places : (assigned source).map (·.place) = settings.map (·.place))
    (nodup : (settings.map (·.place)).Nodup) : Regular source := by
  have setting {a : Assignment} (ha : a ∈ assigned source) : ∃ t : Setting, t.place = a.place := by
    have mem : a.place ∈ (assigned source).map (·.place) := List.mem_map_of_mem ha
    rw [places] at mem
    obtain ⟨t, -, same⟩ := List.mem_map.mp mem
    exact ⟨t, same⟩
  constructor
  case once =>
    intro s
    rw [places]
    exact List.nodup_iff_count.mp nodup s.place
  case sections =>
    intro name known a ha starts
    obtain ⟨t, same⟩ := setting ha
    rw [← same, Setting.place, Place.ofKeys] at starts ⊢
    rcases t.keys_cases with keys | ⟨other, -, key, keys⟩ <;> rw [keys] at starts ⊢
    · obtain rfl : name = "root_dir" := by simpa using starts
      exact absurd known (by decide)
    · obtain rfl : name = other := by simpa using starts
      exact .inr ⟨key, List.prefix_refl _⟩
  case leaves =>
    intro s a ha starts
    obtain ⟨t, same⟩ := setting ha
    rw [← same] at starts ⊢
    rw [Setting.place, Setting.place, Place.ofKeys, Place.ofKeys] at starts ⊢
    rcases s.keys_cases with keys | ⟨name, known, key, keys⟩ <;>
      rcases t.keys_cases with keys' | ⟨name', known', key', keys'⟩ <;>
        rw [keys, keys'] at starts ⊢
    · obtain rfl : "root_dir" = name' := by simpa using starts
      exact absurd known' (by decide)
    · exact absurd starts.length_le (by simp)
    · exact (starts.eq_of_length rfl).symm

theorem regular_defaults : Regular defaults :=
  regular_of_settings [.host, .port, .rootDir, .level, .accessLog, .accessLogFormat,
    .keepAliveTimeout, .readTimeout, .writeTimeout] (by rw [assigned_defaults]; rfl) (by decide)

theorem regular_overrides (port rootDir : Option String) : Regular (overrides port rootDir) := by
  have places : (assigned (overrides port rootDir)).map (·.place)
      = ((port.map fun _ => Setting.port).toList
        ++ (rootDir.map fun _ => Setting.rootDir).toList).map (·.place) := by
    rw [assigned_overrides]
    cases port <;> cases rootDir <;> rfl
  refine regular_of_settings _ places ?_
  cases port <;> cases rootDir <;> simp only [Option.map_none, Option.map_some, Option.toList] <;>
    decide

/-- The defaults give **every section**. -/
theorem hasSection_defaults : ∀ name ∈ Setting.sections, HasSection name (laid [defaults]) := by
  have tables : Setting.sections.all (fun name =>
      (Value.lookup name (entriesOf (laid [defaults]))).any Value.isTable) = true := by
    cbv
  intro name known
  obtain ⟨v, found, table⟩ := (Option.any_eq_true _ _).mp (List.all_eq_true.mp tables name known)
  exact hasSection_iff.mpr ⟨v, found, table⟩

/-! ## Loading -/

/-- The **sources of the settings**, the highest one first: the explicit values, the environment, a
file and the defaults. -/
def ranked (file : Source) (environment : Environment.Variables) (port rootDir : Option String) :
    List Source :=
  [overrides port rootDir, Environment.entries environment, file, defaults]

section

variable {fs : FileSystem} {name : Path} {environment : Environment.Variables}
  {port rootDir : Option String} {file : Source}

/-- Every setting but two **is given** by the defaults. -/
theorem eq_of_winning?_eq_none {s : Setting}
    (none : winning? (ranked file environment port rootDir) s = none) :
    s = .workers ∨ s = .maxConnections := by
  have unset := List.findSome?_eq_none_iff.mp (Option.or_eq_none_iff.mp none).2 defaults
    (by simp [ranked])
  rw [given?, assigned_defaults] at unset
  cases s with
  | workers => exact .inl rfl
  | maxConnections => exact .inr rfl
  | _ => exact absurd unset (by decide)

/-- Settings are loaded exactly if **each of them is what it takes** from its winning value. -/
theorem loadFrom_eq_ok_iff (read : fileEntries fs name = .ok file) (regularFile : Regular file)
    (regularEnvironment : Regular (Environment.entries environment)) {all : Settings} :
    loadFrom fs name environment port rootDir = .ok all ↔
      ∀ s : Setting,
        s.field.Takes (winning? (ranked file environment port rootDir) s) (s.of all) := by
  have regular : ∀ source ∈ ranked file environment port rootDir, Regular source := by
    simp only [ranked, List.forall_mem_cons]
    exact ⟨regular_overrides port rootDir, regularEnvironment, regularFile, regular_defaults,
      List.forall_mem_nil _⟩
  have sections : ∀ known ∈ Setting.sections,
      HasSection known (laid (ranked file environment port rootDir)) := fun _ known =>
    (regular_overrides port rootDir).hasSection known <| regularEnvironment.hasSection known <|
      regularFile.hasSection known <| hasSection_defaults _ known
  have decoded : loadFrom fs name environment port rootDir
      = Decode.settings? (entriesOf (laid (ranked file environment port rootDir))) := by
    rw [loadFrom, read]
    rfl
  rw [decoded, Decode.settings?_eq_ok_iff sections]
  exact forall_congr' fun s => by rw [at?_laid regular s]

/-- Settings **follow** some sources if they are there exactly if every winning value can be
converted to the type of its setting, if each setting is then what its winning value is converted
to, and if only the two settings that can do without a value may have none. -/
structure Follows (result : Except ConfigError Settings) (sources : List Source) : Prop where
  succeeds : (∃ all, result = .ok all) ↔
    ∀ s v, winning? sources s = some v → ∃ a, s.field.convert v = .ok a
  converted (all : Settings) : result = .ok all →
    ∀ s v, winning? sources s = some v → s.field.convert v = .ok (s.of all)
  unset (all : Settings) : result = .ok all →
    (winning? sources .workers = none → all.server.workers = none) ∧
    (winning? sources .maxConnections = none → all.performance.maxConnections = none)
  given (s : Setting) : winning? sources s = none → s = .workers ∨ s = .maxConnections

/-- The settings of regular sources follow them. -/
theorem follows_loadFrom (read : fileEntries fs name = .ok file) (regularFile : Regular file)
    (regularEnvironment : Regular (Environment.entries environment)) :
    Follows (loadFrom fs name environment port rootDir) (ranked file environment port rootDir) := by
  have loaded (all : Settings) :
      loadFrom fs name environment port rootDir = .ok all ↔ ∀ s : Setting,
        s.field.Takes (winning? (ranked file environment port rootDir) s) (s.of all) :=
    loadFrom_eq_ok_iff read regularFile regularEnvironment
  have converted (all : Settings) (ok : loadFrom fs name environment port rootDir = .ok all)
      (s : Setting) (v : Value)
      (wins : winning? (ranked file environment port rootDir) s = some v) :
      s.field.convert v = .ok (s.of all) := by
    have takes := (loaded all).mp ok s
    rwa [wins] at takes
  constructor
  case succeeds =>
    constructor
    · rintro ⟨all, ok⟩ s v wins
      exact ⟨_, converted all ok s v wins⟩
    · intro convertible
      -- Each setting takes something: the conversion, or nothing where it can do without.
      have takes (s : Setting) :
          ∃ a, s.field.Takes (winning? (ranked file environment port rootDir) s) a := by
        cases wins : winning? (ranked file environment port rootDir) s with
        | some v => exact convertible s v wins
        | none => rcases eq_of_winning?_eq_none wins with rfl | rfl <;> exact ⟨none, rfl⟩
      choose each takes using takes
      exact ⟨Setting.gather each, (loaded _).mpr fun s => by rw [Setting.of_gather]; exact takes s⟩
  case converted => exact converted
  case unset =>
    intro all ok
    have takes := (loaded all).mp ok
    constructor
    · intro none
      have missing := takes .workers
      rw [none] at missing
      exact (Option.some.inj missing).symm
    · intro none
      have missing := takes .maxConnections
      rw [none] at missing
      exact (Option.some.inj missing).symm
  case given => exact fun s => eq_of_winning?_eq_none

/-- **The highest source wins.** For every file that can be understood, or none, for every
environment, and for all explicit values, the settings follow the sources, and so do those of a
program with its arguments. Regular sources are assumed; that is, none gives a setting twice, gives
a section anything but a table, or gives anything below a setting. -/
theorem load_follows (read : fileEntries fs name = .ok file) (regularFile : Regular file)
    (regularEnvironment : Regular (Environment.entries environment)) :
    Follows (loadFrom fs name environment port rootDir) (ranked file environment port rootDir) ∧
      ∀ arguments : List String, fileEntries fs (fileNameIn environment) = .ok file →
        Follows (load fs environment arguments)
          (ranked file environment (environment.lookup portVariable) arguments.head?) :=
  ⟨follows_loadFrom read regularFile regularEnvironment,
    fun _ named => follows_loadFrom named regularFile regularEnvironment⟩

end

/-! ## Two files -/

/-- A file system that holds **one file**. -/
def oneFile (file : Path) (text : String) : FileSystem where
  stat p := if p = file then .ok ⟨true, text.utf8ByteSize⟩ else .error (.simple .notFound)
  read p := if p = file then .ok text.toUTF8 else .error (.simple .notFound)

/-- The text of the one file. -/
theorem readText?_oneFile (file : Path) (text : String) :
    readText? (oneFile file text) file = some text.toList := by
  have whole : String.fromUTF8? text.toUTF8 = some text := dif_pos text.isValidUTF8
  simp only [readText?, oneFile, if_pos, whole, Option.map_some]

/-- The entries of the one file, where the name finds it. -/
theorem fileEntries_oneFile {name file : Path} {text : String} {source : Source}
    (found : findFile? (oneFile file text) name = some (file, .toml))
    (read : Toml.read? (some (String.ofList (shownPath file))) text.toList = some source) :
    fileEntries (oneFile file text) name = .ok source := by
  simp only [fileEntries, found, readText?_oneFile, Language.read?, read]

/-- The port of the environment hides a bad one in the file, and the explicit one hides both. -/
theorem load_follows_layers :
    let origin : Origin := some "gzserve.toml"
    let fs := oneFile (.ofString "gzserve.toml") "[Server]\nport = 'x'\nworkers = 4\n"
    let file : Source :=
      [("Server", .table origin [("port", .string origin "x"), ("workers", .integer origin 4)])]
    let environment : Environment.Variables :=
      [("PORT", "8181"), ("GZSERVE__server__PORT", "9000")]
    let name := Path.ofString "gzserve"
    fileEntries fs name = .ok file ∧ Regular file ∧ Regular (Environment.entries environment) ∧
    Follows (loadFrom fs name environment none none) (ranked file environment none none) ∧
    Follows (load fs environment ["/srv"]) (ranked file environment (some "8181") (some "/srv")) ∧
    winning? (ranked file environment none none) .port = some (.integer Environment.origin 9000) ∧
    winning? (ranked file environment none none) .workers = some (.integer origin 4) := by
  intro origin fs file environment name
  have read : fileEntries fs name = .ok file := by
    dsimp only [fs, name, file, origin]
    exact fileEntries_oneFile (by cbv) (by cbv)
  have ofFile : assigned file = [⟨Setting.port.place, .string origin "x"⟩,
      ⟨Setting.workers.place, .integer origin 4⟩] := by
    dsimp only [file, origin]
    cbv
  have ofEnvironment : assigned (Environment.entries environment)
      = [⟨Setting.port.place, .integer Environment.origin 9000⟩] := by
    dsimp only [environment]
    cbv
  have regularFile : Regular file :=
    regular_of_settings [.port, .workers] (by rw [ofFile]; rfl) (by decide)
  have regularEnvironment : Regular (Environment.entries environment) :=
    regular_of_settings [.port] (by rw [ofEnvironment]; rfl) (by decide)
  obtain ⟨first, others⟩ :
      Follows (loadFrom fs name environment none none) (ranked file environment none none) ∧ _ :=
    load_follows read regularFile regularEnvironment
  refine ⟨read, regularFile, regularEnvironment, first, others ["/srv"] read, ?_, ?_⟩
  · simp only [winning?, filled?, ranked, List.findSome?_cons, given?, assigned_overrides,
      ofEnvironment]
    rfl
  · simp only [winning?, filled?, ranked, List.findSome?_cons, given?, assigned_overrides,
      ofEnvironment, ofFile]
    rfl

/-- **An empty table gives way.** It is what the highest source gives for the host, and it is no
string, but the settings are loaded, with the host that a lower source gives. -/
theorem empty_table_gives_way :
    let origin : Origin := some "gzserve.toml"
    let fs := oneFile (.ofString "gzserve.toml") "[server]\nhost = \x7b\x7d"
    let file : Source := [("server", .table origin [("host", .table origin [])])]
    let name := Path.ofString "gzserve"
    fileEntries fs name = .ok file ∧ Regular file ∧ Regular (Environment.entries []) ∧
    highest? (ranked file [] none none) .host = some .emptyTable ∧
    (∀ a, Setting.host.field.convert .emptyTable ≠ .ok a) ∧
    loadFrom fs name [] none none = .ok ⟨⟨"0.0.0.0", 80, none⟩, ".", ⟨"info", true, "combined"⟩,
      ⟨75, 30, 30, none⟩⟩ := by
  intro origin fs file name
  have read : fileEntries fs name = .ok file := by
    dsimp only [fs, name, file, origin]
    exact fileEntries_oneFile (by cbv) (by cbv)
  have ofFile : assigned file = [⟨Setting.host.place, .emptyTable⟩] := by
    dsimp only [file, origin]
    cbv
  have regularFile : Regular file :=
    regular_of_settings [.host] (by rw [ofFile]; rfl) (by decide)
  have regularEnvironment : Regular (Environment.entries []) :=
    regular_of_settings [] rfl (by decide)
  refine ⟨read, regularFile, regularEnvironment, ?_, ?_, ?_⟩
  · simp only [highest?, ranked, List.findSome?_cons, given?, ofFile]
    rfl
  · intro a converted
    cases converted
  · rw [loadFrom, read]
    dsimp only [file, origin]
    cbv

end StaticGzip.Config
