import StaticGzip.Proofs.Config.NumberSettings
import StaticGzip.Proofs.Config.RespelledText
import StaticGzip.Proofs.Config.TomlStrings

/-! # Settings that are text

Four settings are text. A text comes to them by a variable, by a file, or, for the root directory,
by an argument. The last two ways keep it as it is; a variable keeps only the texts that are the
spellings of their values.

* **`TextSetting`** — the four settings.
* **`loadFrom_of_only`** — the settings where the sources assign a single one of these.
* **`load_takes_text`** — the three ways. -/

namespace StaticGzip.Config

/-! ## The four settings -/

/-- A **setting that is text**. -/
inductive TextSetting where
  | rootDir
  | host
  | level
  | accessLogFormat
deriving DecidableEq, Repr

namespace TextSetting

/-- The setting among all of them. -/
def setting : TextSetting → Setting
  | rootDir => .rootDir
  | host => .host
  | level => .level
  | accessLogFormat => .accessLogFormat

/-- The **variable** of a setting. -/
def inEnvironment : TextSetting → String
  | rootDir => "GZSERVE__ROOT_DIR"
  | host => "GZSERVE__SERVER__HOST"
  | level => "GZSERVE__LOGGING__LEVEL"
  | accessLogFormat => "GZSERVE__LOGGING__ACCESS_LOG_FORMAT"

/-- The key of a setting in a file. -/
def key (t : TextSetting) : String := ".".intercalate t.setting.keys

/-- The **document** that assigns a setting what is spelled there. -/
def document (t : TextSetting) (spelling : Text) : Text :=
  t.key.toList ++ " = ".toList ++ spelling

/-- The settings with one of the four **set** to a text. -/
def set (t : TextSetting) (s : String) (all : Settings) : Settings :=
  match t with
  | rootDir => { all with rootDir := s }
  | host => { all with server.host := s }
  | level => { all with logging.level := s }
  | accessLogFormat => { all with logging.accessLogFormat := s }

/-- A value that is wanted as text is taken as one. -/
theorem takes_set {t : TextSetting} {v : Value} {s : String} (h : v.string? = .ok s)
    (all : Settings) : t.setting.field.Takes (some v) (t.setting.of (t.set s all)) := by
  cases t <;> exact h

/-- Other texts make other settings. -/
theorem set_inj {t : TextSetting} {s s' : String} {all : Settings} :
    t.set s all = t.set s' all ↔ s = s' := by
  cases t <;> simp [set]

/-- The other settings stay. -/
theorem of_set_of_ne {t : TextSetting} {other : Setting} (h : other ≠ t.setting) (s : String)
    (all : Settings) : other.of (t.set s all) = other.of all := by
  cases t <;> cases other <;> first | rfl | exact absurd rfl h

end TextSetting

/-! ## One assignment -/

/-- The **standard settings**, where no source but the defaults gives a value. -/
def standard : Settings :=
  ⟨⟨"0.0.0.0", 80, none⟩, ".", ⟨"info", true, "combined"⟩, ⟨75, 30, 30, none⟩⟩

/-- No two settings have one place. -/
theorem Setting.place_injective : Function.Injective Setting.place := by
  intro s t
  cases s <;> cases t <;> decide

section

variable {upper lower : List Source} {s : Setting} {v : Value}

/-- Sources that do not give a setting **do not matter** to it. -/
theorem winning?_append_of_unset (unset : ∀ source ∈ upper, given? source s = none) :
    winning? (upper ++ lower) s = winning? lower s := by
  have highest : highest? upper s = none := List.findSome?_eq_none_iff.mpr unset
  have filled : filled? upper s = none := List.findSome?_eq_none_iff.mpr fun source there => by
    rw [unset source there, Option.filter_none]
  rw [highest?] at highest
  rw [filled?] at filled
  simp only [winning?, highest?, filled?, List.findSome?_append, highest, filled, Option.none_or]

/-- What a source gives a setting **wins** over the sources below it, unless it is a table. -/
theorem winning?_cons_of_given {source : Source} (given : given? source s = some v)
    (whole : v.isTable = false) : winning? (source :: lower) s = some v := by
  simp [winning?, filled?, given, whole, Option.filter_some]

/-- **A single assignment** of some sources is what wins for its setting. -/
theorem winning?_of_only (only : upper.flatMap assigned = [⟨s.place, v⟩])
    (whole : v.isTable = false) : winning? (upper ++ lower) s = some v := by
  induction upper with
  | nil => cases only
  | cons source upper ih =>
    rw [List.flatMap_cons] at only
    rcases List.append_eq_singleton_iff.mp only with ⟨none, rest⟩ | ⟨one, -⟩
    · have unset : given? source s = .none := by rw [given?, none]; rfl
      have first : ∀ other ∈ [source], given? other s = .none := by simpa using unset
      exact (winning?_append_of_unset first).trans (ih rest)
    · have given : given? source s = some v := by simp [given?, one]
      exact winning?_cons_of_given given whole

/-- Each of the sources makes that assignment or none. -/
theorem assigned_sublist_of_only {t : Setting} {source : Source}
    (only : upper.flatMap assigned = [⟨t.place, v⟩]) (there : source ∈ upper) :
    List.Sublist (assigned source) [⟨t.place, v⟩] := by
  rw [← only, List.flatMap_def]
  exact List.sublist_flatten_of_mem (List.mem_map_of_mem there)

/-- A single assignment is none to **another setting**. -/
theorem given?_of_only {t : Setting} (only : upper.flatMap assigned = [⟨t.place, v⟩])
    (other : s ≠ t) : ∀ source ∈ upper, given? source s = none := by
  intro source there
  rw [given?, Option.map_eq_none_iff, List.find?_eq_none]
  intro a ha
  have same := List.mem_singleton.mp ((assigned_sublist_of_only only there).subset ha)
  rw [same, beq_iff_eq]
  exact fun place => other (Setting.place_injective place).symm

/-- Sources of a single assignment to a setting are **regular**. -/
theorem regular_of_only {t : Setting} (only : upper.flatMap assigned = [⟨t.place, v⟩]) :
    ∀ source ∈ upper, Regular source := by
  intro source there
  rcases List.sublist_singleton.mp (assigned_sublist_of_only only there) with none | one
  · exact regular_of_settings [] (by rw [none]; rfl) List.nodup_nil
  · exact regular_of_settings [t] (by rw [one]; rfl) (List.nodup_singleton _)

/-- What a single source gives wins. -/
theorem winning?_singleton (source : Source) : winning? [source] s = given? source s := by
  cases given : given? source s with
  | none => simp [winning?, filled?, highest?, given]
  | some v => cases table : v.isTable <;>
    simp [winning?, filled?, highest?, given, table, Option.filter_some]

end

/-- The standard settings are what the **defaults** give. -/
theorem takes_standard (s : Setting) :
    s.field.Takes (winning? [defaults] s) (s.of standard) := by
  rw [winning?_singleton, given?, assigned_defaults]
  cases s <;> rfl

section

variable {fs : FileSystem} {name : Path} {environment : Environment.Variables}
  {port rootDir : Option String} {file : Source} {t : TextSetting} {v : Value} {s : String}

/-- If a file, an environment and the explicit values come to a **single assignment** of a text,
the settings are the standard ones with that text. -/
theorem loadFrom_of_only (read : fileEntries fs name = .ok file)
    (only : [overrides port rootDir, Environment.entries environment, file].flatMap assigned
      = [⟨t.setting.place, v⟩])
    (text : v.string? = .ok s) :
    loadFrom fs name environment port rootDir = .ok (t.set s standard) := by
  have regular := regular_of_only only
  have whole : v.isTable = false := by
    cases v with
    | table => cases text
    | _ => rfl
  rw [loadFrom_eq_ok_iff read (regular file (by simp))
    (regular (Environment.entries environment) (by simp))]
  intro other
  change other.field.Takes (winning? ([overrides port rootDir, Environment.entries environment,
    file] ++ [defaults]) other) _
  by_cases same : other = t.setting
  · subst same
    rw [winning?_of_only only whole]
    exact TextSetting.takes_set text standard
  · rw [winning?_append_of_unset (given?_of_only only same), TextSetting.of_set_of_ne same]
    exact takes_standard other

end

/-! ## Environments -/

namespace Environment

/-- An environment is **silent** if none of its variables sets a value or the port. -/
def Silent (environment : Variables) : Prop :=
  ∀ v ∈ environment, key? v.1 = none ∧ v.1 ≠ portVariable

/-- An environment sets **only one value**: one variable is given a text, and the others are
silent. -/
def SetsOnly (name text : String) (environment : Variables) : Prop :=
  ∃ before after, environment = before ++ (name, text) :: after ∧ Silent (before ++ after)

variable {environment : Variables} {name key text : String}

theorem Silent.entries_eq (h : Silent environment) : entries environment = [] := by
  rw [entries, List.filterMap_eq_nil_iff]
  rintro ⟨name, text⟩ there
  have silent : key? name = none := (h _ there).1
  simp only [silent, Option.map_none]

theorem Silent.lookup_port (h : Silent environment) : environment.lookup portVariable = none := by
  rw [List.lookup_eq_none_iff]
  intro v there
  simpa using (h v there).2.symm

/-- The one value is all that **comes of the environment**. -/
theorem SetsOnly.entries_eq (h : SetsOnly name text environment) (named : key? name = some key) :
    entries environment = [(key, value text)] := by
  obtain ⟨before, after, rfl, silent⟩ := h
  obtain ⟨first, last⟩ := List.forall_mem_append.mp silent
  calc entries (before ++ (name, text) :: after)
      = entries before ++ entries ((name, text) :: after) := List.filterMap_append
    _ = entries ((name, text) :: after) := by rw [Silent.entries_eq first, List.nil_append]
    _ = (key, value text) :: entries after :=
      List.filterMap_cons_some (by simp only [named, Option.map_some])
    _ = [(key, value text)] := by rw [Silent.entries_eq last]

theorem SetsOnly.lookup_port (h : SetsOnly name text environment) (other : name ≠ portVariable) :
    environment.lookup portVariable = none := by
  obtain ⟨before, after, rfl, silent⟩ := h
  obtain ⟨first, last⟩ := List.forall_mem_append.mp silent
  have miss : (portVariable == name) = false := by simpa using other.symm
  rw [List.lookup_append, Silent.lookup_port first, Option.none_or, List.lookup_cons, miss]
  exact Silent.lookup_port last

end Environment

/-! ## The three ways -/

open Environment (Silent SetsOnly respelled Kept)

namespace TextSetting

/-- The variable of a setting names the key of the setting. -/
theorem key?_inEnvironment (t : TextSetting) : Environment.key? t.inEnvironment = some t.key := by
  cases t <;> cbv

/-- The key of a setting leads to its place. -/
theorem place_ofKey_key (t : TextSetting) : (KeyPath.ofKey t.key).place = t.setting.place := by
  cases t <;> cbv

theorem inEnvironment_ne_port (t : TextSetting) : t.inEnvironment ≠ portVariable := by
  cases t <;> decide

/-- The **entries** of a document of one string. -/
def entries (t : TextSetting) (o : Origin) (s : String) : Source :=
  match t with
  | rootDir => [("root_dir", .string o s)]
  | host => [("server", .table o [("host", .string o s)])]
  | level => [("logging", .table o [("level", .string o s)])]
  | accessLogFormat => [("logging", .table o [("access_log_format", .string o s)])]

/-- They assign the setting that string. -/
theorem assigned_entries (t : TextSetting) (o : Origin) (s : String) :
    assigned (t.entries o s) = [⟨t.setting.place, .string o s⟩] := by
  cases t <;> dsimp only [entries] <;> cbv

/-- A document of one string is read as its **entries**, however the string is spelled. -/
theorem read?_document (t : TextSetting) {spelling : Text} {s : String}
    (h : Toml.string? spelling = some (s.toList, [])) (o : Origin) :
    Toml.read? o (t.document spelling) = some (t.entries o s) := by
  have read (parts : List Text) {c : Char} {more : Text} {source : Source}
      (whole : t.document spelling = c :: more) (bare : Toml.isBareKeyChar c = true)
      (key : Toml.key? (c :: more) = some (parts, '=' :: ' ' :: spelling))
      (assign : (Toml.Node.assign? (Toml.splitLast parts).1 (Toml.splitLast parts).2
        (.scalar (.string s.toList)) .header []).map (Toml.entryValues o) = some source) :
      Toml.read? o (t.document spelling) = some source := by
    rw [Toml.read?, whole, Toml.document?_of_string? bare key h, assign]
  have back : t.entries o s = t.entries o (String.ofList s.toList) := by
    rw [String.ofList_toList]
  rw [back]
  cases t with
  | rootDir => exact read ["root_dir".toList] rfl (by decide) rfl rfl
  | host => exact read ["server".toList, "host".toList] rfl (by decide) rfl rfl
  | level => exact read ["logging".toList, "level".toList] rfl (by decide) rfl rfl
  | accessLogFormat =>
    exact read ["logging".toList, "access_log_format".toList] rfl (by decide) rfl rfl

end TextSetting

section

variable {fs : FileSystem} {environment : Environment.Variables} {t : TextSetting} {s : String}

/-- Where there is no file, a **variable** sets the setting to what comes back from its text. -/
theorem load_of_variable (noFile : findFile? fs (fileNameIn environment) = none)
    (only : SetsOnly t.inEnvironment s environment) :
    load fs environment [] = .ok (t.set (respelled s) standard) := by
  have read : fileEntries fs (fileNameIn environment) = .ok [] := by rw [fileEntries, noFile]
  have whole : (Environment.value s).isTable = false := by
    rcases Environment.value_cases s with ⟨b, same⟩ | ⟨k, same, -, -⟩ | ⟨x, same⟩ | same <;>
      rw [same] <;> rfl
  rw [load, only.lookup_port t.inEnvironment_ne_port]
  refine loadFrom_of_only read ?_ (Environment.string?_value s)
  rw [only.entries_eq t.key?_inEnvironment]
  simp [assigned, overrides, (Value.assignments_of_not_table whole).1, Assignment.under,
    t.place_ofKey_key]

/-- Where there is no file, the first **argument** is the root directory as it stands. -/
theorem load_of_argument (noFile : findFile? fs (fileNameIn environment) = none)
    (silent : Silent environment) (more : List String) :
    load fs environment (s :: more) = .ok (TextSetting.rootDir.set s standard) := by
  have read : fileEntries fs (fileNameIn environment) = .ok [] := by rw [fileEntries, noFile]
  rw [load, silent.lookup_port]
  refine loadFrom_of_only (v := .string none s) read ?_ rfl
  rw [silent.entries_eq, List.flatMap_cons, List.head?_cons, assigned_overrides]
  rfl

/-- A **file** of one string sets the setting to that string, however it is spelled. -/
theorem load_of_document {p : Path} {spelling : Text}
    (found : findFile? fs (fileNameIn environment) = some (p, .toml))
    (text : readText? fs p = some (t.document spelling))
    (string : Toml.string? spelling = some (s.toList, [])) (silent : Silent environment) :
    load fs environment [] = .ok (t.set s standard) := by
  let origin : Origin := some (String.ofList (shownPath p))
  have read : fileEntries fs (fileNameIn environment) = .ok (t.entries origin s) := by
    simp only [fileEntries, found, text, Language.read?]
    rw [t.read?_document string]
  rw [load, silent.lookup_port]
  refine loadFrom_of_only (v := .string origin s) read ?_ rfl
  rw [silent.entries_eq, List.flatMap_cons, List.flatMap_cons, List.flatMap_cons,
    t.assigned_entries]
  rfl

/-- What holds of a setting and a **text that comes to it**. By a variable and without a file the
settings are the standard ones with what comes back from the text, and that is the text itself
exactly if it is kept, as every text with a slash in it is. An argument without a file, and a file
that assigns the setting a string of that content, give the standard settings with the text as it
stands; and there is such a file for every text. -/
structure TakesText (t : TextSetting) (s : String) : Prop where
  fromVariable {fs : FileSystem} {environment : Environment.Variables} :
    findFile? fs (fileNameIn environment) = none → SetsOnly t.inEnvironment s environment →
    load fs environment [] = .ok (t.set (respelled s) standard)
  agrees : t.set (respelled s) standard = t.set s standard ↔ Kept s
  slash : '/' ∈ s.toList → Kept s
  fromArgument {fs : FileSystem} {environment : Environment.Variables} (more : List String) :
    t = .rootDir → findFile? fs (fileNameIn environment) = none → Silent environment →
    load fs environment (s :: more) = .ok (t.set s standard)
  fromFile {fs : FileSystem} {environment : Environment.Variables} {p : Path} {spelling : Text} :
    findFile? fs (fileNameIn environment) = some (p, .toml) →
    readText? fs p = some (t.document spelling) →
    Toml.string? spelling = some (s.toList, []) → Silent environment →
    load fs environment [] = .ok (t.set s standard)
  spelled : Toml.string? (Toml.quoted s.toList) = some (s.toList, [])

/-- **Text settings take what they are given**, by an argument and by a file for every text, and by
a variable exactly for the texts that are kept. -/
theorem load_takes_text (t : TextSetting) (s : String) : TakesText t s where
  fromVariable := load_of_variable
  agrees := TextSetting.set_inj.trans Environment.respelled_eq_iff
  slash := Kept.of_slash
  fromArgument more root noFile silent := by
    subst root
    exact load_of_argument noFile silent more
  fromFile := load_of_document
  spelled := Toml.string?_quoted s.toList

end

/-- Without files no configuration file is found. -/
theorem findFile?_noFiles (name : Path) : findFile? noFiles name = none := by
  simp [findFile?, isFile, noFiles, Language.extensions]

/-- A directory comes to the root by its variable, by an argument and by a file. -/
theorem load_takes_text_srv :
    let standing := { standard with rootDir := "/srv/1.0" }
    let silent : Environment.Variables := [("HOME", "/root")]
    let fs := oneFile (.ofString "gzserve.toml") "root_dir = '/srv/1.0'"
    load noFiles (silent ++ [("GZSERVE__ROOT_DIR", "/srv/1.0")]) [] = .ok standing ∧
    load noFiles silent ["/srv/1.0"] = .ok standing ∧
    load fs silent [] = .ok standing := by
  intro standing environment fs
  have taken : TakesText .rootDir "/srv/1.0" := load_takes_text .rootDir "/srv/1.0"
  have silent : Silent environment := by
    dsimp only [environment, Silent]
    simp only [List.forall_mem_singleton]
    exact ⟨by cbv, by decide⟩
  have only : SetsOnly "GZSERVE__ROOT_DIR" "/srv/1.0"
      (environment ++ [("GZSERVE__ROOT_DIR", "/srv/1.0")]) :=
    ⟨environment, [], rfl, by rwa [List.append_nil]⟩
  refine ⟨?_, ?_, ?_⟩
  · have loaded := taken.fromVariable (findFile?_noFiles _) only
    rw [taken.agrees.mpr (taken.slash (by decide))] at loaded
    exact loaded
  · exact taken.fromArgument [] rfl (findFile?_noFiles _) silent
  · have found : findFile? fs (fileNameIn environment)
        = some (.ofString "gzserve.toml", .toml) := by
      dsimp only [fs, environment]
      cbv
    have string : Toml.string? "'/srv/1.0'".toList = some ("/srv/1.0".toList, []) := by cbv
    exact taken.fromFile found (readText?_oneFile _ _) string silent

/-- **A directory changes its name** on the way through its variable: the root directory is another
one than by an argument or by a file. -/
theorem variable_renames_directory :
    load noFiles [("GZSERVE__ROOT_DIR", "1.0")] [] = .ok { standard with rootDir := "1" } ∧
    load noFiles [] ["1.0"] = .ok { standard with rootDir := "1.0" } ∧
    load (oneFile (Path.ofString "gzserve.toml") "root_dir = '1.0'") [] []
      = .ok { standard with rootDir := "1.0" } := by
  refine ⟨?_, ?_, ?_⟩ <;> cbv

end StaticGzip.Config
