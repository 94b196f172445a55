import StaticGzip.Config.Decode
import StaticGzip.Config.Environment
import StaticGzip.Config.JsonDocument
import StaticGzip.Config.Toml.Document
import StaticGzip.FileSystem

/-! # Loading the settings

Four sources are laid over one another: the defaults, a configuration file, the environment, and at
last the port and the root directory that are given explicitly. Of the configuration files, those in
TOML and in JSON are read here.

* **`Config.findFile?`** — the configuration file of a name.
* **`Config.load`** — the settings from all sources. -/

namespace StaticGzip.Config

/-! ## Configuration files -/

/-- The **language** of a configuration file. Files in YAML (`.yaml`, `.yml`), INI (`.ini`), RON
(`.ron`) and JSON5 (`.json5`) are left out: here a name that leads to nothing else has no
configuration file. -/
inductive Language where
  | toml
  | json
deriving DecidableEq, Repr

/-- The extensions of the files of each language. -/
def Language.extensions : List (Text × Language) :=
  [("toml".toList, .toml), ("json".toList, .json)]

/-- The entries of a file in its language. -/
def Language.read? : Language → Origin → Text → Option (List (String × Value))
  | .toml => Toml.read?
  | .json => JsonDocument.read?

/-- The last name of a path, if it ends in one. -/
def fileName? (p : Path) : Option Text :=
  match p.components.getLast? with
  | some (.name n) => some n
  | _ => none

/-- The extension of a file name without its dot; a dot at the start begins none. -/
def nameExtension? (name : Text) : Option Text :=
  let suffix := (name.reverse.takeWhile (· != '.')).reverse
  if suffix.length + 1 < name.length then some suffix else none

/-- A path of the same file in another spelling: parents joined, blanks left out. -/
def shownPath (p : Path) : Text :=
  ['/'].intercalate (p.components.filterMap fun
    | .name n => some n
    | .parent => some ['.', '.']
    | _ => none)

/-- The path whose last name has another extension after all that it has; slashes after the name
are dropped. -/
def withExtension? (p : Path) (extension : Text) : Option Path :=
  (fileName? p).map fun _ =>
    let kept := p.text.reverse.dropWhile (· == '/')
    let kept := dropDots kept
    ⟨kept.reverse ++ '.' :: extension⟩
where
  /-- A reversed path without the blank segments at its end. -/
  dropDots : Text → Text
    | '.' :: '/' :: t => dropDots (t.dropWhile (· == '/'))
    | t => t
  termination_by t => t.length
  decreasing_by
    have := (List.dropWhile_sublist (l := t) (· == '/')).length_le
    simp; omega

/-- Whether there is a regular file at a path. -/
def isFile (fs : FileSystem) (p : Path) : Bool :=
  match fs.stat p with
  | .ok found => found.isFile
  | .error _ => false

/-- The **configuration file of a name**: the file of that very name if its extension tells a
language, and otherwise the name with the extension of a language. -/
def findFile? (fs : FileSystem) (name : Path) : Option (Path × Language) :=
  if isFile fs name then do
    let extension ← nameExtension? (← fileName? name)
    (Language.extensions.lookup extension).map (name, ·)
  else
    Language.extensions.findSome? fun (extension, language) => do
      let p ← withExtension? name extension
      if isFile fs p then some (p, language) else none

/-- The text of a file, if it can be read and is text. -/
def readText? (fs : FileSystem) (p : Path) : Option Text :=
  match fs.read p with
  | .ok content => (String.fromUTF8? content).map String.toList
  | .error _ => none

/-- The entries of the configuration file of a name. A file that cannot be found or read counts
for nothing; one that cannot be understood is an error. -/
def fileEntries (fs : FileSystem) (name : Path) : Except ConfigError (List (String × Value)) :=
  match findFile? fs name with
  | none => .ok []
  | some (p, language) =>
    match readText? fs p with
    | none => .ok []
    | some text =>
      let origin := String.ofList (shownPath p)
      match language.read? (some origin) text with
      | some entries => .ok entries
      | none => .error (.unreadable origin)

/-! ## All sources -/

/-- The values that hold where no source gives another one. -/
def defaults : List (String × Value) := [
  ("server.host", .string none "0.0.0.0"),
  ("server.port", .integer none 80),
  ("root_dir", .string none "."),
  ("logging.level", .string none "info"),
  ("logging.access_log", .boolean none true),
  ("logging.access_log_format", .string none Decode.defaultFormat),
  ("performance.keep_alive_timeout", .integer none 75),
  ("performance.read_timeout", .integer none 30),
  ("performance.write_timeout", .integer none 30)]

/-- The explicit values, which hold whatever the other sources say. -/
def overrides (port rootDir : Option String) : List (String × Value) :=
  (port.map fun s => ("server.port", Value.string none s)).toList
    ++ (rootDir.map fun s => ("root_dir", Value.string none s)).toList

/-- A root with the values of one more source laid over it. -/
def overlay (root : Value) (source : List (String × Value)) : Value :=
  source.foldl (fun root (key, v) => KeyPath.set (KeyPath.ofKey key) v root) root

/-- The sources in the order in which they are laid over one another. -/
def sources (file : List (String × Value)) (environment : Environment.Variables)
    (port rootDir : Option String) : List (List (String × Value)) :=
  [defaults, file, Environment.entries environment, overrides port rootDir]

/-- The settings from the configuration file of a name, an environment, and explicit values. -/
def loadFrom (fs : FileSystem) (name : Path) (environment : Environment.Variables)
    (port rootDir : Option String) : Except ConfigError Settings := do
  let file ← fileEntries fs name
  let root := (sources file environment port rootDir).foldl overlay .emptyTable
  Decode.settings? (KeyPath.entriesOf root)

/-- The configuration file unless the environment names another one. -/
def defaultName : String := "gzserve"

/-- The variable that names the configuration file. -/
def nameVariable : String := "GZSERVE_CONFIG"

/-- The variable that sets the port. -/
def portVariable : String := "PORT"

/-- The name of the configuration file in an environment. -/
def fileNameIn (environment : Environment.Variables) : Path :=
  .ofString ((environment.lookup nameVariable).getD defaultName)

/-- The paths at which a configuration file of a name may be. -/
def candidates (name : Path) : List Path :=
  name :: Language.extensions.filterMap fun (extension, _) => withExtension? name extension

/-- The **settings from all sources**. The root directory may be the first argument. -/
def load (fs : FileSystem) (environment : Environment.Variables) (arguments : List String) :
    Except ConfigError Settings :=
  loadFrom fs (fileNameIn environment) environment (environment.lookup portVariable) arguments.head?

end StaticGzip.Config
