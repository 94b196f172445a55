import StaticGzip.Config.Load
import StaticGzip.Fault

/-! # The settings of a process

The system gives a process its arguments and variables, which need not be text. Where a text must be
and is none, the program panics; it also panics at a position of a key that is out of reach. What
becomes of a configuration file in a language that is not read here is not told.

* **`SystemText`** — what the system gives as a text.
* **`Process`** — what a process is given.
* **`Config.loadFor`** — the settings of a process. -/

namespace StaticGzip

/-! ## What the system gives -/

/-- What the **system gives as a text**: a text, or bytes that are none. -/
inductive SystemText where
  | text (s : String)
  | other
deriving DecidableEq, Repr

namespace SystemText

/-- The text, if it is one. -/
def text? : SystemText → Option String
  | text s => some s
  | other => none

/-- What some bytes are as a text. -/
def ofBytes (bytes : List UInt8) : SystemText :=
  match String.fromUTF8? ⟨bytes.toArray⟩ with
  | some s => text s
  | none => other

end SystemText

/-- What a **process is given**: its name with its arguments, and its variables. -/
structure Process where
  arguments : List SystemText
  environment : List (SystemText × SystemText)
deriving DecidableEq, Repr

namespace Process

/-- A variable as the system lists it: its name, an equals sign, and its value. -/
def variableOf? : List UInt8 → Option (SystemText × SystemText)
  | [] => none
  | first :: rest =>
    let isSign (b : UInt8) : Bool := b == 61
    match rest.dropWhile (!isSign ·) with
    | [] => none
    | _ :: value => some (.ofBytes (first :: rest.takeWhile (!isSign ·)), .ofBytes value)

/-- The **text of a variable**, if it is set to one. -/
def valueOf? (p : Process) (name : String) : Option String :=
  (p.environment.lookup (.text name)).bind SystemText.text?

/-- The variables, if all of them are text. -/
def environment? (p : Process) : Option Config.Environment.Variables :=
  p.environment.mapM fun (name, value) => do some (← name.text?, ← value.text?)

/-- The name of the program and its first argument, as far as there are any, if they are text. -/
def firstArguments? (p : Process) : Option (List String) :=
  (p.arguments.take 2).mapM SystemText.text?

end Process

namespace Config

/-! ## Trees -/

/-- A root with **one more value**, if all positions on the way to it are in reach. -/
def assign? (outOfReach : KeyPath.OutOfReach) (root : Value) : String × Value → Option Value
  | (key, v) =>
    let path := KeyPath.ofKey key
    if path.isInReach outOfReach root then some (path.set v root) else none

/-- The values of all sources laid over one another, if all positions are in reach. -/
def build? (outOfReach : KeyPath.OutOfReach) (sources : List (List (String × Value))) :
    Option Value :=
  sources.flatten.foldlM (assign? outOfReach) .emptyTable

/-! ## Settings -/

/-- How the **configuration file of a name** is read if it is in a language that is not read here.
Of several files that a name leads to it is not told which one is taken. -/
abbrev ForeignFiles := Path → Option (Except (Fault ConfigError) (List (String × Value)))

/-- The entries of the configuration file of a name in any language. -/
def readFile (fs : FileSystem) (foreign : ForeignFiles) (name : Path) :
    Except (Fault ConfigError) (List (String × Value)) :=
  match foreign name with
  | some read => read
  | none => (fileEntries fs name).mapError .error

/-- The name of the configuration file of a process. -/
def fileNameOf (p : Process) : Path :=
  .ofString ((p.valueOf? nameVariable).getD defaultName)

/-- The **settings of a process**. Nothing is known of its arguments after the first one. -/
def loadFor (fs : FileSystem) (foreign : ForeignFiles) (outOfReach : KeyPath.OutOfReach)
    (p : Process) : Except (Fault ConfigError) Settings := do
  let arguments ← Fault.orPanic p.firstArguments?
  let file ← readFile fs foreign (fileNameOf p)
  let environment ← Fault.orPanic p.environment?
  let root ← Fault.orPanic
    (build? outOfReach (sources file environment (p.valueOf? portVariable) arguments[1]?))
  (Decode.settings? (KeyPath.entriesOf root)).mapError .error

end Config

end StaticGzip
