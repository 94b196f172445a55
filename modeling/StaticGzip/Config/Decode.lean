import StaticGzip.Config.Settings
import StaticGzip.Config.Value

/-! # Settings from configuration values

The root is a table of four entries: three sections and the root directory. A section is a table of
named fields, or an array of them in their order. Unknown entries are ignored, missing ones are an
error unless the field can do without.

* **`Field`** — how a field is read from its value, and what stands for it when it is missing.
* **`Decode.settings?`** — the settings of a root. -/

namespace StaticGzip.Config

/-- How a **field** is read: its name, its conversion, and what a missing one stands for in a table
and in an array. -/
structure Field (α : Type) where
  name : String
  convert : Value → Except ConfigError α
  missing : Option α
  beyond : Option α

namespace Decode

/-! ## Conversions of fields -/

/-- A port. -/
def port (v : Value) : Except ConfigError UInt16 := do
  let n ← v.unsigned?
  if n ≤ 65535 then .ok (UInt16.ofNat n)
  else .error (.type s!"64-bit unsigned integer \x60{n}\x60" "an unsigned 16 bit integer" none none)

/-- A number of 64 bits. -/
def word (v : Value) : Except ConfigError UInt64 := v.unsigned?.map UInt64.ofNat

/-- A number of 64 bits, or nothing. -/
def optionalWord : Value → Except ConfigError (Option UInt64)
  | .nil _ => .ok none
  | v => (word v).map some

/-! ## Sections -/

/-- A **section** that is being read: its name and its number of fields, for messages, and its
entries or items. -/
inductive Section where
  | table (entries : List (String × Value))
  | array (kind : String) (fields : Nat) (items : List Value)
deriving Repr

/-- The name of a kind of section in messages. -/
def wanted (kind : String) : String := s!"struct {kind}"

/-- What a value is called where a section was wanted. -/
def foundInstead : Value → String
  | .integer _ n => s!"integer \x60{n}\x60"
  | v => v.found

/-- The section of a value. -/
def section? (kind : String) (fields : Nat) : Value → Except ConfigError Section
  | .table _ entries => .ok (.table entries)
  | .array _ items => .ok (.array kind fields items)
  | v => .error (.message s!"invalid type: {foundInstead v}, expected {wanted kind}")

/-- The field at a position of a section. -/
def Section.field {α : Type} (s : Section) (position : Nat) (f : Field α) :
    Except ConfigError α :=
  match s with
  | .table entries =>
    match Value.lookup f.name entries, f.missing with
    | some v, _ => (f.convert v).mapError (·.within f.name)
    | none, some a => .ok a
    | none, none => .error (.message s!"missing field \x60{f.name}\x60")
  | .array kind fields items =>
    match items[position]?, f.beyond with
    | some v, _ => (f.convert v).mapError (·.within s!"[{position}]")
    | none, some a => .ok a
    | none, none => .error (.message
        s!"invalid length {position}, expected {wanted kind} with {fields} elements")

/-- A field that must be there. -/
def required {α : Type} (name : String) (convert : Value → Except ConfigError α) : Field α :=
  ⟨name, convert, none, none⟩

/-- A field that something else stands for when it is missing. -/
def defaulted {α : Type} (name : String) (convert : Value → Except ConfigError α) (a : α) :
    Field α :=
  ⟨name, convert, some a, some a⟩

/-- The **server** section. -/
def server (v : Value) : Except ConfigError ServerSettings := do
  let s ← section? "ServerConfig" 3 v
  let host ← s.field 0 (required "host" Value.string?)
  let port ← s.field 1 (required "port" port)
  let workers ← s.field 2 (defaulted "workers" optionalWord none)
  return ⟨host, port, workers⟩

/-- The format of access lines unless one is set. -/
def defaultFormat : String := "combined"

/-- The **logging** section. -/
def logging (v : Value) : Except ConfigError LoggingSettings := do
  let s ← section? "LoggingConfig" 3 v
  let level ← s.field 0 (required "level" Value.string?)
  let accessLog ← s.field 1 (required "access_log" Value.boolean?)
  let format ← s.field 2 (defaulted "access_log_format" Value.string? defaultFormat)
  return ⟨level, accessLog, format⟩

/-- The **performance** section. Only in a table may the last field be missing. -/
def performance (v : Value) : Except ConfigError PerformanceSettings := do
  let s ← section? "PerformanceConfig" 4 v
  let keepAlive ← s.field 0 (required "keep_alive_timeout" word)
  let read ← s.field 1 (required "read_timeout" word)
  let write ← s.field 2 (required "write_timeout" word)
  let connections ← s.field 3 ⟨"max_connections", optionalWord, some none, none⟩
  return ⟨keepAlive, read, write, connections⟩

/-- The **settings** of a root. -/
def settings? (entries : List (String × Value)) : Except ConfigError Settings := do
  let root := Section.table entries
  let server ← root.field 0 (required "server" server)
  let rootDir ← root.field 1 (required "root_dir" Value.string?)
  let logging ← root.field 2 (required "logging" logging)
  let performance ← root.field 3 (required "performance" performance)
  return ⟨server, rootDir, logging, performance⟩

end Decode

end StaticGzip.Config
