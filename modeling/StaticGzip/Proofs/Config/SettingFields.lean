import StaticGzip.Proofs.Config.Assignments
import StaticGzip.Proofs.Except

/-! # The eleven settings

Each setting is a field of a section, the root directory apart, which stands on its own. A tree of
values is read setting by setting: whatever is held at the end of a setting's keys is converted to
the setting's type, and where nothing is held something else may stand for it.

* **`Setting`** — the settings, each with its keys, its type and how it is read.
* **`settings?_eq_ok_iff`** — a tree with all sections is read setting by setting. -/

namespace StaticGzip.Config

/-! ## Fields -/

/-- What a field **takes** from what is held for it: the conversion of the value, or what stands for
a missing one. -/
def Field.Takes {α : Type} (f : Field α) (held : Option Value) (a : α) : Prop :=
  match held with
  | some v => f.convert v = .ok a
  | none => f.missing = some a

namespace Decode

/-- A **field of a table** is what it takes from the entry of its name. -/
theorem field_eq_ok_iff {α : Type} {entries : List (String × Value)} {position : Nat}
    {f : Field α} {a : α} :
    (Section.table entries).field position f = .ok a ↔ f.Takes (Value.lookup f.name entries) a := by
  cases held : Value.lookup f.name entries with
  | some v => simp only [Section.field, held, mapError_eq_ok_iff, Field.Takes]
  | none => cases missing : f.missing <;> simp [Section.field, held, Field.Takes, missing]

end Decode

/-! ## Settings -/

/-- One of the **eleven settings**. -/
inductive Setting where
  | host
  | port
  | workers
  | rootDir
  | level
  | accessLog
  | accessLogFormat
  | keepAliveTimeout
  | readTimeout
  | writeTimeout
  | maxConnections
deriving DecidableEq, Repr

namespace Setting

/-- The names of the **sections**. -/
def sections : List String := ["server", "logging", "performance"]

/-- The **keys** that lead to a setting. -/
def keys : Setting → List String
  | host => ["server", "host"]
  | port => ["server", "port"]
  | workers => ["server", "workers"]
  | rootDir => ["root_dir"]
  | level => ["logging", "level"]
  | accessLog => ["logging", "access_log"]
  | accessLogFormat => ["logging", "access_log_format"]
  | keepAliveTimeout => ["performance", "keep_alive_timeout"]
  | readTimeout => ["performance", "read_timeout"]
  | writeTimeout => ["performance", "write_timeout"]
  | maxConnections => ["performance", "max_connections"]

/-- The place of a setting. -/
def place (s : Setting) : Place := .ofKeys s.keys

/-- The **type** of a setting. -/
def Content : Setting → Type
  | host => String
  | port => UInt16
  | workers => Option UInt64
  | rootDir => String
  | level => String
  | accessLog => Bool
  | accessLogFormat => String
  | keepAliveTimeout => UInt64
  | readTimeout => UInt64
  | writeTimeout => UInt64
  | maxConnections => Option UInt64

open Decode (required defaulted word optionalWord) in
/-- How a setting is **read**. Two settings can do without a value, and a third one has a value of
its own for a missing one. -/
def field : (s : Setting) → Field s.Content
  | host => required "host" Value.string?
  | port => required "port" Decode.port
  | workers => defaulted "workers" optionalWord none
  | rootDir => required "root_dir" Value.string?
  | level => required "level" Value.string?
  | accessLog => required "access_log" Value.boolean?
  | accessLogFormat => defaulted "access_log_format" Value.string? Decode.defaultFormat
  | keepAliveTimeout => required "keep_alive_timeout" word
  | readTimeout => required "read_timeout" word
  | writeTimeout => required "write_timeout" word
  | maxConnections => ⟨"max_connections", optionalWord, some none, none⟩

/-- A setting among **all of them**. -/
def of : (s : Setting) → Settings → s.Content
  | host, all => all.server.host
  | port, all => all.server.port
  | workers, all => all.server.workers
  | rootDir, all => all.rootDir
  | level, all => all.logging.level
  | accessLog, all => all.logging.accessLog
  | accessLogFormat, all => all.logging.accessLogFormat
  | keepAliveTimeout, all => all.performance.keepAliveTimeout
  | readTimeout, all => all.performance.readTimeout
  | writeTimeout, all => all.performance.writeTimeout
  | maxConnections, all => all.performance.maxConnections

/-- All settings from **each of them**. -/
def gather (each : (s : Setting) → s.Content) : Settings :=
  ⟨⟨each host, each port, each workers⟩, each rootDir,
    ⟨each level, each accessLog, each accessLogFormat⟩,
    ⟨each keepAliveTimeout, each readTimeout, each writeTimeout, each maxConnections⟩⟩

@[simp] theorem of_gather (each : (s : Setting) → s.Content) (s : Setting) :
    s.of (gather each) = each s := by
  cases s <;> rfl

/-- A setting stands at a key of the root, or at a key of a section. -/
theorem keys_cases (s : Setting) :
    s.keys = ["root_dir"] ∨ ∃ name ∈ sections, ∃ key, s.keys = [name, key] := by
  cases s <;> simp [keys, sections]

end Setting

/-! ## Reading a tree -/

/-- A tree **has a section**: a table at a key of its root. -/
def HasSection (name : String) (root : Value) : Prop :=
  ∃ o entries, Value.lookup name (KeyPath.entriesOf root) = some (.table o entries)

/-- What is held at a key of a section is an entry of the section. -/
theorem at?_of_section {name : String} {root : Value} {o : Origin}
    {entries : List (String × Value)}
    (has : Value.lookup name (KeyPath.entriesOf root) = some (.table o entries)) (key : String) :
    Value.at? [name, key] (some root) = Value.lookup key entries := by
  simp only [Value.at?, Option.bind_some, has]
  rfl

namespace Decode

variable {o : Origin} {entries : List (String × Value)}

/-- The server section is read setting by setting. -/
theorem server_eq_ok_iff {s : ServerSettings} :
    server (.table o entries) = .ok s ↔
      Setting.host.field.Takes (Value.lookup "host" entries) s.host ∧
      Setting.port.field.Takes (Value.lookup "port" entries) s.port ∧
      Setting.workers.field.Takes (Value.lookup "workers" entries) s.workers := by
  simp only [server, section?, bind_eq_ok_iff, field_eq_ok_iff, pure, Except.pure, Except.ok.injEq,
    exists_eq_left']
  constructor
  · rintro ⟨_, host, _, port, _, workers, rfl⟩
    exact ⟨host, port, workers⟩
  · rintro ⟨host, port, workers⟩
    exact ⟨_, host, _, port, _, workers, rfl⟩

/-- The logging section is read setting by setting. -/
theorem logging_eq_ok_iff {s : LoggingSettings} :
    logging (.table o entries) = .ok s ↔
      Setting.level.field.Takes (Value.lookup "level" entries) s.level ∧
      Setting.accessLog.field.Takes (Value.lookup "access_log" entries) s.accessLog ∧
      Setting.accessLogFormat.field.Takes (Value.lookup "access_log_format" entries)
        s.accessLogFormat := by
  simp only [logging, section?, bind_eq_ok_iff, field_eq_ok_iff, pure, Except.pure, Except.ok.injEq,
    exists_eq_left']
  constructor
  · rintro ⟨_, level, _, accessLog, _, format, rfl⟩
    exact ⟨level, accessLog, format⟩
  · rintro ⟨level, accessLog, format⟩
    exact ⟨_, level, _, accessLog, _, format, rfl⟩

/-- The performance section is read setting by setting. -/
theorem performance_eq_ok_iff {s : PerformanceSettings} :
    performance (.table o entries) = .ok s ↔
      Setting.keepAliveTimeout.field.Takes (Value.lookup "keep_alive_timeout" entries)
        s.keepAliveTimeout ∧
      Setting.readTimeout.field.Takes (Value.lookup "read_timeout" entries) s.readTimeout ∧
      Setting.writeTimeout.field.Takes (Value.lookup "write_timeout" entries) s.writeTimeout ∧
      Setting.maxConnections.field.Takes (Value.lookup "max_connections" entries)
        s.maxConnections := by
  simp only [performance, section?, bind_eq_ok_iff, field_eq_ok_iff, pure, Except.pure,
    Except.ok.injEq, exists_eq_left']
  constructor
  · rintro ⟨_, keepAlive, _, read, _, write, _, connections, rfl⟩
    exact ⟨keepAlive, read, write, connections⟩
  · rintro ⟨keepAlive, read, write, connections⟩
    exact ⟨_, keepAlive, _, read, _, write, _, connections, rfl⟩

/-- The root is read section by section. -/
theorem settings?_eq_ok_iff_sections {s : Settings} {server' logging' performance' : Value}
    (hasServer : Value.lookup "server" entries = some server')
    (hasLogging : Value.lookup "logging" entries = some logging')
    (hasPerformance : Value.lookup "performance" entries = some performance') :
    settings? entries = .ok s ↔
      server server' = .ok s.server ∧
      Setting.rootDir.field.Takes (Value.lookup "root_dir" entries) s.rootDir ∧
      logging logging' = .ok s.logging ∧ performance performance' = .ok s.performance := by
  simp only [settings?, bind_eq_ok_iff, field_eq_ok_iff, pure, Except.pure, Except.ok.injEq]
  simp only [required, hasServer, hasLogging, hasPerformance]
  constructor
  · rintro ⟨_, server, _, rootDir, _, logging, _, performance, rfl⟩
    exact ⟨server, rootDir, logging, performance⟩
  · rintro ⟨server, rootDir, logging, performance⟩
    exact ⟨_, server, _, rootDir, _, logging, _, performance, rfl⟩

/-- Where a root is read, its **server section** was there and was read. -/
theorem exists_server_of_settings? {s : Settings} (h : settings? entries = .ok s) :
    ∃ v, Value.lookup "server" entries = some v ∧ server v = .ok s.server := by
  obtain ⟨server', taken, h⟩ := bind_eq_ok_iff.mp h
  obtain ⟨rootDir, -, h⟩ := bind_eq_ok_iff.mp h
  obtain ⟨logging, -, h⟩ := bind_eq_ok_iff.mp h
  obtain ⟨performance, -, h⟩ := bind_eq_ok_iff.mp h
  cases h
  have read := field_eq_ok_iff.mp taken
  rw [Field.Takes.eq_def] at read
  split at read
  · rename_i v found
    exact ⟨v, found, read⟩
  · cases read

/-- A tree with all sections is read **setting by setting**. -/
theorem settings?_eq_ok_iff {root : Value} {all : Settings}
    (has : ∀ name ∈ Setting.sections, HasSection name root) :
    settings? (KeyPath.entriesOf root) = .ok all ↔
      ∀ s : Setting, s.field.Takes (Value.at? s.keys (some root)) (s.of all) := by
  obtain ⟨o, server, hasServer⟩ := has "server" (by decide)
  obtain ⟨o', logging, hasLogging⟩ := has "logging" (by decide)
  obtain ⟨o'', performance, hasPerformance⟩ := has "performance" (by decide)
  have atServer := at?_of_section hasServer
  have atLogging := at?_of_section hasLogging
  have atPerformance := at?_of_section hasPerformance
  rw [settings?_eq_ok_iff_sections hasServer hasLogging hasPerformance, server_eq_ok_iff,
    logging_eq_ok_iff, performance_eq_ok_iff]
  constructor
  · rintro ⟨⟨host, port, workers⟩, rootDir, ⟨level, accessLog, format⟩,
      keepAlive, read, write, connections⟩ s
    cases s <;> simp only [Setting.keys, atServer, atLogging, atPerformance] <;> assumption
  · intro each
    simp only [← atServer, ← atLogging, ← atPerformance]
    exact ⟨⟨each .host, each .port, each .workers⟩, each .rootDir,
      ⟨each .level, each .accessLog, each .accessLogFormat⟩,
      each .keepAliveTimeout, each .readTimeout, each .writeTimeout, each .maxConnections⟩

end Decode

end StaticGzip.Config
