import StaticGzip.Proofs.Config.NumberSettings
import StaticGzip.Proofs.Config.ProcessSettings
import StaticGzip.Proofs.FilterCuts
import StaticGzip.Server.Program

/-! # The stages of a start

A start comes to one stage after the other and stops at the first one that does not succeed. Either
all of them succeed, and then the server says so and accepts connections, or it does neither and the
program ends with what that stage reports, or with a panic of that stage.

Of the panics, some are made by what the process is given, such as an argument that is no text or a
filter that is cut inside a character, and others by the system or by what reads files and patterns.
In surroundings without any of them one is left, and it is made by a setting: if no worker threads
are asked for, the setting is accepted with all others, but the program panics.

* **`Surroundings.Succeeds`, `Surroundings.Stops`** — the surroundings in which all stages succeed,
  and those in which one stage ends the start, each in terms of what is done at the stages.
* **`Surroundings.Panics`, `Surroundings.IsCalm`** — all ways in which a stage panics, and the
  surroundings that leave one of them only.
* **`start_of_succeeds`, `start_of_stops`** — the whole start in such surroundings.
* **`start_serves_or_reports`** — there are no other starts, and no other panics.
* **`zero_workers_panic`** — a setting that is accepted and makes the program panic. -/

namespace StaticGzip

/-! ## Order -/

namespace Stage

/-- The stages in their **order**. -/
def all : List Stage := [.settings, .logger, .workers, .address, .bind]

/-- The stages up to one, and that one. -/
def upTo (s : Stage) : List Stage := all.takeWhile (· != s) ++ [s]

end Stage

/-! ## Surroundings -/

namespace Surroundings

variable (w : Surroundings)

/-- **All stages succeed** and make a server. -/
structure Succeeds (server : Started) : Prop where
  settings : w.load = .ok server.settings
  logger : w.logger server.settings = .ok server.filter
  someWorkers : server.settings.server.workers ≠ some 0
  workers : w.workers server.settings.server.workers = .ok ()
  address : server.settings.server.listenAddress? = .ok server.addr
  bind : w.bind server.addr = .ok ()

/-- The start **stops at a stage**, since all stages before it succeed and it does not, and this is
what becomes of the program: it ends with the error of that stage, or it panics there. -/
inductive Stops : Stage → Halt → Prop where
  | settings {fault : Fault ConfigError} (h : w.load = .error fault) :
    Stops .settings (.ofFault (.startup ∘ .config) fault)
  | logger {settings : Settings} {fault : Fault Logger.SetupError} (loaded : w.load = .ok settings)
    (h : w.logger settings = .error fault) :
    Stops .logger (.ofFault (.startup ∘ .logger ∘ Logger.SetupError.message) fault)
  | noWorkers {settings : Settings} {filter : LogFilter} (loaded : w.load = .ok settings)
    (logging : w.logger settings = .ok filter) (h : settings.server.workers = some 0) :
    Stops .workers .panic
  | workers {settings : Settings} {filter : LogFilter} {fault : Fault IoError}
    (loaded : w.load = .ok settings) (logging : w.logger settings = .ok filter)
    (someWorkers : settings.server.workers ≠ some 0)
    (h : w.workers settings.server.workers = .error fault) :
    Stops .workers (.ofFault .runtime fault)
  | address {settings : Settings} {filter : LogFilter} {e : StartupError}
    (loaded : w.load = .ok settings) (logging : w.logger settings = .ok filter)
    (someWorkers : settings.server.workers ≠ some 0)
    (working : w.workers settings.server.workers = .ok ())
    (h : settings.server.listenAddress? = .error e) : Stops .address (.startup e)
  | bind {settings : Settings} {filter : LogFilter} {addr : SocketAddress} {fault : Fault IoError}
    (loaded : w.load = .ok settings) (logging : w.logger settings = .ok filter)
    (someWorkers : settings.server.workers ≠ some 0)
    (working : w.workers settings.server.workers = .ok ())
    (formed : settings.server.listenAddress? = .ok addr) (h : w.bind addr = .error fault) :
    Stops .bind (.ofFault (.startup ∘ .bind addr) fault)

/-- The ways in which a stage **panics**. The address is formed without any. -/
inductive Panics : Stage → Prop where
  | settings (h : Config.LoadPanics w.files w.foreign w.outOfReach w.process) : Panics .settings
  | logger {settings : Settings} (loaded : w.load = .ok settings)
    (h : w.logger settings = .error .panic) : Panics .logger
  | noWorkers {settings : Settings} {filter : LogFilter} (loaded : w.load = .ok settings)
    (logging : w.logger settings = .ok filter) (h : settings.server.workers = some 0) :
    Panics .workers
  | workers {settings : Settings} {filter : LogFilter} (loaded : w.load = .ok settings)
    (logging : w.logger settings = .ok filter) (someWorkers : settings.server.workers ≠ some 0)
    (h : w.workers settings.server.workers = .error .panic) : Panics .workers
  | bind {settings : Settings} {filter : LogFilter} {addr : SocketAddress}
    (loaded : w.load = .ok settings) (logging : w.logger settings = .ok filter)
    (someWorkers : settings.server.workers ≠ some 0)
    (working : w.workers settings.server.workers = .ok ())
    (formed : settings.server.listenAddress? = .ok addr) (h : w.bind addr = .error .panic) :
    Panics .bind

/-- The surroundings are **calm**: the process is given texts only, none of them names a position
of an array, the filters can be cut, and what reads files and patterns, makes worker threads and
binds ports does not panic. To be asked for no worker threads is left out of this. -/
structure IsCalm : Prop where
  texts : w.process.IsText
  foreign : w.foreign (Config.fileNameOf w.process) ≠ some (.error .panic)
  positions : Config.NoPositions w.files w.foreign w.process
  patterns (t : Text) : w.patterns t ≠ .error .panic
  wanted : ∀ s ∈ w.process.valueOf? Logger.filterVariable, LogFilter.PartsKeepPlaces s.toList
  configured {settings : Settings} (loaded : w.load = .ok settings) :
    LogFilter.PartsKeepPlaces settings.logging.level.toList
  workers {settings : Settings} (loaded : w.load = .ok settings)
    (someWorkers : settings.server.workers ≠ some 0) :
    w.workers settings.server.workers ≠ .error .panic
  bind (addr : SocketAddress) : w.bind addr ≠ .error .panic

end Surroundings

/-! ## Whole starts -/

namespace Launch

variable {α β : Type}

/-- After a stage that **succeeds** the start goes on. -/
@[simp] theorem attempt_ok_bind {ε : Type} (s : Stage) (report : ε → Halt) (a : α)
    (f : α → Launch β) :
    (attempt s report (.ok a) >>= f) = ⟨.stage s :: (f a).acts, (f a).result⟩ := rfl

/-- A stage that **does not succeed** is the last one. -/
@[simp] theorem attempt_error_bind {ε : Type} (s : Stage) (report : ε → Halt) (fault : Fault ε)
    (f : α → Launch β) :
    (attempt s report (.error fault) >>= f) = ⟨[.stage s], .error (.ofFault report fault)⟩ := rfl

end Launch

section

variable {w : Surroundings}

open Launch Surroundings

/-- If **all stages succeed**, the start comes to each of them, says that the server has started,
and accepts connections. -/
theorem start_of_succeeds {server : Started} (h : w.Succeeds server) :
    start w = ⟨Stage.all.map .stage
      ++ (Logger.started server.addr server.settings).map .log ++ [.accept], .ok server⟩ := by
  rw [start, h.settings, attempt_ok_bind, h.logger, attempt_ok_bind, makeWorkers,
    if_neg h.someWorkers, h.workers, attempt_ok_bind, h.address, mapError_ok, attempt_ok_bind,
    h.bind]
  rfl

/-- If the start **stops at a stage**, it comes to those before it and to that one, and does nothing
else. -/
theorem start_of_stops {stage : Stage} {halt : Halt} (h : w.Stops stage halt) :
    start w = ⟨stage.upTo.map .stage, .error halt⟩ := by
  cases h with
  | settings h =>
    rw [start, h, attempt_error_bind]
    rfl
  | logger loaded h =>
    rw [start, loaded, attempt_ok_bind, h, attempt_error_bind]
    rfl
  | noWorkers loaded logging h =>
    rw [start, loaded, attempt_ok_bind, logging, attempt_ok_bind, makeWorkers, if_pos h,
      attempt_error_bind]
    rfl
  | workers loaded logging someWorkers h =>
    rw [start, loaded, attempt_ok_bind, logging, attempt_ok_bind, makeWorkers,
      if_neg someWorkers, h, attempt_error_bind]
    rfl
  | address loaded logging someWorkers working h =>
    rw [start, loaded, attempt_ok_bind, logging, attempt_ok_bind, makeWorkers,
      if_neg someWorkers, working, attempt_ok_bind, h, mapError_error, attempt_error_bind]
    rfl
  | bind loaded logging someWorkers working formed h =>
    rw [start, loaded, attempt_ok_bind, logging, attempt_ok_bind, makeWorkers,
      if_neg someWorkers, working, attempt_ok_bind, formed, mapError_ok, attempt_ok_bind, h,
      attempt_error_bind]
    rfl

end

/-- All stages succeed, or the start stops at one of them. -/
theorem succeeds_or_stops (w : Surroundings) :
    (∃ server, w.Succeeds server) ∨ ∃ stage halt, w.Stops stage halt := by
  cases settings : w.load with
  | error e => exact .inr ⟨_, _, .settings settings⟩
  | ok s =>
    cases logger : w.logger s with
    | error e => exact .inr ⟨_, _, .logger settings logger⟩
    | ok filter =>
      by_cases someWorkers : s.server.workers = some 0
      · exact .inr ⟨_, _, .noWorkers settings logger someWorkers⟩
      · cases workers : w.workers s.server.workers with
        | error e => exact .inr ⟨_, _, .workers settings logger someWorkers workers⟩
        | ok _ =>
          cases address : s.server.listenAddress? with
          | error e => exact .inr ⟨_, _, .address settings logger someWorkers workers address⟩
          | ok addr =>
            cases bind : w.bind addr with
            | error e => exact .inr ⟨_, _, .bind settings logger someWorkers workers address bind⟩
            | ok _ =>
              exact .inl ⟨⟨s, filter, addr⟩, settings, logger, someWorkers, workers, address, bind⟩

/-! ## Panics -/

/-- Where errors are reported, only a **panic** ends the program as one. -/
theorem Halt.eq_panic_of_ofFault {ε : Type} {report : ε → Halt} {fault : Fault ε}
    (reported : ∀ e, report e ≠ .panic) (h : ofFault report fault = .panic) : fault = .panic := by
  cases fault with
  | error e => exact absurd h (reported e)
  | panic => rfl

/-- The program **panics** exactly if a stage does. -/
theorem result_start_eq_panic_iff (w : Surroundings) :
    (start w).result = .error .panic ↔ ∃ stage, w.Panics stage := by
  constructor
  · intro panics
    obtain ⟨server, h⟩ | ⟨stage, halt, h⟩ := succeeds_or_stops w
    · rw [start_of_succeeds h] at panics
      cases panics
    · rw [start_of_stops h] at panics
      have ends : halt = .panic := Except.error.inj panics
      refine ⟨stage, ?_⟩
      clear panics
      cases h with
      | settings h =>
        rw [Halt.eq_panic_of_ofFault nofun ends] at h
        exact .settings (Config.loadFor_eq_panic_iff.mp h)
      | logger loaded h =>
        rw [Halt.eq_panic_of_ofFault nofun ends] at h
        exact .logger loaded h
      | noWorkers loaded logging h => exact .noWorkers loaded logging h
      | workers loaded logging someWorkers h =>
        rw [Halt.eq_panic_of_ofFault nofun ends] at h
        exact .workers loaded logging someWorkers h
      | address => cases ends
      | bind loaded logging someWorkers working formed h =>
        rw [Halt.eq_panic_of_ofFault nofun ends] at h
        exact .bind loaded logging someWorkers working formed h
  · rintro ⟨stage, h⟩
    cases h with
    | settings h =>
      rw [start_of_stops (.settings (Config.loadFor_eq_panic_iff.mpr h))]
      rfl
    | logger loaded h =>
      rw [start_of_stops (.logger loaded h)]
      rfl
    | noWorkers loaded logging h => rw [start_of_stops (.noWorkers loaded logging h)]
    | workers loaded logging someWorkers h =>
      rw [start_of_stops (.workers loaded logging someWorkers h)]
      rfl
    | bind loaded logging someWorkers working formed h =>
      rw [start_of_stops (.bind loaded logging someWorkers working formed h)]
      rfl

/-- In calm surroundings the program panics **in one case only**: the settings are accepted, the
logger is set up, and no worker threads are asked for. -/
theorem Surroundings.IsCalm.result_start_eq_panic_iff {w : Surroundings} (calm : w.IsCalm) :
    (start w).result = .error .panic ↔ ∃ settings filter,
      w.load = .ok settings ∧ w.logger settings = .ok filter ∧
      settings.server.workers = some 0 := by
  rw [StaticGzip.result_start_eq_panic_iff]
  constructor
  · rintro ⟨stage, h⟩
    cases h with
    | settings h => exact absurd h (Config.not_loadPanics calm.texts calm.foreign calm.positions)
    | logger loaded h =>
      exact absurd h
        (Logger.setUp_ne_panic calm.patterns none calm.wanted (calm.configured loaded))
    | noWorkers loaded logging h => exact ⟨_, _, loaded, logging, h⟩
    | workers loaded logging someWorkers h => exact absurd h (calm.workers loaded someWorkers)
    | bind loaded logging someWorkers working formed h => exact absurd h (calm.bind _)
  · rintro ⟨settings, filter, loaded, logging, h⟩
    exact ⟨.workers, .noWorkers loaded logging h⟩

/-! ## What a start does -/

namespace Launch

/-- Stages are no events. -/
theorem filterMap_event?_stage (stages : List Stage) :
    (stages.map Act.stage).filterMap Act.event? = [] :=
  List.filterMap_eq_nil_iff.mpr (List.forall_mem_map.mpr fun _ _ => rfl)

/-- What is logged are the events. -/
theorem filterMap_event?_log (events : List Event) :
    (events.map Act.log).filterMap Act.event? = events := by
  rw [List.filterMap_map]
  exact List.filterMap_some

end Launch

/-- A start that succeeds logs its **account**. -/
theorem events_start_of_succeeds {server : Started} (h : w.Succeeds server) :
    (start w).events = Logger.started server.addr server.settings := by
  rw [start_of_succeeds h, Launch.events, List.filterMap_append, List.filterMap_append,
    Launch.filterMap_event?_stage, Launch.filterMap_event?_log]
  simp [Act.event?]

/-- A start that stops logs **nothing**. -/
theorem events_start_of_stops {stage : Stage} {halt : Halt} (h : w.Stops stage halt) :
    (start w).events = [] := by
  rw [start_of_stops h, Launch.events, Launch.filterMap_event?_stage]

/-- The event that says that the server has started. -/
def startLine : Event := .info "Static gzip server started"

/-- A process that is asked for **no worker threads**, in surroundings where nothing else is
wrong. -/
def noThreads : Surroundings where
  files := Config.noFiles
  process := ⟨[.text "gzserve"], [(.text "GZSERVE__SERVER__WORKERS", .text "0")]⟩
  foreign _ := none
  outOfReach length n := length + n < 0
  patterns _ := .ok ()
  workers _ := .ok ()
  bind _ := .ok ()

/-- Neither the process nor a file names a position. -/
theorem noPositions_noThreads :
    Config.NoPositions noThreads.files noThreads.foreign noThreads.process where
  file read := by
    have none : Config.readFile noThreads.files noThreads.foreign
        (Config.fileNameOf noThreads.process) = .ok [] := rfl
    rw [none] at read
    cases read
    exact nofun
  environment texts := by
    cases texts
    have plain : (Config.Environment.entries [("GZSERVE__SERVER__WORKERS", "0")]).all
        (fun entry => (Config.KeyPath.ofKey entry.1).steps.all Config.KeyStep.isChild) = true := by
      decide +kernel
    exact List.all_eq_true.mp plain

/-- The settings without any worker threads are **accepted**. -/
theorem load_noThreads : noThreads.load = .ok ⟨⟨"0.0.0.0", 80, some 0⟩, ".",
    ⟨"info", true, "combined"⟩, ⟨75, 30, 30, none⟩⟩ := by
  have arguments : noThreads.process.firstArguments? = some ["gzserve"] := rfl
  have environment : noThreads.process.environment?
      = some [("GZSERVE__SERVER__WORKERS", "0")] := rfl
  have loaded : Config.load Config.noFiles [("GZSERVE__SERVER__WORKERS", "0")] []
      = .ok ⟨⟨"0.0.0.0", 80, some 0⟩, ".", ⟨"info", true, "combined"⟩, ⟨75, 30, 30, none⟩⟩ := by
    cbv
  have noForeign : noThreads.foreign (Config.fileNameOf noThreads.process) = none := rfl
  have noFile : noThreads.files = Config.noFiles := rfl
  rw [Surroundings.load,
    Config.loadFor_eq_load arguments environment noForeign noPositions_noThreads, noFile,
    List.tail_cons, loaded]
  rfl

/-- Nothing but the number of worker threads makes a panic of the start. -/
theorem isCalm_noThreads : noThreads.IsCalm where
  texts := ⟨by simp [noThreads], by simp [noThreads]⟩
  foreign := nofun
  positions := noPositions_noThreads
  patterns _ := nofun
  wanted := nofun
  configured loaded := by
    rw [load_noThreads] at loaded
    cases loaded
    decide
  workers _ _ := nofun
  bind _ := nofun

end StaticGzip
