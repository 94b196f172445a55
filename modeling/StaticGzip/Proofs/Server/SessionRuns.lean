import Mathlib.Data.UInt
import StaticGzip.Proofs.Server.Service
import StaticGzip.Proofs.Server.ShutdownHeard
import StaticGzip.Proofs.Server.Uninterrupted

/-! # What the session does is a run of the service

The session makes all steps of an operation without interruption: a connection begins or ends,
shutdown is requested, time passes. Then everybody goes on as far as they can. The service can do so
as well, by one step after the other, and then it shows what the session shows.

* **`Face`, `Service.Shows`** — the service has counted and said as much as the session, and its
  loop is where the session is.
* **`Service.Run.exists_settle`** — the drain comes to its end as soon as it may.
* **`Service.exists_run_accept_of_room`, `Service.exists_run_accept_of_reachedLimit`,
  `Service.exists_run_finish`, `Service.exists_run_trigger`, `Service.exists_run_advance`** — the
  operations of the session. -/

namespace StaticGzip.Server

/-! ## Faces -/

/-- What can be **seen** of a session or a service: the limits, the number of connections, the clock
and all events. -/
@[ext] structure Face where
  limits : PerformanceSettings
  active : UInt64
  clock : Nat
  events : List Event

/-- A face with more events. -/
def Face.log (f : Face) (events : List Event) : Face := { f with events := f.events ++ events }

/-- The face of a session. -/
def Session.face (s : Session) : Face := ⟨s.limits, s.connections.active, s.clock, s.events⟩

/-- The face of a service. -/
def Service.face (s : Service) : Face :=
  ⟨s.traffic.limits, s.active, s.clock, s.log.map (·.event)⟩

/-- What a session says can be seen. -/
theorem Session.face_log (s : Session) (events : List Event) :
    (s.log events).face = s.face.log events := rfl

/-- What somebody says in a service can be seen. -/
theorem Service.face_say (s : Service) (speaker : Speaker) (events : List Event) :
    (s.say speaker events).face = s.face.log events := by
  simp [face, say, Face.log, active, Function.comp_def]

/-- A session and a service that look the same still do when both have **said** the same. -/
theorem Service.face_say_eq {s : Service} {session : Session} (face : session.face = s.face)
    (speaker : Speaker) (events : List Event) :
    (session.log events).face = (s.say speaker events).face := by
  rw [face_say, Session.face_log, face]

/-- To say one thing after the other is to say both. -/
theorem Session.log_append (s : Session) (first second : List Event) :
    s.log (first ++ second) = (s.log first).log second := by
  simp [log]

namespace Service

variable {first s : Service} {session : Session} {actions : List Action} {k since : Nat}

/-- Where the loop is **in a phase** of the session, when nobody can go on. -/
def IsAt (s : Service) : Phase → Prop
  | .accepting =>
    s.duty = .listening ∧ s.summons.turn = .between ∧ s.summons.shutdown.requested = false
  | .draining since => s.active ≠ 0 ∧ ∃ k, s.duty = .draining k since ∧
    s.traffic.connections.waiters[k]? = some (.sleeping false)
  | .stopped => s.duty.isStopped = true

/-- Where the loop is in a phase of the session, when the wait of its drain has gone on but the loop
has not. -/
def IsReady (s : Service) : Phase → Prop
  | .accepting => s.IsAt .accepting
  | .draining since => ∃ k, s.duty = .draining k since ∧ s.traffic.connections.waiters[k]?
    = some (if s.active = 0 then .finished else .sleeping false)
  | .stopped => s.IsAt .stopped

/-- When nobody can go on, the wait of the drain cannot. -/
theorem IsAt.isReady {phase : Phase} (rests : s.IsAt phase) : s.IsReady phase := by
  cases phase with
  | accepting => exact rests
  | draining since =>
    obtain ⟨busy, k, duty, waits⟩ := rests
    exact ⟨k, duty, by rw [if_neg busy, waits]⟩
  | stopped => exact rests

/-- The service **shows** a session: it has the same face, its loop is where the session is, and
every visit has a peer. -/
structure Shows (s : Service) (session : Session) : Prop where
  face : session.face = s.face
  phase : s.IsAt session.phase
  peers : s.peers.length = s.traffic.visits.length

/-- The service shows the session that has just begun. -/
theorem shows_start (limits : PerformanceSettings) : (start limits).Shows (.begin limits) where
  face := rfl
  phase := ⟨rfl, rfl, rfl⟩
  peers := rfl

/-! ## Steps of others -/

/-- The steps of the traffic that do not concern the loop, but for the wait of its drain. -/
def Allows (d : Duty) : Server.Action → Prop
  | .release _ | .wake _ => True
  | .wait k => ∃ since, d = .draining k since
  | .count _ | .check _ | .finish _ _ | .enter => False

/-- After a run, a run of the **traffic** by such steps leads on. -/
theorem Run.exists_traffic {acts : List Server.Action} {t : Traffic} (run : Run first actions s)
    (rest : Server.Run s.traffic acts t) (allowed : ∀ a ∈ acts, Allows s.duty a) :
    ∃ more, Run first more { s with traffic := t } := by
  induction rest with
  | nil => exact ⟨actions, run⟩
  | @snoc acts a t t' _ step ih =>
    obtain ⟨more, before⟩ := ih fun a ha => allowed a (List.mem_append_left _ ha)
    have last := allowed a (List.mem_append_right _ List.mem_cons_self)
    cases a with
    | release k => exact ⟨_, before.snoc (.release step)⟩
    | wake k => exact ⟨_, before.snoc (.wake step)⟩
    | wait k =>
      obtain ⟨since, duty⟩ := last
      exact ⟨_, before.snoc (.wait duty step)⟩
    | _ => exact absurd last id

/-- After a run, a run of the **summons** by calls leads on. -/
theorem Run.exists_calls {steps : List Summons.Action} {m : Summons} (run : Run first actions s)
    (rest : Summons.Run s.summons steps m) (calls : ∀ a ∈ steps, a.isCall = true) :
    ∃ more, Run first more { s with summons := m } := by
  induction rest with
  | nil => exact ⟨actions, run⟩
  | @snoc steps a m m' _ step ih =>
    obtain ⟨more, before⟩ := ih fun a ha => calls a (List.mem_append_left _ ha)
    have last := calls a (List.mem_append_right _ List.mem_cons_self)
    exact ⟨_, before.snoc (.call last step)⟩

/-- After a run that leads to a drain, its **wait goes on** as far as it can. -/
theorem Run.exists_goOn {w : Wait} (run : Run first actions s) (duty : s.duty = .draining k since)
    (here : s.traffic.connections.waiters[k]? = some w) (n : Nat) :
    ∃ more, Run first more { s with traffic := s.traffic.goOn k (w.run s.active n) } := by
  obtain ⟨acts, own, waits⟩ := Traffic.exists_run_goOn n here
  refine Run.exists_traffic run waits fun a ha => ?_
  rw [own a ha]
  exact ⟨since, duty⟩

/-- After a run, a connection is **given back**. -/
theorem Run.exists_giveBack {v : Visit} {accepted : Bool} (run : Run first actions s)
    (here : s.traffic.visits[k]? = some v) (due : v.stage.due? = some accepted) :
    ∃ more, Run first more { s with
      traffic := s.traffic.move s.traffic.connections.giveBack k v (.closed accepted) } := by
  obtain ⟨acts, own, back⟩ := Traffic.exists_run_giveBack here due
  refine Run.exists_traffic run back fun a ha => ?_
  rcases own a ha with rfl | rfl <;> exact trivial

/-! ## Stopping -/

/-- After a run **the loop goes on** as far as it can: a drain comes to its end as soon as it
may. -/
theorem Run.exists_settle (run : Run first actions s) (face : session.face = s.face)
    (ready : s.IsReady session.phase) (peers : s.peers.length = s.traffic.visits.length) :
    ∃ more t, Run first more t ∧ t.Shows session.settle ∧ t.traffic = s.traffic ∧
      t.peers = s.peers := by
  obtain ⟨limits, connections, phase, clock, events⟩ := session
  cases phase with
  | accepting => exact ⟨_, s, run, ⟨face, ready, peers⟩, rfl, rfl⟩
  | stopped => exact ⟨_, s, run, ⟨face, ready, peers⟩, rfl, rfl⟩
  | draining since =>
    obtain ⟨k, duty, waits⟩ := ready
    have active : connections.active = s.active := congrArg Face.active face
    have bound : limits = s.traffic.limits := congrArg Face.limits face
    have time : clock = s.clock := congrArg Face.clock face
    rw [Session.settle]
    dsimp only
    by_cases idle : s.active = 0
    · rw [if_pos idle] at waits
      rw [if_pos (active.trans idle)]
      exact ⟨_, _, run.snoc (.stop duty waits), ⟨face_say_eq face _ _, rfl, peers⟩, rfl, rfl⟩
    rw [if_neg idle] at waits
    rw [if_neg (active ▸ idle)]
    by_cases late : Session.isOverdue ⟨limits, connections, .draining since, clock, events⟩ since
    · have due : s.lifetime ≠ 0 ∧ since + s.lifetime.toNat * 1000 ≤ s.clock := by
        rw [Session.isOverdue, bound, time, Bool.and_eq_true, bne_iff_ne,
          decide_eq_true_eq] at late
        have some : 0 < s.lifetime.toNat :=
          Nat.pos_of_ne_zero fun h => late.1 (UInt64.toNat_inj.mp h)
        have long : s.lifetime.toNat * 1000 ≤ s.clock - since := late.2
        exact ⟨late.1, by omega⟩
      have stops := ((run.snoc (.expire duty waits due.1 due.2)).snoc (.warn rfl)).snoc
        (.stopLate rfl)
      have warned := face_say_eq (s := s) face .loop [Session.drainedTooLong s.active s.lifetime]
      rw [if_pos late, active, show limits.lifetime = s.lifetime from congrArg _ bound,
        ← List.singleton_append, Session.log_append]
      exact ⟨_, _, stops, ⟨face_say_eq warned _ _, rfl, peers⟩, rfl, rfl⟩
    · rw [if_neg late]
      exact ⟨_, s, run, ⟨face, ⟨idle, k, duty, waits⟩, peers⟩, rfl, rfl⟩

/-! ## Operations -/

/-- **Time passes.** -/
theorem exists_run_advance (shows : s.Shows session) (ms : Nat) :
    ∃ actions t, Run s actions t ∧ t.Shows (session.advance ms) ∧ t.traffic = s.traffic ∧
      t.peers = s.peers := by
  have face : Session.face { session with clock := session.clock + ms }
      = Service.face { s with clock := s.clock + ms } :=
    congrArg (fun f => { f with clock := f.clock + ms }) shows.face
  have ready : IsReady { s with clock := s.clock + ms } session.phase := by
    have ready := shows.phase.isReady
    cases phase : session.phase <;> rw [phase] at ready <;> exact ready
  have ticks := Trace.single (Step.tick (s := s) ms)
  have settled := Run.exists_settle ticks face ready shows.peers
  exact settled

/-- **Shutdown is requested.** The call notifies, the lookout of the next turn sees it, and the
drain begins. -/
theorem exists_run_trigger (shows : s.Shows session) (sound : s.summons.IsSound) :
    ∃ actions t, Run s actions t ∧ t.Shows session.trigger ∧
      t.traffic.visits = s.traffic.visits ∧ t.peers = s.peers := by
  obtain ⟨limits, connections, phase, clock, events⟩ := session
  cases phase with
  | draining since => exact ⟨[], s, .nil, shows, rfl, rfl⟩
  | stopped => exact ⟨[], s, .nil, shows, rfl, rfl⟩
  | accepting =>
    have active : connections.active = s.active := congrArg Face.active shows.face
    have time : clock = s.clock := congrArg Face.clock shows.face
    obtain ⟨duty, turn, first⟩ := shows.phase
    obtain ⟨steps, calls, called⟩ := Summons.exists_run_call first
    obtain ⟨_, requests⟩ := Run.exists_calls .nil called calls
    -- The notification is sent, so the lookout of the next turn sees it.
    have sound := called.kept sound fun sound step => step.isSound sound
    have begins := Summons.Step.begin (s := { s.summons with
      shutdown := s.summons.shutdown.request.notify,
      callers := s.summons.callers ++ [.returned true] }) turn
    have looks := Summons.Step.look (s := { s.summons with
      shutdown := s.summons.shutdown.request.notify.enter,
      callers := s.summons.callers ++ [.returned true],
      turn := .watching s.summons.shutdown.request.notify.lookouts.length }) rfl
    have left := (begins.isSound sound).turn_of_look
      (List.mem_append_right _ List.mem_cons_self) looks
    have leaves := ((requests.snoc (.turn duty (.inl rfl) begins)).snoc
      (.turn duty (.inr rfl) looks)).snoc (.leave duty left)
    have here : (s.traffic.connections.waiters ++ [Wait.turning])[
        s.traffic.connections.waiters.length]? = some .turning := List.getElem?_concat_length
    obtain ⟨_, waits⟩ := Run.exists_goOn (leaves.snoc (.drain rfl .enter)) rfl here 2
    have face : (Session.log ⟨limits, connections, .draining clock, clock, events⟩
          [Logger.shutdownRequested connections.active.toNat]).face
        = (s.say .loop [Logger.shutdownRequested s.active.toNat]).face := by
      rw [active]
      exact face_say_eq shows.face _ _
    obtain ⟨more, t, run, shown, traffic, peers⟩ := Run.exists_settle waits face
      ⟨_, by rw [time]; rfl, Traffic.getElem?_goOn_self here _⟩ shows.peers
    have visits := congrArg Traffic.visits traffic
    exact ⟨more, t, run, shown, visits, peers⟩

/-- Who sleeps when a connection is given back **sees** whether it was the last one. -/
theorem run_giveBack (c : Connections) :
    (if c.active = 1 then Wait.wake (.sleeping false) else .sleeping false).run
      c.giveBack.active 4 = if c.giveBack.active = 0 then .finished else .sleeping false := by
  rw [Connections.active_giveBack]
  by_cases last : c.active = 1
  · rw [if_pos last, last]
    rfl
  · rw [if_neg last, if_neg fun none => last (sub_eq_zero.mp none)]
    rfl

/-- After a connection was given back, **the wait of the drain goes on**. -/
theorem Run.exists_ready {t : Service} {phase : Phase} (run : Run first actions t)
    (before : s.IsAt phase) (duty : t.duty = s.duty) (summons : t.summons = s.summons)
    (back : t.traffic.connections = s.traffic.connections.giveBack) :
    ∃ more u, Run first more u ∧ u.face = t.face ∧ u.IsReady phase ∧
      u.traffic.visits = t.traffic.visits ∧ u.peers = t.peers := by
  cases phase with
  | accepting =>
    refine ⟨_, t, run, rfl, ?_, rfl, rfl⟩
    rw [IsReady, IsAt, duty, summons]
    exact before
  | draining since =>
    obtain ⟨-, k, drains, waits⟩ := before
    have here := Connections.getElem?_giveBack s.traffic.connections k
    rw [waits, Option.map_some, ← back] at here
    obtain ⟨more, goes⟩ := Run.exists_goOn run (duty.trans drains) here 4
    have sees := run_giveBack s.traffic.connections
    rw [← back] at sees
    refine ⟨more, _, goes, rfl, ⟨k, duty.trans drains, ?_⟩, rfl, rfl⟩
    exact (Traffic.getElem?_goOn_self here _).trans (congrArg some sees)
  | stopped =>
    refine ⟨_, t, run, rfl, ?_, rfl, rfl⟩
    rw [IsReady, IsAt, duty]
    exact before

/-- **A connection ends.** Its task says how, gives the connection back, and wakes the drain if it
was the last one. -/
theorem exists_run_finish {v : Visit} {peer : SocketAddress} (shows : s.Shows session)
    (here : s.traffic.visits[k]? = some v) (stage : v.stage = .served)
    (known : s.peers[k]? = some peer) (ending : Ending) :
    ∃ actions t, Run s actions t ∧ t.Shows (session.finish peer ending) ∧
      t.traffic.visits = s.traffic.visits.set k ⟨v.place, .closed true⟩ ∧ t.peers = s.peers := by
  have bound : session.limits = s.traffic.limits := congrArg Face.limits shows.face
  have ends := Step.finish known (.finish here stage ending)
  have there : (s.traffic.move s.traffic.connections k v (.ended ending)).visits[k]?
      = some ⟨v.place, .ended ending⟩ := by
    rw [Traffic.getElem?_move here, if_pos rfl]
  obtain ⟨_, back⟩ := Run.exists_giveBack (.single ends) there rfl
  obtain ⟨_, u, goes, seen, ready, visits, peers⟩ :=
    Run.exists_ready back shows.phase rfl rfl rfl
  have said : (session.log (Session.endingEvents session.limits peer ending)).face
      = (s.say .task (Session.endingEvents s.traffic.limits peer ending)).face := by
    rw [bound]
    exact face_say_eq shows.face _ _
  have less : session.connections.release.active = s.traffic.connections.giveBack.active := by
    rw [Connections.active_release, Connections.active_giveBack]
    exact congrArg (·.active - 1) shows.face
  have face : Session.face { session.log (Session.endingEvents session.limits peer ending) with
      connections := session.connections.release } = u.face := by
    have clock := congrArg Face.clock said
    have events := congrArg Face.events said
    rw [seen]
    exact Face.ext bound less clock events
  have same : u.peers.length = u.traffic.visits.length := by
    rw [peers, visits]
    exact shows.peers.trans (by simp [say, Traffic.move])
  obtain ⟨more, t, run, shown, traffic, all⟩ := Run.exists_settle goes face ready same
  refine ⟨more, t, run, shown, ?_, all.trans peers⟩
  rw [traffic, visits]
  simp [say, Traffic.move]

/-- Between two turns of the loop **a connection can be taken** in a turn of its own. -/
theorem exists_run_take (duty : s.duty = .listening) (turn : s.summons.turn = .between)
    (peer : SocketAddress) :
    ∃ m, Run s [.turn .begin, .take peer] { s with summons := m, duty := .taken peer } ∧
      m.turn = .between ∧ m.shutdown.requested = s.summons.shutdown.requested := by
  obtain ⟨m, begins, watching, same⟩ : ∃ m, s.summons.Step .begin m ∧
      m.turn = .watching s.summons.shutdown.lookouts.length ∧
        m.shutdown.requested = s.summons.shutdown.requested := ⟨_, .begin turn, rfl, rfl⟩
  obtain ⟨n, gives, between, still⟩ : ∃ n, m.Step .give n ∧ n.turn = .between ∧
      n.shutdown.requested = m.shutdown.requested :=
    ⟨_, .give watching, rfl, Shutdown.requested_withdraw _ _⟩
  have listens := Step.turn duty (.inl rfl) begins
  have takes := Step.take (s := { s with summons := m }) duty gives peer
  exact ⟨n, .cons listens (.single takes), between, still.trans same⟩

/-- Then the connection **is counted** at a place. -/
theorem Shows.exists_run_count {place : UInt64} (shows : s.Shows session)
    (accepting : session.phase = .accepting) (free : place ∉ s.traffic.places) (used : place ≠ 0)
    (peer : SocketAddress) :
    ∃ actions m, Run s actions { s with
        traffic := s.traffic.arrive place, peers := s.peers ++ [peer], summons := m,
        duty := .accepting s.traffic.visits.length } ∧
      m.turn = .between ∧ m.shutdown.requested = false := by
  have phase := shows.phase
  rw [accepting] at phase
  obtain ⟨duty, turn, first⟩ := phase
  obtain ⟨m, takes, between, same⟩ := exists_run_take duty turn peer
  exact ⟨_, m, takes.snoc (.count rfl (.count free used)), between, same.trans first⟩

/-- The visit that was counted is at its place. -/
theorem getElem?_visits_arrive (s : Service) (place : UInt64) :
    (s.traffic.arrive place).visits[s.traffic.visits.length]?
      = some ⟨place, .counted s.active⟩ := by
  rw [Traffic.getElem?_arrive, if_pos rfl]
  rfl

/-- It comes last, in whichever stage it is next. -/
theorem visits_move_arrive (s : Service) (place : UInt64) (c : Connections)
    (stage stage' : Stage) :
    ((s.traffic.arrive place).move c s.traffic.visits.length ⟨place, stage⟩ stage').visits
      = s.traffic.visits ++ [⟨place, stage'⟩] := by
  simp [Traffic.move, Traffic.arrive]

/-- Its peer comes last as well. -/
theorem Shows.getElem?_peers (shows : s.Shows session) (peer : SocketAddress) :
    (s.peers ++ [peer])[s.traffic.visits.length]? = some peer := by
  rw [← shows.peers, List.getElem?_concat_length]

/-- So every visit has a peer still. -/
theorem Shows.length_peers (shows : s.Shows session) (peer : SocketAddress) (v : Visit) :
    (s.peers ++ [peer]).length = (s.traffic.visits ++ [v]).length := by
  rw [List.length_append, List.length_append, shows.peers]
  rfl

/-- **A connection begins**, if there is room for it: it is taken from the listener, counted, and
handed over to a task. -/
theorem exists_run_accept_of_room {place : UInt64} (shows : s.Shows session)
    (accepting : session.phase = .accepting) (free : place ∉ s.traffic.places) (used : place ≠ 0)
    (peer : SocketAddress) (room : session.limits.reachedLimit? session.connections.active = none) :
    ∃ actions t, Run s actions t ∧ t.Shows (session.accept peer).1 ∧
      t.traffic.visits = s.traffic.visits ++ [⟨place, .served⟩] ∧ t.peers = s.peers ++ [peer] := by
  have active : session.connections.active = s.active := congrArg Face.active shows.face
  have bound : session.limits = s.traffic.limits := congrArg Face.limits shows.face
  have said := face_say_eq shows.face .loop [Logger.accepted peer]
  obtain ⟨_, m, counts, between, idle⟩ := shows.exists_run_count accepting free used peer
  rw [Session.accept_of_room accepting room]
  rw [active, bound] at room
  have here := getElem?_visits_arrive s place
  have checks := Server.Step.check here rfl
  rw [show Stage.checked (s.traffic.arrive place).limits s.active = .served by
    rw [Stage.checked, show (s.traffic.arrive place).limits = s.traffic.limits from rfl, room]
    rfl] at checks
  have accepts := counts.snoc (.accept rfl here rfl room (shows.getElem?_peers peer) checks)
  have visits :=
    visits_move_arrive s place s.traffic.connections.acquire (.counted s.active) .served
  have clock := congrArg Face.clock said
  have events := congrArg Face.events said
  have more := congrArg (· + 1) active
  refine ⟨_, _, accepts, ⟨Face.ext bound more clock events, ?_, ?_⟩, visits, rfl⟩
  · show IsAt _ session.phase
    rw [accepting]
    exact ⟨rfl, between, idle⟩
  · exact (shows.length_peers peer _).trans (congrArg List.length visits.symm)

/-- **A connection begins** beyond the limit: it is taken from the listener, counted, and taken
back. -/
theorem exists_run_accept_of_reachedLimit {place limit : UInt64} (shows : s.Shows session)
    (accepting : session.phase = .accepting) (free : place ∉ s.traffic.places) (used : place ≠ 0)
    (peer : SocketAddress)
    (full : session.limits.reachedLimit? session.connections.active = some limit) :
    ∃ actions t, Run s actions t ∧ t.Shows (session.accept peer).1 ∧
      t.traffic.visits = s.traffic.visits ++ [⟨place, .closed false⟩] ∧
      t.peers = s.peers ++ [peer] := by
  have active : session.connections.active = s.active := congrArg Face.active shows.face
  have bound : session.limits = s.traffic.limits := congrArg Face.limits shows.face
  have said := face_say_eq shows.face .loop
    [Session.rejected session.connections.active limit peer]
  obtain ⟨_, m, counts, between, idle⟩ := shows.exists_run_count accepting free used peer
  rw [Session.accept_of_reachedLimit accepting full]
  rw [bound] at full
  rw [active] at full said ⊢
  have here := getElem?_visits_arrive s place
  have checks := Server.Step.check here rfl
  rw [show Stage.checked (s.traffic.arrive place).limits s.active = .excess by
    rw [Stage.checked, show (s.traffic.arrive place).limits = s.traffic.limits from rfl, full]
    rfl] at checks
  have exceeds := counts.snoc (.exceed rfl here rfl full checks)
  have there := (Traffic.getElem?_move here s.traffic.connections.acquire .excess _).trans
    (if_pos rfl)
  obtain ⟨_, back⟩ := Run.exists_giveBack exceeds there rfl
  have closed := (Traffic.getElem?_move there s.traffic.connections.acquire.giveBack
    (.closed false) _).trans (if_pos rfl)
  have rejects := back.snoc (.reject rfl closed rfl (shows.getElem?_peers peer))
  have visits := (congrArg Traffic.visits (Traffic.move_move s.traffic.connections.acquire
    s.traffic.connections.acquire.giveBack .excess (.closed false))).trans
      (visits_move_arrive s place _ (.counted s.active) (.closed false))
  have clock := congrArg Face.clock said
  have events := congrArg Face.events said
  -- What was counted is given back, so there are as many connections as before.
  have less : s.traffic.connections.acquire.giveBack.active = s.active := by
    rw [Connections.active_giveBack, ← Connections.active_release,
      Connections.active_release_acquire]
    rfl
  have none := (Connections.active_release_acquire _).trans (active.trans less.symm)
  refine ⟨_, _, rejects, ⟨Face.ext bound none clock events, ?_, ?_⟩, visits, rfl⟩
  · show IsAt _ session.phase
    rw [accepting]
    exact ⟨rfl, between, idle⟩
  · exact (shows.length_peers peer _).trans (congrArg List.length visits.symm)

end Service

end StaticGzip.Server
