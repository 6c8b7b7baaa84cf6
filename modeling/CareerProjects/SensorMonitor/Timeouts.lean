import CareerProjects.SensorMonitor.Server

/-! Silent sensors. Beside the server a run keeps the time, and what the requirements count from: the
accepted messages and the connections. While a client is connected the server checks at least once in
every receive-timeout period. -/

namespace CareerProjects.SensorMonitor
open Library

structure Timed where
  server : Server
  time : ℕ
  /-- The last check, or the start of the connection. -/
  wokenAt : ℕ
  connectedAt : ℕ
  firstConnection : Option ℕ
  accepted : List (Bytes × ℕ)

def Server.isConnected (server : Server) : Bool :=
  match server.phase with
  | .connected _ => true
  | _ => false

def Server.reading (json : Bytes → Except Bytes Json) (server : Server) (action : Action) :
    Option SensorReading :=
  match server.phase, action with
  | .connected connection, .message =>
    (Server.nextMessage connection.pendingData).bind fun next =>
      if next.1 = [] then none else (parse json next.1).toOption
  | _, _ => none

namespace Timed

variable (json : Bytes → Except Bytes Json) (clock : ℕ → LocalTime)

def startup : Timed := ⟨Server.startup clock, 0, 0, 0, none, []⟩

def Moment (timed : Timed) (now : ℕ) : Prop :=
  timed.time ≤ now ∧ (timed.server.isConnected = true → now ≤ timed.wokenAt + receiveTimeout)

instance (timed : Timed) (now : ℕ) : Decidable (timed.Moment now) := by
  unfold Moment
  infer_instance

def step (timed : Timed) (label : ℕ × Action) : Option Timed :=
  if timed.Moment label.1 then
    (timed.server.step json clock label.1 label.2).map fun server =>
      { server := server
        time := label.1
        wokenAt := if label.2 ∈ [.connect, .check, .receiveTimeout] then label.1 else timed.wokenAt
        connectedAt := if label.2 = .connect then label.1 else timed.connectedAt
        firstConnection := if label.2 = .connect then timed.firstConnection.or (some label.1)
          else timed.firstConnection
        accepted := match timed.server.reading json label.2 with
          | some reading => timed.accepted ++ [(reading.sensorId, label.1)]
          | none => timed.accepted }
  else none

abbrev Runs : Timed → List (ℕ × Action) → Timed → Prop :=
  Run fun timed label after => timed.step json clock label = some after

def acceptedFrom (timed : Timed) (sensorId : Bytes) : List ℕ :=
  (timed.accepted.filter fun entry => entry.1 = sensorId).map Prod.snd

/-- The last accepted message of a sensor, or the start of the connection where that is later. -/
def silentSince (timed : Timed) (sensorId : Bytes) : ℕ :=
  max timed.connectedAt ((timed.acceptedFrom sensorId).getLast?.getD 0)

def Critical (timed : Timed) (sensorId : Bytes) : Prop :=
  timed.server.stateManager.sensorHealth.Critical sensorId

variable {json clock} {timed after : Timed} {label : ℕ × Action}
  {labels : List (ℕ × Action)}

/-- What keeps the containers of a connection and the health of the sensors together. -/
structure Watched (timed : Timed) (connection : Connection) : Prop where
  seen : ∀ sensorId ∈ expectedSensorIds,
    connection.lastSeenTimes sensorId = some (timed.silentSince sensorId)
  flagged : ∀ sensorId ∈ expectedSensorIds, timed.silentSince sensorId + sensorTimeout < timed.wokenAt →
    sensorId ∈ connection.timedOutSensors
  critical : ∀ sensorId ∈ connection.timedOutSensors, timed.Critical sensorId
  expected : ∀ sensorId ∈ connection.timedOutSensors, sensorId ∈ expectedSensorIds

structure Sound (timed : Timed) : Prop where
  watched : ∀ connection, timed.server.phase = .connected connection → Watched timed connection
  woken : timed.wokenAt ≤ timed.time
  connected : timed.connectedAt ≤ timed.time
  past : ∀ entry ∈ timed.accepted, entry.2 ≤ timed.time

theorem step_eq_some (moved : timed.step json clock label = some after) : timed.Moment label.1 ∧
    timed.server.step json clock label.1 label.2 = some after.server ∧ after.time = label.1 ∧
    after.wokenAt = (if label.2 ∈ [.connect, .check, .receiveTimeout] then label.1 else timed.wokenAt) ∧
    after.connectedAt = (if label.2 = .connect then label.1 else timed.connectedAt) ∧
    after.accepted = (match timed.server.reading json label.2 with
      | some reading => timed.accepted ++ [(reading.sensorId, label.1)]
      | none => timed.accepted) := by
  unfold step at moved
  split at moved
  · next early =>
    rw [Option.map_eq_some_iff] at moved
    obtain ⟨server, next, rfl⟩ := moved
    exact ⟨early, next, rfl, rfl, rfl, rfl⟩
  · cases moved

theorem Sound.startup : Sound (startup clock) := by
  constructor
  · intro connection connected
    cases connected
  · exact le_rfl
  · exact le_rfl
  · simp [Timed.startup]

theorem silentSince_of_ne {sensorId other : Bytes} {now : ℕ} (connectedAt : after.connectedAt = timed.connectedAt)
    (accepted : after.accepted = timed.accepted ++ [(other, now)]) (different : sensorId ≠ other) :
    after.silentSince sensorId = timed.silentSince sensorId := by
  simp [silentSince, acceptedFrom, connectedAt, accepted, different.symm]

theorem silentSince_eq {sensorId : Bytes} (connectedAt : after.connectedAt = timed.connectedAt)
    (accepted : after.accepted = timed.accepted) : after.silentSince sensorId = timed.silentSince sensorId := by
  simp [silentSince, acceptedFrom, connectedAt, accepted]

theorem lastAccepted_le {bound : ℕ} (past : ∀ entry ∈ timed.accepted, entry.2 ≤ bound)
    (sensorId : Bytes) : (timed.acceptedFrom sensorId).getLast?.getD 0 ≤ bound := by
  cases last : (timed.acceptedFrom sensorId).getLast? with
  | none => exact Nat.zero_le _
  | some time =>
    obtain ⟨entry, member, rfl⟩ := List.mem_map.mp (List.mem_of_getLast? last)
    exact past entry (List.mem_of_mem_filter member)

theorem Watched.check {connection : Connection} (watched : Watched timed connection)
    (now : ℕ) (connectedAt : after.connectedAt = timed.connectedAt)
    (accepted : after.accepted = timed.accepted) (wokenAt : after.wokenAt = now)
    (server : after.server = Server.check clock now connection timed.server) :
    ∀ connection', after.server.phase = .connected connection' → Watched after connection' := by
  have result := @Server.checkSensorTimeouts_induction clock timed.server now connection.lastSeenTimes
    connection.timedOutSensors expectedSensorIds
    (fun timedOut server => ∀ sensorId ∈ timedOut,
      server.stateManager.sensorHealth.Critical sensorId ∧ sensorId ∈ expectedSensorIds)
    (by
      intro timedOut server sensorId member _ _ held other inside
      rw [Server.timeOut_stateManager]
      rw [Finset.mem_insert] at inside
      by_cases same : other = sensorId
      · subst same
        refine ⟨?_, member⟩
        unfold HealthMap.Critical SystemStateManager.update
        rw [AList.lookup_insert]
        rfl
      · have old := held other (inside.resolve_left same)
        exact ⟨SystemStateManager.critical_update old.1 (.inr ⟨rfl, rfl⟩), old.2⟩)
    (fun sensorId inside => ⟨watched.critical sensorId inside, watched.expected sensorId inside⟩)
  intro connection' connected
  rw [server] at connected
  cases connected
  constructor
  · intro sensorId member
    rw [silentSince_eq connectedAt accepted]
    exact watched.seen sensorId member
  · intro sensorId member silent
    rw [silentSince_eq connectedAt accepted, wokenAt] at silent
    refine Server.overdue_mem_check sensorId (.inr ⟨member, ?_⟩)
    rw [Server.overdue, watched.seen sensorId member, decide_eq_true_eq]
    omega
  · intro sensorId inside
    unfold Critical
    rw [server]
    exact (result sensorId inside).1
  · exact fun sensorId inside => (result sensorId inside).2

theorem reading_of_ne {server : Server} {action : Action} (other : action ≠ .message) :
    server.reading json action = none := by
  unfold Server.reading
  split
  · exact absurd rfl other
  · rfl

theorem Watched.message {connection : Connection} {message rest : Bytes} {now : ℕ}
    (watched : Watched timed connection) (connected : timed.server.phase = .connected connection)
    (found : Server.nextMessage connection.pendingData = some (message, rest)) (late : timed.wokenAt ≤ now)
    (began : timed.connectedAt ≤ now) (connectedAt : after.connectedAt = timed.connectedAt)
    (wokenAt : after.wokenAt = timed.wokenAt)
    (accepted : after.accepted = (match timed.server.reading json .message with
      | some reading => timed.accepted ++ [(reading.sensorId, now)]
      | none => timed.accepted))
    (server : after.server = Server.takeMessage json clock now message rest connection timed.server) :
    ∀ connection', after.server.phase = .connected connection' → Watched after connection' := by
  intro connection' phase
  have reading : timed.server.reading json .message =
      if message = [] then none else (parse json message).toOption := by
    simp [Server.reading, connected, found]
  rw [reading] at accepted
  have same : after.accepted = timed.accepted → after.server.stateManager = timed.server.stateManager →
      connection'.lastSeenTimes = connection.lastSeenTimes →
      connection'.timedOutSensors = connection.timedOutSensors → Watched after connection' := by
    intro accepted manager lastSeenTimes timedOut
    constructor
    · intro sensorId member
      rw [lastSeenTimes, silentSince_eq connectedAt accepted]
      exact watched.seen sensorId member
    · intro sensorId member silent
      rw [silentSince_eq connectedAt accepted, wokenAt] at silent
      rw [timedOut]
      exact watched.flagged sensorId member silent
    · intro sensorId inside
      unfold Critical
      rw [manager]
      exact watched.critical sensorId (timedOut ▸ inside)
    · exact fun sensorId inside => watched.expected sensorId (timedOut ▸ inside)
  by_cases empty : message = []
  · subst empty
    rw [if_pos rfl] at accepted
    rw [Server.takeMessage_empty] at server
    rw [server] at phase
    cases phase
    exact same accepted (by rw [server]) rfl rfl
  · rw [if_neg empty] at accepted
    cases parsed : parse json message with
    | error error =>
      rw [parsed] at accepted
      dsimp only [Except.toOption] at accepted
      rw [Server.takeMessage_error empty parsed] at server
      rw [server] at phase
      cases phase
      exact same accepted (by rw [server]; rfl) rfl rfl
    | ok reading =>
      rw [parsed] at accepted
      dsimp only [Except.toOption] at accepted
      rw [Server.takeMessage_ok empty parsed] at server
      rw [server] at phase
      cases phase
      have manager : ∀ sensorId, sensorId ≠ reading.sensorId → timed.Critical sensorId →
          after.Critical sensorId := by
        intro sensorId different critical
        unfold Critical at critical ⊢
        rw [server, Server.evaluate_stateManager]
        refine SystemStateManager.critical_update ?_ (.inl different.symm)
        split
        · exact SystemStateManager.critical_update critical (.inl different.symm)
        · exact critical
      constructor
      · intro sensorId member
        dsimp only
        by_cases own : sensorId = reading.sensorId
        · subst own
          rw [Function.update_self, silentSince, acceptedFrom, accepted, connectedAt]
          simp [began]
        · rw [Function.update_of_ne own, silentSince_of_ne connectedAt accepted own]
          exact watched.seen sensorId member
      · intro sensorId member silent
        rw [wokenAt] at silent
        by_cases own : sensorId = reading.sensorId
        · subst own
          have now' : now ≤ after.silentSince reading.sensorId := by
            rw [silentSince, acceptedFrom, accepted]
            simp
          omega
        · rw [silentSince_of_ne connectedAt accepted own] at silent
          exact Finset.mem_erase.mpr ⟨own, watched.flagged sensorId member silent⟩
      · intro sensorId inside
        rw [Finset.mem_erase] at inside
        exact manager sensorId inside.1 (watched.critical sensorId inside.2)
      · exact fun sensorId inside => watched.expected sensorId (Finset.mem_of_mem_erase inside)

theorem Sound.step (sound : Sound timed) (moved : timed.step json clock label = some after) : Sound after := by
  obtain ⟨⟨later, _⟩, next, time, wokenAt, connectedAt, accepted⟩ := step_eq_some moved
  have past : ∀ entry ∈ after.accepted, entry.2 ≤ after.time := by
    intro entry member
    rw [time]
    rw [accepted] at member
    split at member
    · rw [List.mem_append, List.mem_singleton] at member
      rcases member with old | rfl
      · exact (sound.past entry old).trans later
      · exact le_rfl
    · exact (sound.past entry member).trans later
  have woken : after.wokenAt ≤ after.time := by
    rw [time, wokenAt]
    have before := sound.woken
    split <;> omega
  have connected : after.connectedAt ≤ after.time := by
    rw [time, connectedAt]
    have before := sound.connected
    split <;> omega
  refine ⟨?_, woken, connected, past⟩
  obtain ⟨now, action⟩ := label
  intro connection' phase
  rcases Server.step_cases next with ⟨rfl, waiting, server⟩ | ⟨rfl, waiting, server⟩ |
    ⟨connection, running, ⟨chunk, rfl, server⟩ | ⟨message, rest, rfl, found, server⟩ | ⟨checks, server⟩ |
      ⟨rfl, server⟩ | ⟨rfl, server⟩⟩
  · rw [reading_of_ne (by simp)] at accepted
    rw [server] at phase
    cases phase
    have start : ∀ sensorId, after.silentSince sensorId = now := by
      intro sensorId
      have before := lastAccepted_le (fun entry member => (sound.past entry member).trans later) sensorId
      rw [acceptedFrom] at before
      rw [silentSince, acceptedFrom, accepted, connectedAt, if_pos rfl]
      exact max_eq_left before
    constructor
    · intro sensorId member
      rw [start]
      exact if_pos member
    · intro sensorId member silent
      rw [start, wokenAt, if_pos (by simp)] at silent
      omega
    · simp [Server.opened]
    · simp [Server.opened]
  · rw [server] at phase
    cases phase
  · rw [reading_of_ne (by simp)] at accepted
    have watched := sound.watched connection running
    rw [server] at phase
    cases phase
    constructor
    · intro sensorId member
      rw [silentSince_eq connectedAt accepted]
      exact watched.seen sensorId member
    · intro sensorId member silent
      rw [silentSince_eq connectedAt accepted, wokenAt, if_neg (by simp)] at silent
      exact watched.flagged sensorId member silent
    · intro sensorId inside
      unfold Critical
      rw [server]
      exact watched.critical sensorId inside
    · exact watched.expected
  · exact (sound.watched connection running).message running found (sound.woken.trans later)
      (sound.connected.trans later) connectedAt (by rw [wokenAt, if_neg (by simp)]) accepted server
      connection' phase
  · have other : action ≠ .message ∧ action ≠ .connect := by
      rcases checks with rfl | rfl <;> simp
    rw [reading_of_ne other.1] at accepted
    rw [if_neg other.2] at connectedAt
    refine (sound.watched connection running).check now connectedAt accepted ?_ server connection' phase
    rw [wokenAt, if_pos]
    rcases checks with rfl | rfl <;> simp
  · rw [server] at phase
    cases phase
  · rw [server] at phase
    cases phase

theorem Sound.of_run (run : Runs json clock (Timed.startup clock) labels timed) : Sound timed :=
  run.invariant .startup fun _ _ _ sound moved => sound.step moved

theorem critical_step {sensorId : Bytes} (critical : timed.Critical sensorId)
    (moved : timed.step json clock label = some after)
    (silent : after.acceptedFrom sensorId = timed.acceptedFrom sensorId) : after.Critical sensorId := by
  obtain ⟨-, next, -, -, -, accepted⟩ := step_eq_some moved
  unfold Critical at critical ⊢
  rcases Server.step_cases next with ⟨-, -, server⟩ | ⟨-, -, server⟩ |
    ⟨connection, running, ⟨chunk, -, server⟩ | ⟨message, rest, action, found, server⟩ | ⟨-, server⟩ |
      ⟨-, server⟩ | ⟨-, server⟩⟩
  · rw [server]
    exact critical
  · rw [server]
    exact critical
  · rw [server]
    exact critical
  · by_cases empty : message = []
    · subst empty
      rw [server, Server.takeMessage_empty]
      exact critical
    · cases parsed : parse json message with
      | error error =>
        rw [server, Server.takeMessage_error empty parsed]
        exact critical
      | ok reading =>
        have different : reading.sensorId ≠ sensorId := by
          intro same
          simp [acceptedFrom, accepted, action, Server.reading, running, found, empty, parsed, Except.toOption,
            same] at silent
        rw [server, Server.takeMessage_ok empty parsed, Server.evaluate_stateManager]
        refine SystemStateManager.critical_update ?_ (.inl different)
        split
        · exact SystemStateManager.critical_update critical (.inl different)
        · exact critical
  · rw [server]
    exact @Server.checkSensorTimeouts_induction clock timed.server label.1 connection.lastSeenTimes
      connection.timedOutSensors expectedSensorIds
      (fun _ server => server.stateManager.sensorHealth.Critical sensorId)
      (fun _ _ _ _ _ _ held => SystemStateManager.critical_update held (.inr ⟨rfl, rfl⟩)) critical
  · rw [server]
    exact critical
  · rw [server]
    exact critical

theorem acceptedFrom_step (sensorId : Bytes) (moved : timed.step json clock label = some after) :
    timed.acceptedFrom sensorId <+: after.acceptedFrom sensorId := by
  obtain ⟨-, -, -, -, -, accepted⟩ := step_eq_some moved
  unfold acceptedFrom
  rw [accepted]
  split
  · rw [List.filter_append, List.map_append]
    exact List.prefix_append _ _
  · exact List.prefix_refl _

theorem acceptedFrom_run (sensorId : Bytes) (run : Runs json clock timed labels after) :
    timed.acceptedFrom sensorId <+: after.acceptedFrom sensorId := by
  induction run with
  | nil => exact List.prefix_refl _
  | snoc earlier last ih => exact ih.trans (acceptedFrom_step sensorId last)

theorem critical_run {sensorId : Bytes} (critical : timed.Critical sensorId)
    (run : Runs json clock timed labels after)
    (silent : after.acceptedFrom sensorId = timed.acceptedFrom sensorId) : after.Critical sensorId := by
  induction run with
  | nil => exact critical
  | @snoc middle after labels label earlier last ih =>
    have before := acceptedFrom_run sensorId earlier
    have later := acceptedFrom_step sensorId last
    rw [silent] at later
    have same : middle.acceptedFrom sensorId = timed.acceptedFrom sensorId :=
      later.eq_of_length_le before.length_le
    exact critical_step (ih same) last (silent.trans same.symm)

theorem Critical.safeMode {sensorId : Bytes} (critical : timed.Critical sensorId) :
    timed.server.stateManager.currentState = .safeMode := by
  rw [timed.server.stateManager.recalculated]
  exact HealthMap.Critical.safeMode critical

/-- The requirement as it counts from the first connection, whether a client is connected or not. -/
def AlwaysWatched (timed : Timed) : Prop :=
  ∀ now, timed.Moment now → ∀ first, timed.firstConnection = some first → ∀ sensorId ∈ expectedSensorIds,
    ((timed.acceptedFrom sensorId).getLast?.getD first) + sensorTimeout + receiveTimeout < now →
    timed.Critical sensorId ∧ timed.server.stateManager.currentState = .safeMode

/-- A client leaves within a second and nothing is checked while the server waits. -/
theorem waiting_not_watched : ∃ timed, Runs (fun _ => .ok .null) Server.sampleClock
    (startup Server.sampleClock)
    [(0, .connect), (500000000, .receiveTimeout), (900000000, .disconnect)] timed ∧ ¬timed.AlwaysWatched := by
  have checked : ([(0, .connect), (500000000, .receiveTimeout), (900000000, .disconnect)].foldlM
      (Timed.step (fun _ => .ok .null) Server.sampleClock)
      (startup Server.sampleClock)).any (fun timed =>
        timed.Moment 10000000000 && timed.firstConnection = some 0 &&
        timed.accepted = [] && timed.server.stateManager.currentState = .normal) = true := by
    decide +kernel
  obtain ⟨timed, reached, holds⟩ := (Option.any_eq_true _ _).mp checked
  simp only [Bool.and_eq_true, decide_eq_true_eq] at holds
  obtain ⟨⟨⟨moment, first⟩, silent⟩, normal⟩ := holds
  refine ⟨timed, .of_foldlM reached, fun watched => ?_⟩
  have safe := (watched _ moment 0 first (ascii "TEMP-01") (by decide +kernel) (by
    rw [acceptedFrom, silent]
    decide)).2
  rw [normal] at safe
  cases safe

/-- In every run: the state is the one that the health of the sensors calls for; while a client is
connected, a sensor that has been silent for longer than the timeout and a receive-timeout period since its
last accepted message or the start of the connection has a critical fault and the state is safe mode;
and a critical fault stays, with safe mode, until the sensor's next accepted message, also while the
server waits and after a reconnection. -/
theorem silent_sensor_safeMode (run : Runs json clock (startup clock) labels timed) :
    (let faults := timed.server.stateManager.sensorHealth.activeFaults
      let state := timed.server.stateManager.currentState
      (state = .safeMode ↔ (∃ entry ∈ faults, entry.severity = .critical) ∨ 2 ≤ faults.length) ∧
      (state = .degraded ↔ ∃ entry, faults = [entry] ∧ entry.severity ≠ .critical) ∧
      (state = .normal ↔ faults = [])) ∧
    (∀ now, timed.Moment now → timed.server.isConnected = true → ∀ sensorId ∈ expectedSensorIds,
      timed.silentSince sensorId + sensorTimeout + receiveTimeout < now →
      timed.Critical sensorId ∧ timed.server.stateManager.currentState = .safeMode) ∧
    ∀ sensorId, timed.Critical sensorId → ∀ later after, Runs json clock timed later after →
      after.acceptedFrom sensorId = timed.acceptedFrom sensorId →
      after.Critical sensorId ∧ after.server.stateManager.currentState = .safeMode := by
  refine ⟨timed.server.stateManager.recalculated ▸ HealthMap.state_iff,
    fun now moment connected sensorId member silent => ?_, fun sensorId critical later after rest same => ?_⟩
  · have woken := moment.2 connected
    obtain ⟨connection, running⟩ : ∃ connection, timed.server.phase = .connected connection := by
      unfold Server.isConnected at connected
      split at connected
      · exact ⟨_, by assumption⟩
      · cases connected
    have watched := (Sound.of_run run).watched connection running
    have critical := watched.critical sensorId (watched.flagged sensorId member (by omega))
    exact ⟨critical, critical.safeMode⟩
  · have stays := critical_run critical rest same
    exact ⟨stays, stays.safeMode⟩

theorem silent_sensor_safeMode_idle : ∃ timed : Timed, Runs (fun _ => .ok .null)
      Server.sampleClock (startup Server.sampleClock)
      [(0, .connect), (500000000, .receiveTimeout), (1000000000, .receiveTimeout),
        (1500000000, .receiveTimeout), (2000000000, .receiveTimeout), (2500000000, .receiveTimeout)] timed ∧
    timed.Critical (ascii "TEMP-01") ∧ timed.server.stateManager.currentState = .safeMode := by
  have checked : ([(0, .connect), (500000000, .receiveTimeout), (1000000000, .receiveTimeout),
      (1500000000, .receiveTimeout), (2000000000, .receiveTimeout), (2500000000, .receiveTimeout)].foldlM
      (Timed.step (fun _ => .ok .null) Server.sampleClock)
      (startup Server.sampleClock)).any (fun timed =>
        timed.Moment 2600000000 && timed.server.isConnected && timed.connectedAt = 0 &&
        timed.accepted = []) = true := by
    decide +kernel
  obtain ⟨timed, reached, holds⟩ := (Option.any_eq_true _ _).mp checked
  simp only [Bool.and_eq_true, decide_eq_true_eq] at holds
  obtain ⟨⟨⟨moment, connected⟩, start⟩, silent⟩ := holds
  have run : Runs (fun _ => .ok .null) Server.sampleClock
      (startup Server.sampleClock) _ timed := .of_foldlM reached
  refine ⟨timed, run, (silent_sensor_safeMode run).2.1 _ moment connected _ (by decide +kernel) ?_⟩
  rw [silentSince, acceptedFrom, start, silent]
  decide

end Timed

end CareerProjects.SensorMonitor
