import Mathlib.Data.Finset.Basic
import CareerProjects.Library.Runs
import CareerProjects.SensorMonitor.Model

/-! The monitor's server: it accepts one client at a time, takes its bytes apart into messages, and
checks after every chunk and every receive timeout which sensors have been silent. What a run does to
the state and to the log is recorded in order. -/

namespace CareerProjects.SensorMonitor
open Library

structure LocalTime where
  year : ℕ
  month : ℕ
  day : ℕ
  hour : ℕ
  minute : ℕ
  second : ℕ
  deriving DecidableEq

structure LogEntry where
  timestamp : LocalTime
  level : Bytes
  eventType : Bytes
  message : Bytes
  deriving DecidableEq

/-- What a run does, in order: updates of the state manager, and calls of `EventLogger::log`. -/
inductive Effect
  | updated (before after : SystemState)
  | logged (entry : LogEntry)
  deriving DecidableEq

def sensorTimeout : ℕ := 2000000000

def receiveTimeout : ℕ := 500000000

def receiveBufferSize : ℕ := 4096

def expectedSensorIds : List Bytes := [ascii "TEMP-01", ascii "VOLT-01", ascii "POS-01", ascii "MOTION-01"]

/-- What `receiveSensorMessages` holds. It is processing from a chunk to the check that follows it. -/
structure Connection where
  pendingData : Bytes
  lastSeenTimes : Bytes → Option ℕ
  timedOutSensors : Finset Bytes
  processing : Bool

inductive Phase
  | waiting
  | connected (connection : Connection)
  | stopped

/-- The processed messages are a history that no code reads. -/
structure Server where
  stateManager : SystemStateManager
  effects : List Effect
  phase : Phase
  processed : List Bytes

inductive Action
  | connect
  | acceptFailure
  | receive (chunk : Bytes)
  | message
  | check
  | receiveTimeout
  | disconnect
  | networkError
  deriving DecidableEq

namespace Server

/-- `EventLogger::log`; `clock` is the local time at which each entry is written. -/
def log (clock : ℕ → LocalTime) (server : Server) (level eventType message : Bytes) : Server :=
  { server with effects := server.effects ++
      [.logged ⟨clock server.effects.length, level, eventType, message⟩] }

def update (server : Server) (sensorId : Bytes) (fault : Fault) : Server :=
  { server with
    stateManager := server.stateManager.update sensorId fault
    effects := server.effects ++
      [.updated server.stateManager.currentState (server.stateManager.update sensorId fault).currentState] }

def timeoutFault (sensorId : Bytes) : Fault :=
  ⟨true, .critical, ascii "SENSOR_TIMEOUT",
    sensorId ++ ascii " failed to provide an update within two seconds."⟩

def overdue (currentTime : ℕ) (lastSeenTimes : Bytes → Option ℕ) (sensorId : Bytes) : Bool :=
  match lastSeenTimes sensorId with
  | none => false
  | some lastSeen => sensorTimeout < currentTime - lastSeen

/-- What is done about a sensor that has been found silent. -/
def timeOut (clock : ℕ → LocalTime) (server : Server) (sensorId : Bytes) : Server :=
  (server.update sensorId (timeoutFault sensorId)).log clock (ascii "CRITICAL") (ascii "SENSOR_TIMEOUT")
    (timeoutFault sensorId).message

/-- `checkSensorTimeouts`, over the expected sensors that are left. -/
def checkSensorTimeouts (clock : ℕ → LocalTime) (currentTime : ℕ)
    (lastSeenTimes : Bytes → Option ℕ) : List Bytes → Finset Bytes → Server → Finset Bytes × Server
  | [], timedOutSensors, server => (timedOutSensors, server)
  | sensorId :: sensorIds, timedOutSensors, server =>
    if overdue currentTime lastSeenTimes sensorId ∧ sensorId ∉ timedOutSensors then
      checkSensorTimeouts clock currentTime lastSeenTimes sensorIds (insert sensorId timedOutSensors)
        (server.timeOut clock sensorId)
    else checkSensorTimeouts clock currentTime lastSeenTimes sensorIds timedOutSensors server

/-- A timed out sensor that sends again is healthy for now. -/
def recover (clock : ℕ → LocalTime) (server : Server) (sensorId : Bytes) : Server :=
  (server.update sensorId {}).log clock (ascii "INFO") (ascii "SENSOR_RECOVERY")
    (sensorId ++ ascii " resumed transmitting sensor data.")

def transitionMessage (previousState currentState : SystemState) : Bytes :=
  previousState.name ++ ascii " -> " ++ currentState.name

/-- The update of a reading, with an entry about its fault. -/
def report (clock : ℕ → LocalTime) (server : Server) (reading : SensorReading) : Server :=
  let fault := FaultDetector.analyze reading
  let updated := server.update reading.sensorId fault
  if fault.detected then
    updated.log clock (faultSeverityToString fault.severity) fault.type
      (reading.sensorId ++ ascii ": " ++ fault.message)
  else updated

def evaluate (clock : ℕ → LocalTime) (server : Server) (reading : SensorReading) : Server :=
  let previousState := server.stateManager.currentState
  let reported := server.report clock reading
  let currentState := reported.stateManager.currentState
  if previousState.name ≠ currentState.name then
    reported.log clock (ascii "INFO") (ascii "STATE_TRANSITION") (transitionMessage previousState currentState)
  else reported

def called (server : Server) (message : Bytes) : Server :=
  { server with processed := server.processed ++ [message] }

def processSensorMessage (json : Bytes → Except Bytes Json) (clock : ℕ → LocalTime) (now : ℕ)
    (message : Bytes) (connection : Connection) (server : Server) : Connection × Server :=
  match parse json message with
  | .error error => (connection, (server.log clock (ascii "ERROR") (ascii "INVALID_MESSAGE") error).called message)
  | .ok reading =>
    let recovered := if reading.sensorId ∈ connection.timedOutSensors then
        server.recover clock reading.sensorId
      else server
    ({ connection with
        lastSeenTimes := Function.update connection.lastSeenTimes reading.sensorId (some now)
        timedOutSensors := connection.timedOutSensors.erase reading.sensorId },
      (recovered.evaluate clock reading).called message)

def newline : UInt8 := 10

def nextMessage (pendingData : Bytes) : Option (Bytes × Bytes) :=
  if newline ∈ pendingData then
    some (pendingData.takeWhile (· ≠ newline), (pendingData.dropWhile (· ≠ newline)).tail)
  else none

theorem nextMessage_eq {pendingData message rest : Bytes} (found : nextMessage pendingData = some (message, rest)) :
    pendingData = message ++ newline :: rest ∧ newline ∉ message := by
  unfold nextMessage at found
  split at found
  · next member =>
    have parts := List.takeWhile_append_dropWhile (p := fun byte => decide (byte ≠ newline)) (l := pendingData)
    have plain : newline ∉ pendingData.takeWhile (· ≠ newline) := fun inside => by
      simpa using List.mem_takeWhile_imp inside
    cases left : pendingData.dropWhile (· ≠ newline) with
    | nil =>
      rw [left, List.append_nil] at parts
      rw [parts] at plain
      exact absurd member plain
    | cons byte others =>
      have stopped := List.head?_dropWhile_not (fun byte => decide (byte ≠ newline)) pendingData
      rw [left] at stopped found
      have mark : byte = newline := by simpa using stopped
      rw [Option.some.injEq, Prod.mk.injEq] at found
      rw [left, mark, found.1] at parts
      rw [found.1] at plain
      rw [← found.2]
      exact ⟨parts.symm, plain⟩
  · cases found

theorem newline_notMem {pendingData : Bytes} (none : nextMessage pendingData = none) : newline ∉ pendingData := by
  unfold nextMessage at none
  by_contra member
  rw [if_pos member] at none
  cases none

def opened (connectionTime : ℕ) : Connection where
  pendingData := []
  lastSeenTimes := fun sensorId => if sensorId ∈ expectedSensorIds then some connectionTime else none
  timedOutSensors := ∅
  processing := false

def connect (clock : ℕ → LocalTime) (now : ℕ) (server : Server) : Server :=
  log clock { server with phase := .connected (opened now) } (ascii "INFO") (ascii "CLIENT_CONNECTED")
    (ascii "Python sensor simulator connected.")

def takeMessage (json : Bytes → Except Bytes Json) (clock : ℕ → LocalTime) (now : ℕ)
    (message rest : Bytes) (connection : Connection) (server : Server) : Server :=
  if message = [] then { server with phase := .connected { connection with pendingData := rest } }
  else
    let processed := processSensorMessage json clock now message { connection with pendingData := rest } server
    { processed.2 with phase := .connected processed.1 }

def check (clock : ℕ → LocalTime) (now : ℕ) (connection : Connection) (server : Server) : Server :=
  let checked := checkSensorTimeouts clock now connection.lastSeenTimes expectedSensorIds
    connection.timedOutSensors server
  { checked.2 with
    phase := .connected { connection with timedOutSensors := checked.1, processing := false } }

/-- A step of the server. It waits in `accept`, then in `recv`; a chunk is processed message by message
and followed by a check. -/
def step (json : Bytes → Except Bytes Json) (clock : ℕ → LocalTime) (server : Server) (now : ℕ)
    (action : Action) : Option Server :=
  match server.phase, action with
  | .waiting, .connect => some (server.connect clock now)
  | .waiting, .acceptFailure => some { server with phase := .stopped }
  | .connected connection, .receive chunk =>
    if ¬connection.processing ∧ chunk ≠ [] ∧ chunk.length ≤ receiveBufferSize then
      some { server with phase := .connected { connection with
        pendingData := connection.pendingData ++ chunk, processing := true } }
    else none
  | .connected connection, .message =>
    if connection.processing then
      (nextMessage connection.pendingData).map fun next =>
        takeMessage json clock now next.1 next.2 connection server
    else none
  | .connected connection, .check =>
    if connection.processing ∧ nextMessage connection.pendingData = none then
      some (check clock now connection server)
    else none
  | .connected connection, .receiveTimeout =>
    if ¬connection.processing then some (check clock now connection server) else none
  | .connected connection, .disconnect =>
    if ¬connection.processing then
      some (log clock { server with phase := .waiting } (ascii "INFO") (ascii "CLIENT_DISCONNECTED")
        (ascii "Python sensor simulator disconnected."))
    else none
  | .connected connection, .networkError =>
    if ¬connection.processing then
      some (log clock { server with phase := .waiting } (ascii "ERROR") (ascii "CLIENT_CONNECTION_ERROR")
        (ascii "An error occurred while receiving sensor data."))
    else none
  | _, _ => none

def next (json : Bytes → Except Bytes Json) (clock : ℕ → LocalTime) (server : Server) (label : ℕ × Action) :
    Option Server :=
  server.step json clock label.1 label.2

abbrev Runs (json : Bytes → Except Bytes Json) (clock : ℕ → LocalTime) :
    Server → List (ℕ × Action) → Server → Prop :=
  Run fun server label after => server.next json clock label = some after

def startup (clock : ℕ → LocalTime) : Server :=
  log clock ⟨{}, [], .waiting, []⟩ (ascii "INFO") (ascii "SYSTEM_STARTUP") (ascii "Sensor monitoring system started.")

def sampleClock (_ : ℕ) : LocalTime := ⟨2026, 7, 23, 17, 39, 36⟩

variable {json : Bytes → Except Bytes Json} {clock : ℕ → LocalTime} {server after : Server}
  {now : ℕ} {action : Action} {lastSeenTimes : Bytes → Option ℕ}
  {timedOutSensors : Finset Bytes} {sensorIds : List Bytes} {sensorId : Bytes}

@[simp] theorem log_stateManager (level eventType message : Bytes) :
    (server.log clock level eventType message).stateManager = server.stateManager := rfl

@[simp] theorem log_phase (level eventType message : Bytes) :
    (server.log clock level eventType message).phase = server.phase := rfl

@[simp] theorem update_stateManager (fault : Fault) :
    (server.update sensorId fault).stateManager = server.stateManager.update sensorId fault := rfl

@[simp] theorem timeOut_stateManager : (server.timeOut clock sensorId).stateManager =
    server.stateManager.update sensorId (timeoutFault sensorId) := rfl

@[simp] theorem recover_stateManager :
    (server.recover clock sensorId).stateManager = server.stateManager.update sensorId {} := rfl

@[simp] theorem report_stateManager (reading : SensorReading) :
    (server.report clock reading).stateManager =
      server.stateManager.update reading.sensorId (FaultDetector.analyze reading) := by
  unfold report
  dsimp only
  split <;> rfl

@[simp] theorem evaluate_stateManager (reading : SensorReading) :
    (server.evaluate clock reading).stateManager =
      server.stateManager.update reading.sensorId (FaultDetector.analyze reading) := by
  unfold evaluate
  dsimp only
  split
  · rw [log_stateManager, report_stateManager]
  · rw [report_stateManager]

theorem evaluate_processed (reading : SensorReading) : (server.evaluate clock reading).processed = server.processed := by
  have reported : (server.report clock reading).processed = server.processed := by
    unfold report
    dsimp only
    split <;> rfl
  unfold evaluate
  dsimp only
  split <;> exact reported

theorem checkSensorTimeouts_induction {P : Finset Bytes → Server → Prop}
    (kept : ∀ timedOutSensors server, ∀ sensorId ∈ sensorIds, overdue now lastSeenTimes sensorId = true →
      sensorId ∉ timedOutSensors → P timedOutSensors server →
      P (insert sensorId timedOutSensors) (server.timeOut clock sensorId))
    (start : P timedOutSensors server) :
    P (checkSensorTimeouts clock now lastSeenTimes sensorIds timedOutSensors server).1
      (checkSensorTimeouts clock now lastSeenTimes sensorIds timedOutSensors server).2 := by
  induction sensorIds generalizing timedOutSensors server with
  | nil => exact start
  | cons sensorId sensorIds ih =>
    have rest : ∀ timedOutSensors server, ∀ other ∈ sensorIds, overdue now lastSeenTimes other = true →
        other ∉ timedOutSensors → P timedOutSensors server →
        P (insert other timedOutSensors) (server.timeOut clock other) :=
      fun timedOutSensors server other member => kept timedOutSensors server other (List.mem_cons_of_mem _ member)
    unfold checkSensorTimeouts
    split
    · next silent => exact ih rest (kept _ _ _ List.mem_cons_self silent.1 silent.2 start)
    · exact ih rest start

theorem overdue_mem_check : ∀ sensorId, sensorId ∈ timedOutSensors ∨
      (sensorId ∈ sensorIds ∧ overdue now lastSeenTimes sensorId = true) →
    sensorId ∈ (checkSensorTimeouts clock now lastSeenTimes sensorIds timedOutSensors server).1 := by
  induction sensorIds generalizing timedOutSensors server with
  | nil => simp [checkSensorTimeouts]
  | cons first sensorIds ih =>
    intro sensorId silent
    unfold checkSensorTimeouts
    split
    · refine ih sensorId ?_
      rw [Finset.mem_insert]
      grind
    · next skipped =>
      refine ih sensorId ?_
      grind

theorem check_processed (connection : Connection) : (check clock now connection server).processed = server.processed :=
  checkSensorTimeouts_induction (P := fun _ reached => reached.processed = server.processed)
    (fun _ _ _ _ _ _ kept => kept) rfl

variable {message rest : Bytes} {connection : Connection}

theorem takeMessage_empty : takeMessage json clock now [] rest connection server =
    { server with phase := .connected { connection with pendingData := rest } } := rfl

theorem takeMessage_error {error : Bytes} (some : message ≠ []) (parsed : parse json message = .error error) :
    takeMessage json clock now message rest connection server =
      { log clock server (ascii "ERROR") (ascii "INVALID_MESSAGE") error with
        phase := .connected { connection with pendingData := rest }
        processed := server.processed ++ [message] } := by
  rw [takeMessage, if_neg some, processSensorMessage, parsed]
  rfl

theorem takeMessage_ok {reading : SensorReading} (some : message ≠ []) (parsed : parse json message = .ok reading) :
    takeMessage json clock now message rest connection server =
      { evaluate clock (if reading.sensorId ∈ connection.timedOutSensors then
          server.recover clock reading.sensorId else server) reading with
        phase := .connected
          { connection with
            pendingData := rest
            lastSeenTimes := Function.update connection.lastSeenTimes reading.sensorId (.some now)
            timedOutSensors := connection.timedOutSensors.erase reading.sensorId }
        processed := server.processed ++ [message] } := by
  rw [takeMessage, if_neg some, processSensorMessage, parsed]
  simp only [called, evaluate_processed]
  split <;> rfl

theorem takeMessage_processed : (takeMessage json clock now message rest connection server).processed =
    server.processed ++ if message = [] then [] else [message] := by
  by_cases empty : message = []
  · subst empty
    rw [takeMessage_empty, if_pos rfl, List.append_nil]
  · rw [if_neg empty]
    cases parsed : parse json message with
    | error error =>
      rw [takeMessage_error empty parsed]
    | ok reading =>
      rw [takeMessage_ok empty parsed]

theorem step_cases (moved : server.step json clock now action = some after) :
    (action = .connect ∧ server.phase = .waiting ∧ after = server.connect clock now) ∨
    (action = .acceptFailure ∧ server.phase = .waiting ∧ after = { server with phase := .stopped }) ∨
    ∃ connection, server.phase = .connected connection ∧
      ((∃ chunk, action = .receive chunk ∧ after = { server with phase := .connected { connection with
          pendingData := connection.pendingData ++ chunk, processing := true } }) ∨
        (∃ message rest, action = .message ∧ nextMessage connection.pendingData = some (message, rest) ∧
          after = takeMessage json clock now message rest connection server) ∨
        ((action = .check ∨ action = .receiveTimeout) ∧ after = check clock now connection server) ∨
        (action = .disconnect ∧ after = log clock { server with phase := .waiting } (ascii "INFO")
          (ascii "CLIENT_DISCONNECTED") (ascii "Python sensor simulator disconnected.")) ∨
        (action = .networkError ∧ after = log clock { server with phase := .waiting } (ascii "ERROR")
          (ascii "CLIENT_CONNECTION_ERROR") (ascii "An error occurred while receiving sensor data."))) := by
  unfold step at moved
  split at moved
  · next waiting =>
    cases moved
    exact .inl ⟨rfl, waiting, rfl⟩
  · next waiting =>
    cases moved
    exact .inr (.inl ⟨rfl, waiting, rfl⟩)
  all_goals try cases moved
  · next connection chunk connected =>
    split at moved
    · cases moved
      exact .inr (.inr ⟨connection, connected, .inl ⟨chunk, rfl, rfl⟩⟩)
    · cases moved
  · next connection connected =>
    split at moved
    · rw [Option.map_eq_some_iff] at moved
      obtain ⟨⟨message, rest⟩, found, rfl⟩ := moved
      exact .inr (.inr ⟨connection, connected, .inr (.inl ⟨message, rest, rfl, found, rfl⟩)⟩)
    · cases moved
  · next connection connected =>
    split at moved
    · cases moved
      exact .inr (.inr ⟨connection, connected, .inr (.inr (.inl ⟨.inl rfl, rfl⟩))⟩)
    · cases moved
  · next connection connected =>
    split at moved
    · cases moved
      exact .inr (.inr ⟨connection, connected, .inr (.inr (.inl ⟨.inr rfl, rfl⟩))⟩)
    · cases moved
  · next connection connected =>
    split at moved
    · cases moved
      exact .inr (.inr ⟨connection, connected, .inr (.inr (.inr (.inl ⟨rfl, rfl⟩)))⟩)
    · cases moved
  · next connection connected =>
    split at moved
    · cases moved
      exact .inr (.inr ⟨connection, connected, .inr (.inr (.inr (.inr ⟨rfl, rfl⟩)))⟩)
    · cases moved

end Server

end CareerProjects.SensorMonitor
