import CareerProjects.SensorMonitor.Server

/-! The state transitions in the log. A transition is logged where a reading changes the state; a
timeout and a recovery change it without an entry. -/

namespace CareerProjects.SensorMonitor
open Library

namespace Server

/-- The changes that the updates of the state manager make, in order. -/
def changes (effects : List Effect) : List (SystemState × SystemState) :=
  effects.filterMap fun
    | .updated before after => if before ≠ after then some (before, after) else none
    | .logged _ => none

def transitions (effects : List Effect) : List Bytes :=
  effects.filterMap fun
    | .updated _ _ => none
    | .logged entry => if entry.eventType = ascii "STATE_TRANSITION" then some entry.message else none

def Linked (first : SystemState) : List (SystemState × SystemState) → SystemState → Prop
  | [], last => first = last
  | change :: changes, last => change.1 = first ∧ Linked change.2 changes last

/-- The entries about transitions are a chain from the normal state to the current one, and there is one
for each change of the state. -/
structure TransitionsRecorded (server : Server) : Prop where
  entries : transitions server.effects =
    (changes server.effects).map fun change => transitionMessage change.1 change.2
  chain : Linked .normal (changes server.effects) server.stateManager.currentState
  different : ∀ change ∈ changes server.effects, change.1 ≠ change.2

def FindsSilent (now : ℕ) (connection : Connection) : Prop :=
  ∃ sensorId ∈ expectedSensorIds, overdue now connection.lastSeenTimes sensorId = true ∧
    sensorId ∉ connection.timedOutSensors

/-- A step that changes the state by its readings only: a check finds a silent sensor in safe mode
only, and the state is the same without the fault of a sensor that has been timed out and sends again. -/
def ChangesByReadings (json : Bytes → Except Bytes Json) (server : Server) (label : ℕ × Action) : Prop :=
  ∀ connection, server.phase = .connected connection →
    ((label.2 = .check ∨ label.2 = .receiveTimeout) → FindsSilent label.1 connection →
      server.stateManager.currentState = .safeMode) ∧
    ∀ message rest reading, label.2 = .message →
      nextMessage connection.pendingData = some (message, rest) → message ≠ [] →
      parse json message = .ok reading → reading.sensorId ∈ connection.timedOutSensors →
      HealthMap.state (server.stateManager.sensorHealth.insert reading.sensorId {}) =
        server.stateManager.currentState

variable {json : Bytes → Except Bytes Json} {clock : ℕ → LocalTime} {server middle after : Server}
  {label : ℕ × Action} {labels : List (ℕ × Action)} {connection : Connection} {sensorId : Bytes} {now : ℕ}
  {added logged more others : List (SystemState × SystemState)}

theorem Linked.append {first middle last : SystemState} (start : Linked first added middle)
    (rest : Linked middle more last) : Linked first (added ++ more) last := by
  induction added generalizing first with
  | nil =>
    cases start
    exact rest
  | cons change added ih => exact ⟨start.1, ih start.2⟩

/-- What a part of a step does: the changes it makes, and those it makes an entry for. -/
structure Moves (server after : Server) (added logged : List (SystemState × SystemState)) : Prop where
  changes : changes after.effects = changes server.effects ++ added
  transitions : transitions after.effects =
    transitions server.effects ++ logged.map fun change => transitionMessage change.1 change.2
  chain : Linked server.stateManager.currentState added after.stateManager.currentState
  different : ∀ change ∈ added, change.1 ≠ change.2

theorem Moves.refl (server : Server) : Moves server server [] [] :=
  ⟨(List.append_nil _).symm, (List.append_nil _).symm, rfl, by simp⟩

theorem Moves.trans (first : Moves server middle added logged) (second : Moves middle after more others) :
    Moves server after (added ++ more) (logged ++ others) where
  changes := by rw [second.changes, first.changes, List.append_assoc]
  transitions := by rw [second.transitions, first.transitions, List.map_append, List.append_assoc]
  chain := first.chain.append second.chain
  different := List.forall_mem_append.mpr ⟨first.different, second.different⟩

theorem Moves.record (moves : Moves server after added added) (recorded : TransitionsRecorded server) :
    TransitionsRecorded after where
  entries := by rw [moves.changes, moves.transitions, recorded.entries, List.map_append]
  chain := moves.changes ▸ recorded.chain.append moves.chain
  different := moves.changes ▸ List.forall_mem_append.mpr ⟨recorded.different, moves.different⟩

theorem Moves.lose (moves : Moves server after added logged) (recorded : TransitionsRecorded server)
    (fewer : logged.length < added.length) : ¬TransitionsRecorded after := by
  intro again
  have lengths := congrArg List.length again.entries
  rw [moves.changes, moves.transitions, recorded.entries] at lengths
  simp at lengths
  omega

theorem moves_phase {phase : Phase} {processed : List Bytes} (moves : Moves server after added logged) :
    Moves server { after with phase := phase, processed := processed } added logged :=
  ⟨moves.changes, moves.transitions, moves.chain, moves.different⟩

theorem log_moves {level eventType message : Bytes} (other : eventType ≠ ascii "STATE_TRANSITION") :
    Moves server (server.log clock level eventType message) [] [] := by
  constructor
  · simp [log, Server.changes]
  · simp [log, Server.transitions, other]
  · rfl
  · simp

def change (before after : SystemState) : List (SystemState × SystemState) :=
  if before = after then [] else [(before, after)]

theorem change_eq_nil {before after : SystemState} : change before after = [] ↔ before = after := by
  unfold change
  split <;> simp_all

theorem update_moves (fault : Fault) : Moves server (server.update sensorId fault)
    (change server.stateManager.currentState (server.update sensorId fault).stateManager.currentState) [] := by
  unfold change
  by_cases same : server.stateManager.currentState = (server.update sensorId fault).stateManager.currentState
  · rw [if_pos same]
    rw [update_stateManager] at same
    exact ⟨by simp [update, Server.changes, ← same], by simp [update, Server.transitions], same, by simp⟩
  · rw [if_neg same]
    rw [update_stateManager] at same ⊢
    exact ⟨by simp [update, Server.changes, same], by simp [update, Server.transitions], ⟨rfl, rfl⟩,
      by simpa using same⟩

theorem name_injective {a b : SystemState} (same : a.name = b.name) : a = b := by
  cases a <;> cases b <;> first | rfl | (revert same; decide)

theorem fault_type (reading : SensorReading) :
    (FaultDetector.analyze reading).type ≠ ascii "STATE_TRANSITION" := by
  unfold FaultDetector.analyze FaultDetector.analyzeTemperature FaultDetector.analyzeVoltage
    FaultDetector.analyzePosition FaultDetector.analyzeMotion
  split_ifs <;> decide

theorem report_moves (reading : SensorReading) : Moves server (server.report clock reading)
    (change server.stateManager.currentState (server.report clock reading).stateManager.currentState) [] := by
  have updated := @update_moves server reading.sensorId (FaultDetector.analyze reading)
  rw [report_stateManager]
  unfold report
  dsimp only
  split
  · have entry := updated.trans (@log_moves clock _
      (faultSeverityToString (FaultDetector.analyze reading).severity) _
      (reading.sensorId ++ ascii ": " ++ (FaultDetector.analyze reading).message) (fault_type reading))
    rw [List.append_nil] at entry
    exact entry
  · exact updated

theorem evaluate_moves (reading : SensorReading) : ∃ added,
    Moves server (server.evaluate clock reading) added added := by
  have report := @report_moves clock server reading
  unfold evaluate
  dsimp only
  generalize server.report clock reading = reported at report
  refine ⟨change server.stateManager.currentState reported.stateManager.currentState, ?_⟩
  by_cases unchanged : server.stateManager.currentState = reported.stateManager.currentState
  · rw [if_neg (by simp [unchanged])]
    rw [change_eq_nil.mpr unchanged] at report ⊢
    exact report
  · rw [if_pos fun names => unchanged (name_injective names)]
    refine ⟨?_, ?_, report.chain, report.different⟩
    · rw [← report.changes]
      simp [log, Server.changes]
    · have before := report.transitions
      rw [List.map_nil, List.append_nil] at before
      rw [← before, change, if_neg unchanged]
      simp [log, Server.transitions]

theorem timeOut_moves : Moves server (server.timeOut clock sensorId)
    (change server.stateManager.currentState (server.timeOut clock sensorId).stateManager.currentState) [] := by
  have moves := (@update_moves server sensorId (timeoutFault sensorId)).trans
    (@log_moves clock _ (ascii "CRITICAL") (ascii "SENSOR_TIMEOUT") (timeoutFault sensorId).message
      (by decide))
  rw [List.append_nil] at moves
  exact moves

theorem recover_moves : Moves server (server.recover clock sensorId)
    (change server.stateManager.currentState (server.recover clock sensorId).stateManager.currentState) [] := by
  have moves := (@update_moves server sensorId {}).trans
    (@log_moves clock _ (ascii "INFO") (ascii "SENSOR_RECOVERY")
      (sensorId ++ ascii " resumed transmitting sensor data.") (by decide))
  rw [List.append_nil] at moves
  exact moves

theorem timeOut_safeMode : (server.timeOut clock sensorId).stateManager.currentState = .safeMode := by
  rw [(server.timeOut clock sensorId).stateManager.recalculated]
  refine @HealthMap.Critical.safeMode _ sensorId ?_
  unfold HealthMap.Critical
  rw [timeOut_stateManager]
  exact AList.lookup_insert _

theorem check_moves : ∃ added, Moves server (check clock now connection server) added [] ∧
    (FindsSilent now connection → (check clock now connection server).stateManager.currentState = .safeMode) ∧
    ((FindsSilent now connection → server.stateManager.currentState = .safeMode) → added = []) := by
  have result := @checkSensorTimeouts_induction clock server now connection.lastSeenTimes
    connection.timedOutSensors expectedSensorIds
    (fun timedOut after => (∃ added, Moves server after added [] ∧
        ((FindsSilent now connection → server.stateManager.currentState = .safeMode) → added = [])) ∧
      (timedOut = connection.timedOutSensors ∨
        (FindsSilent now connection ∧ after.stateManager.currentState = .safeMode)))
    (by
      rintro timedOut after sensorId member silent fresh ⟨⟨added, moves, quiet⟩, found⟩
      have finds : FindsSilent now connection := by
        rcases found with rfl | found
        · exact ⟨sensorId, member, silent, fresh⟩
        · exact found.1
      refine ⟨⟨_, moves.trans timeOut_moves, fun safe => ?_⟩, .inr ⟨finds, timeOut_safeMode⟩⟩
      have start := moves.chain
      rw [quiet safe] at start ⊢
      rw [List.nil_append, change_eq_nil, timeOut_safeMode, ← safe finds]
      exact start.symm)
    ⟨⟨[], .refl server, fun _ => rfl⟩, .inl rfl⟩
  obtain ⟨⟨added, moves, quiet⟩, found⟩ := result
  refine ⟨added, moves_phase moves, fun finds => ?_, quiet⟩
  rcases found with same | found
  · obtain ⟨sensorId, member, silent, fresh⟩ := finds
    have inside := @overdue_mem_check clock server now connection.lastSeenTimes connection.timedOutSensors
      expectedSensorIds sensorId (.inr ⟨member, silent⟩)
    rw [same] at inside
    exact absurd inside fresh
  · exact found.2

theorem startup_recorded : TransitionsRecorded (startup clock) where
  entries := by
    simp [startup, log, Server.transitions, Server.changes]
    decide
  chain := rfl
  different := by simp [startup, log, Server.changes]

theorem changesByReadings_of {action : Action} (action_eq : label.2 = action)
    (quiet : action ≠ .check ∧ action ≠ .receiveTimeout ∧ action ≠ .message ∨ server.phase = .waiting) :
    ChangesByReadings json server label := by
  intro connection running
  rcases quiet with ⟨check, receiveTimeout, message⟩ | waiting
  · rw [action_eq]
    exact ⟨fun checks => by grind, fun _ _ _ own => absurd own message⟩
  · rw [waiting] at running
    cases running

theorem message_moves {message rest : Bytes} (running : server.phase = .connected connection)
    (action : label.2 = .message) (found : nextMessage connection.pendingData = some (message, rest)) :
    ∃ added logged, Moves server (takeMessage json clock now message rest connection server) added logged ∧
      (ChangesByReadings json server label → logged = added) ∧
      (¬ChangesByReadings json server label → logged.length < added.length) := by
  have quiet (none : ∀ reading, message ≠ [] → parse json message = .ok reading →
      reading.sensorId ∉ connection.timedOutSensors) : ChangesByReadings json server label := by
    intro connection' running'
    rw [running, Phase.connected.injEq] at running'
    subst running'
    refine ⟨fun checks => ?_, fun message' rest' reading _ found' some parsed inside => ?_⟩
    · rw [action] at checks
      simp at checks
    · rw [found, Option.some.injEq, Prod.mk.injEq] at found'
      rw [← found'.1] at some parsed
      exact absurd inside (none reading some parsed)
  by_cases empty : message = []
  · subst empty
    rw [takeMessage_empty]
    exact ⟨[], [], moves_phase (.refl server), fun _ => rfl, fun other => absurd (quiet (by simp)) other⟩
  · cases parsed : parse json message with
    | error error =>
      rw [takeMessage_error empty parsed]
      exact ⟨[], [], moves_phase (log_moves (by decide)), fun _ => rfl,
        fun other => absurd (quiet (by simp [parsed])) other⟩
    | ok reading =>
      rw [takeMessage_ok empty parsed]
      by_cases inside : reading.sensorId ∈ connection.timedOutSensors
      · rw [if_pos inside]
        obtain ⟨added, moves⟩ := @evaluate_moves clock (server.recover clock reading.sensorId) reading
        refine ⟨_, _, moves_phase (recover_moves.trans moves), fun guard => ?_, fun other => ?_⟩
        · have same := (guard connection running).2 message rest reading action found empty parsed inside
          have quietly : change server.stateManager.currentState
              (server.recover clock reading.sensorId).stateManager.currentState = [] :=
            change_eq_nil.mpr same.symm
          rw [quietly]
        · have changed : change server.stateManager.currentState
              (server.recover clock reading.sensorId).stateManager.currentState ≠ [] := by
            intro none
            refine other fun connection' running' => ?_
            rw [running, Phase.connected.injEq] at running'
            subst running'
            refine ⟨fun checks => ?_, fun message' rest' reading' _ found' _ parsed' _ => ?_⟩
            · rw [action] at checks
              simp at checks
            · rw [found, Option.some.injEq, Prod.mk.injEq] at found'
              rw [← found'.1, parsed, Except.ok.injEq] at parsed'
              rw [← parsed']
              exact (change_eq_nil.mp none).symm
          have positive := List.length_pos_iff.mpr changed
          simp only [List.length_append, List.length_nil]
          omega
      · rw [if_neg inside]
        obtain ⟨added, moves⟩ := @evaluate_moves clock server reading
        refine ⟨added, added, moves_phase moves, fun _ => rfl, fun other => absurd (quiet ?_) other⟩
        intro reading' _ parsed'
        rw [parsed, Except.ok.injEq] at parsed'
        exact parsed' ▸ inside

theorem step_moves (moved : server.next json clock label = some after) : ∃ added logged,
    Moves server after added logged ∧ (ChangesByReadings json server label → logged = added) ∧
      (¬ChangesByReadings json server label → logged.length < added.length) := by
  have silent (moves : Moves server after [] []) (guard : ChangesByReadings json server label) :
      ∃ added logged, Moves server after added logged ∧ (ChangesByReadings json server label → logged = added) ∧
        (¬ChangesByReadings json server label → logged.length < added.length) :=
    ⟨[], [], moves, fun _ => rfl, fun other => absurd guard other⟩
  rcases step_cases moved with ⟨action, waiting, rfl⟩ | ⟨action, waiting, rfl⟩ |
    ⟨connection, running, ⟨chunk, action, rfl⟩ | ⟨message, rest, action, found, rfl⟩ | ⟨checks, rfl⟩ |
      ⟨action, rfl⟩ | ⟨action, rfl⟩⟩
  · exact silent ((moves_phase (.refl server)).trans (log_moves (by decide)))
      (changesByReadings_of action (.inr waiting))
  · exact silent (moves_phase (.refl server)) (changesByReadings_of action (.inr waiting))
  · exact silent (moves_phase (.refl server)) (changesByReadings_of action (.inl (by simp)))
  · exact message_moves running action found
  · obtain ⟨added, moves, finds, quiet⟩ := @check_moves clock server connection label.1
    refine ⟨added, [], moves, fun guard => (quiet fun silent => ?_).symm, fun other => ?_⟩
    · exact (guard connection running).1 checks silent
    · have silentFound : FindsSilent label.1 connection ∧ server.stateManager.currentState ≠ .safeMode := by
        by_contra none
        refine other fun connection' running' => ?_
        rw [running, Phase.connected.injEq] at running'
        subst running'
        refine ⟨fun _ silent => ?_, fun _ _ _ own => ?_⟩
        · by_contra unsafe_
          exact none ⟨silent, unsafe_⟩
        · rw [own] at checks
          simp at checks
      have changed : added ≠ [] := by
        intro none
        have chain := moves.chain
        rw [none, finds silentFound.1] at chain
        exact silentFound.2 chain
      exact List.length_pos_iff.mpr changed
  · exact silent ((moves_phase (.refl server)).trans (log_moves (by decide)))
      (changesByReadings_of action (.inl (by simp)))
  · exact silent ((moves_phase (.refl server)).trans (log_moves (by decide)))
      (changesByReadings_of action (.inl (by simp)))

def idleLabels : List (ℕ × Action) :=
  [(0, .connect), (500000000, .receiveTimeout), (1000000000, .receiveTimeout), (1500000000, .receiveTimeout),
    (2000000000, .receiveTimeout), (2500000000, .receiveTimeout)]

theorem idle_reached : ∃ server, Runs (fun _ => .ok .null) sampleClock (startup sampleClock) idleLabels server ∧
    changes server.effects = [(.normal, .safeMode)] ∧ transitions server.effects = [] := by
  have checked : (idleLabels.foldlM (next (fun _ => .ok .null) sampleClock) (startup sampleClock)).any
      (fun server => changes server.effects = [(.normal, .safeMode)] && transitions server.effects = []) = true := by
    decide +kernel
  obtain ⟨server, reached, holds⟩ := (Option.any_eq_true _ _).mp checked
  rw [Bool.and_eq_true, decide_eq_true_eq, decide_eq_true_eq] at holds
  exact ⟨server, .of_foldlM reached, holds⟩

/-- The sensors time out and the state becomes safe mode without an entry. -/
theorem timeout_not_recorded : ∃ server,
    Runs (fun _ => .ok .null) sampleClock (startup sampleClock) idleLabels server ∧
      ¬TransitionsRecorded server := by
  obtain ⟨server, run, changed, entries⟩ := idle_reached
  refine ⟨server, run, fun recorded => ?_⟩
  have same := recorded.entries
  rw [changed, entries] at same
  cases same

/-- In every run: the entries about transitions are the changes of the state in every state that is
reached exactly if all steps change the state by their readings only. -/
theorem transitions_recorded_iff (run : Runs json clock (startup clock) labels server) :
    (∀ before later middle, labels = before ++ later → Runs json clock (startup clock) before middle →
        TransitionsRecorded middle) ↔
      Run (fun server label after => server.next json clock label = some after ∧
        ChangesByReadings json server label) (startup clock) labels server := by
  refine run.guarded_iff startup_recorded ?_ (fun _ recorded => recorded) ?_
  · intro server label after recorded moved guard
    obtain ⟨added, logged, moves, same, -⟩ := step_moves moved
    rw [same guard] at moves
    exact moves.record recorded
  · intro server label after recorded moved other
    obtain ⟨added, logged, moves, -, fewer⟩ := step_moves moved
    exact moves.lose recorded (fewer other)

theorem transitions_recorded_iff_idle : ∃ server,
    Runs (fun _ => .ok .null) sampleClock (startup sampleClock) idleLabels server ∧
      ¬Run (fun server label after => server.next (fun _ => .ok .null) sampleClock label = some after ∧
        ChangesByReadings (fun _ => .ok .null) server label) (startup sampleClock) idleLabels server := by
  obtain ⟨server, run, changed, entries⟩ := idle_reached
  refine ⟨server, run, fun guarded => ?_⟩
  have same := ((transitions_recorded_iff run).mpr guarded idleLabels [] server (by simp) run).entries
  rw [changed, entries] at same
  cases same

end Server

end CareerProjects.SensorMonitor
