import CareerProjects.SensorMonitor.Framing

/-! The health of the sensors during a connection: it follows from the messages that were processed and the sensors
that are timed out. -/

namespace CareerProjects.SensorMonitor

open Library

def SensorReading.health (reading : SensorReading) : SensorHealth :=
  ⟨(FaultDetector.analyze reading).detected, (FaultDetector.analyze reading).severity⟩

def validReadings (json : Bytes → Except Bytes Json) (messages : List Bytes) : List SensorReading :=
  messages.filterMap fun message => (parse json message).toOption

def lastOf (sensorId : Bytes) (readings : List SensorReading) : Option SensorReading :=
  (readings.filter fun reading => reading.sensorId = sensorId).getLast?

theorem lastOf_append (sensorId : Bytes) (readings : List SensorReading) (reading : SensorReading) :
    lastOf sensorId (readings ++ [reading]) =
      if reading.sensorId = sensorId then some reading else lastOf sensorId readings := by
  rw [lastOf, List.filter_append]
  split
  · next same => simp [same]
  · next other => simp [other, lastOf]

/-- Each sensor has the health of its last reading, or is timed out. -/
def HealthMap.Reflects (health : HealthMap) (timedOutSensors : Finset Bytes) (readings : List SensorReading) : Prop :=
  ∀ sensorId, health.lookup sensorId = if sensorId ∈ timedOutSensors then some ⟨true, .critical⟩
    else (lastOf sensorId readings).map SensorReading.health

def stateOf (faults : List SensorHealth) : SystemState :=
  if faults.any (fun entry => entry.severity = .critical) ∨ 2 ≤ faults.length then .safeMode
  else if faults.length = 1 then .degraded
  else .normal

namespace HealthMap

theorem state_of_lookups {health : HealthMap} {sensorIds : List Bytes} (distinct : sensorIds.Nodup)
    (values : Bytes → SensorHealth)
    (known : ∀ sensorId, health.lookup sensorId = if sensorId ∈ sensorIds then some (values sensorId) else none) :
    health.state = stateOf ((sensorIds.map values).filter fun entry => entry.faulted) := by
  have keys : health.keys.Perm sensorIds := by
    refine (List.perm_ext_iff_of_nodup health.keys_nodup distinct).mpr fun sensorId => ?_
    rw [← AList.mem_keys, ← AList.lookup_isSome, known]
    split
    · next member => simp [member]
    · next other => simp [other]
  have entries : health.entries.map (fun entry => entry.2) = health.keys.map values := by
    rw [AList.keys, List.keys, List.map_map]
    refine List.map_congr_left fun entry member => ?_
    have found := known entry.1
    rw [AList.mem_lookup_iff.mpr member] at found
    split at found
    · exact Option.some.inj found
    · cases found
  have active : health.activeFaults.Perm ((sensorIds.map values).filter fun entry => entry.faulted) := by
    rw [activeFaults, entries]
    exact (keys.map values).filter _
  rw [state, stateOf, active.any_eq, active.length_eq]

variable {health : HealthMap} {timedOutSensors : Finset Bytes} {readings : List SensorReading}

theorem Reflects.hear (reflects : health.Reflects timedOutSensors readings) (reading : SensorReading) :
    HealthMap.Reflects (health.insert reading.sensorId reading.health) (timedOutSensors.erase reading.sensorId)
      (readings ++ [reading]) := by
  intro sensorId
  rw [lastOf_append]
  by_cases same : reading.sensorId = sensorId
  · subst same
    simp
  · rw [AList.lookup_insert_ne (Ne.symm same), reflects sensorId, if_neg same]
    simp only [Finset.mem_erase, Ne.symm same, ne_eq, not_false_eq_true, true_and]

theorem Reflects.recover (reflects : health.Reflects timedOutSensors readings) (reading : SensorReading)
    (passing : SensorHealth) :
    HealthMap.Reflects ((health.insert reading.sensorId passing).insert reading.sensorId reading.health)
      (timedOutSensors.erase reading.sensorId) (readings ++ [reading]) := by
  rw [AList.insert_insert]
  exact reflects.hear reading

theorem Reflects.silence (reflects : health.Reflects timedOutSensors readings) (sensorId : Bytes) :
    HealthMap.Reflects (health.insert sensorId ⟨true, .critical⟩) (insert sensorId timedOutSensors) readings := by
  intro other
  by_cases same : other = sensorId
  · subst same
    simp
  · rw [AList.lookup_insert_ne same, reflects other]
    simp only [Finset.mem_insert, same, false_or]

end HealthMap

namespace Server

variable {json : Bytes → Except Bytes Json} {clock : ℕ → LocalTime} {server middle after : Server}
  {labels : List (ℕ × Action)} {readings : List SensorReading} {connection : Connection}

/-- A connected server whose health reflects these readings. -/
def Heard (readings : List SensorReading) (server : Server) : Prop :=
  ∃ connection, server.phase = .connected connection ∧
    server.stateManager.sensorHealth.Reflects connection.timedOutSensors readings

theorem heard_check
    (reflects : server.stateManager.sensorHealth.Reflects connection.timedOutSensors readings) (now : ℕ) :
    Heard readings (check clock now connection server) := by
  have result := @checkSensorTimeouts_induction clock server now connection.lastSeenTimes connection.timedOutSensors
    expectedSensorIds (fun timedOut server => server.stateManager.sensorHealth.Reflects timedOut readings)
    (fun timedOut server sensorId _ _ _ held => held.silence sensorId) reflects
  exact ⟨_, rfl, result⟩

theorem heard_step {label : ℕ × Action} (heard : Heard readings server) (serves : label.2.serves = true)
    (moved : server.next json clock label = some after) :
    ∃ called, after.processed = server.processed ++ called ∧ Heard (readings ++ validReadings json called) after := by
  obtain ⟨connection, phase, reflects⟩ := heard
  obtain ⟨now, action⟩ := label
  cases action with
  | receive chunk =>
    simp only [next, step, phase] at moved
    split at moved
    · cases moved
      exact ⟨[], (List.append_nil _).symm, _, rfl, by simpa [validReadings] using reflects⟩
    · cases moved
  | message =>
    simp only [next, step, phase] at moved
    split at moved
    · rw [Option.map_eq_some_iff] at moved
      obtain ⟨⟨message, rest⟩, found, rfl⟩ := moved
      refine ⟨_, takeMessage_processed, ?_⟩
      by_cases empty : message = []
      · subst empty
        rw [takeMessage_empty]
        exact ⟨_, rfl, by simpa [validReadings] using reflects⟩
      · rw [if_neg empty]
        cases parsed : parse json message with
        | error error =>
          rw [takeMessage_error empty parsed]
          exact ⟨_, rfl, by simpa [validReadings, parsed, Except.toOption] using reflects⟩
        | ok reading =>
          rw [takeMessage_ok empty parsed]
          have single : validReadings json [message] = [reading] := by
            simp [validReadings, parsed, Except.toOption]
          rw [single]
          refine ⟨_, rfl, ?_⟩
          simp only [evaluate_stateManager]
          split
          · exact reflects.recover reading _
          · exact reflects.hear reading
    · cases moved
  | check =>
    simp only [next, step, phase] at moved
    split at moved
    · cases moved
      exact ⟨[], by rw [check_processed, List.append_nil], by simpa [validReadings] using heard_check reflects now⟩
    · cases moved
  | receiveTimeout =>
    simp only [next, step, phase] at moved
    split at moved
    · cases moved
      exact ⟨[], by rw [check_processed, List.append_nil], by simpa [validReadings] using heard_check reflects now⟩
    · cases moved
  | connect => cases serves
  | acceptFailure => cases serves
  | disconnect => cases serves
  | networkError => cases serves

theorem heard_run (heard : Heard readings server) (run : Runs json clock server labels after)
    (serving : ∀ label ∈ labels, label.2.serves = true) :
    ∃ called, after.processed = server.processed ++ called ∧ Heard (readings ++ validReadings json called) after := by
  induction run with
  | nil => exact ⟨[], (List.append_nil _).symm, by simpa [validReadings] using heard⟩
  | @snoc middle after labels label earlier last ih =>
    rw [List.forall_mem_append, List.forall_mem_singleton] at serving
    obtain ⟨called, before, held⟩ := ih serving.1
    obtain ⟨more, processed, next⟩ := heard_step held serving.2 last
    refine ⟨called ++ more, by rw [processed, before, List.append_assoc], ?_⟩
    rwa [validReadings, List.filterMap_append, ← List.append_assoc]

end Server

end CareerProjects.SensorMonitor
