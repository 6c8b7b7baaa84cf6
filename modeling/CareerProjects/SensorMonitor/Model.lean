import Mathlib.Data.List.AList
import CareerProjects.Library.Doubles

/-! The parts of the sensor monitor: messages and their parser, the fault detector, and the manager of
the operating state. Strings are lists of bytes. -/

namespace CareerProjects.SensorMonitor
open Library

abbrev Bytes := List UInt8

def ascii (text : String) : Bytes := text.toList.map fun c => .ofNat c.toNat

/-- The values of the JSON library. A double is the number that it is. -/
inductive Json
  | null
  | boolean (value : Bool)
  | integer (value : ℤ)
  | unsigned (value : ℕ)
  | float (value : ℚ)
  | string (value : Bytes)
  | array (values : List Json)
  | object (fields : List (Bytes × Json))

namespace Json

/-- `contains`; `none` where `at` would raise. -/
def field (json : Json) (name : Bytes) : Option Json :=
  match json with
  | .object fields => fields.lookup name
  | _ => none

def string? : Json → Option Bytes
  | .string value => some value
  | _ => none

def double? : Json → Option ℚ
  | .integer value => some (if 0 ≤ value then Doubles.double value else -Doubles.double (-value))
  | .unsigned value => some (Doubles.double value)
  | .float value => some value
  | _ => none

def uint64? : Json → Option UInt64
  | .integer value => some (.ofInt value)
  | .unsigned value => some (.ofNat value)
  | _ => none

end Json

structure SensorReading where
  sensorId : Bytes
  sensorType : Bytes
  timestamp : Bytes
  value : ℚ
  unit : Bytes
  sequenceNumber : UInt64
  deriving DecidableEq

def requiredFields : List Bytes :=
  [ascii "sensor_id", ascii "sensor_type", ascii "timestamp", ascii "value", ascii "unit",
    ascii "sequence_number"]

/-- `SensorMessageParser::parse`, over the parser of the JSON library, which returns a value or the text
of its exception. -/
def parse (json : Bytes → Except Bytes Json) (message : Bytes) : Except Bytes SensorReading :=
  match json message with
  | .error what => .error (ascii "Invalid JSON message: " ++ what)
  | .ok parsedMessage =>
    match requiredFields.find? fun name => (parsedMessage.field name).isNone with
    | some fieldName => .error (ascii "Missing required field: " ++ fieldName)
    | none =>
      match (parsedMessage.field (ascii "sensor_id")).bind Json.string?,
          (parsedMessage.field (ascii "sensor_type")).bind Json.string?,
          (parsedMessage.field (ascii "timestamp")).bind Json.string?,
          (parsedMessage.field (ascii "unit")).bind Json.string? with
      | some sensorId, some sensorType, some timestamp, some unit =>
        match (parsedMessage.field (ascii "value")).bind Json.double? with
        | none => .error (ascii "The value field must contain a number.")
        | some value =>
          match (parsedMessage.field (ascii "sequence_number")).bind Json.uint64? with
          | none => .error (ascii "The sequence_number field must contain an integer.")
          | some sequenceNumber =>
            if sensorId = [] then .error (ascii "The sensor_id field cannot be empty.")
            else if sensorType = [] then .error (ascii "The sensor_type field cannot be empty.")
            else .ok ⟨sensorId, sensorType, timestamp, value, unit, sequenceNumber⟩
      | _, _, _, _ => .error (ascii "One or more text fields contain an invalid type.")

inductive FaultSeverity
  | none | warning | critical
  deriving DecidableEq, Repr

def faultSeverityToString : FaultSeverity → Bytes
  | .warning => ascii "WARNING"
  | .critical => ascii "CRITICAL"
  | .none => ascii "NONE"

structure Fault where
  detected : Bool := false
  severity : FaultSeverity := .none
  type : Bytes := ascii "NONE"
  message : Bytes := ascii "Sensor reading is within the acceptable range."
  deriving DecidableEq

namespace FaultDetector

def analyzeTemperature (value : ℚ) : Fault :=
  if value < 32 ∨ 120 < value then
    ⟨true, .critical, ascii "CRITICAL_TEMPERATURE", ascii "Temperature exceeded the critical safety limit."⟩
  else if value < 65 ∨ 85 < value then
    ⟨true, .warning, ascii "TEMPERATURE_OUT_OF_RANGE",
      ascii "Temperature is outside the normal operating range."⟩
  else {}

def analyzeVoltage (value : ℚ) : Fault :=
  if value < 10 ∨ Doubles.double 14.5 < value then
    ⟨true, .critical, ascii "CRITICAL_VOLTAGE", ascii "Voltage exceeded the critical safety limit."⟩
  else if value < Doubles.double 11.5 ∨ Doubles.double 12.8 < value then
    ⟨true, .warning, ascii "VOLTAGE_OUT_OF_RANGE", ascii "Voltage is outside the normal operating range."⟩
  else {}

def analyzePosition (value : ℚ) : Fault :=
  if value < 0 ∨ 100 < value then
    ⟨true, .warning, ascii "POSITION_OUT_OF_RANGE", ascii "Position is outside the permitted boundary."⟩
  else {}

def analyzeMotion (value : ℚ) : Fault :=
  if value ≠ 0 ∧ value ≠ 1 then
    ⟨true, .warning, ascii "INVALID_MOTION_STATE", ascii "Motion value must be either 0 or 1."⟩
  else {}

def analyze (reading : SensorReading) : Fault :=
  if reading.sensorType = ascii "TEMPERATURE" then analyzeTemperature reading.value
  else if reading.sensorType = ascii "VOLTAGE" then analyzeVoltage reading.value
  else if reading.sensorType = ascii "POSITION" then analyzePosition reading.value
  else if reading.sensorType = ascii "MOTION" then analyzeMotion reading.value
  else
    ⟨true, .warning, ascii "UNKNOWN_SENSOR_TYPE", ascii "The system received an unsupported sensor type."⟩

end FaultDetector

inductive SystemState
  | normal | degraded | safeMode
  deriving DecidableEq, Repr

def SystemState.name : SystemState → Bytes
  | .degraded => ascii "DEGRADED"
  | .safeMode => ascii "SAFE_MODE"
  | .normal => ascii "NORMAL"

structure SensorHealth where
  faulted : Bool := false
  severity : FaultSeverity := .none
  deriving DecidableEq

abbrev HealthMap := AList fun _ : Bytes => SensorHealth

namespace HealthMap

def activeFaults (health : HealthMap) : List SensorHealth :=
  (health.entries.map fun entry => entry.2).filter fun entry => entry.faulted

def state (health : HealthMap) : SystemState :=
  if health.activeFaults.any (fun entry => entry.severity = .critical) ∨ 2 ≤ health.activeFaults.length then
    .safeMode
  else if health.activeFaults.length = 1 then .degraded
  else .normal

end HealthMap

/-- The state is always the one that the health of the sensors calls for. -/
structure SystemStateManager where
  sensorHealth : HealthMap := ∅
  currentState : SystemState := .normal
  recalculated : currentState = sensorHealth.state := by rfl

namespace SystemStateManager

def update (manager : SystemStateManager) (sensorId : Bytes) (fault : Fault) : SystemStateManager where
  sensorHealth := manager.sensorHealth.insert sensorId ⟨fault.detected, fault.severity⟩
  currentState := HealthMap.state (manager.sensorHealth.insert sensorId ⟨fault.detected, fault.severity⟩)
  recalculated := rfl

end SystemStateManager

variable {health : HealthMap} {sensorId other : Bytes} {entry : SensorHealth}

def HealthMap.Critical (health : HealthMap) (sensorId : Bytes) : Prop :=
  health.lookup sensorId = some ⟨true, .critical⟩

theorem HealthMap.mem_activeFaults : entry ∈ health.activeFaults ↔
    entry.faulted = true ∧ ∃ sensorId, health.lookup sensorId = some entry := by
  rw [HealthMap.activeFaults, List.mem_filter, List.mem_map, and_comm]
  refine and_congr_right fun _ => ?_
  constructor
  · rintro ⟨⟨sensorId, held⟩, member, rfl⟩
    exact ⟨sensorId, AList.mem_lookup_iff.mpr member⟩
  · rintro ⟨sensorId, found⟩
    exact ⟨⟨sensorId, entry⟩, AList.mem_lookup_iff.mp found, rfl⟩

theorem HealthMap.Critical.safeMode (critical : health.Critical sensorId) : health.state = .safeMode := by
  have active : (⟨true, .critical⟩ : SensorHealth) ∈ health.activeFaults :=
    mem_activeFaults.mpr ⟨rfl, sensorId, critical⟩
  have any : health.activeFaults.any (fun entry => entry.severity = .critical) = true :=
    List.any_eq_true.mpr ⟨_, active, rfl⟩
  simp [HealthMap.state, any]

theorem SystemStateManager.critical_update {manager : SystemStateManager} {fault : Fault}
    (critical : manager.sensorHealth.Critical sensorId)
    (harmless : other ≠ sensorId ∨ (fault.detected = true ∧ fault.severity = .critical)) :
    (manager.update other fault).sensorHealth.Critical sensorId := by
  unfold HealthMap.Critical SystemStateManager.update
  by_cases same : sensorId = other
  · subst same
    rw [AList.lookup_insert]
    grind
  · rw [AList.lookup_insert_ne same]
    exact critical

/-- The state is safe mode exactly with a critical fault or two faults, degraded with one that is not
critical, and normal with none. -/
theorem HealthMap.state_iff :
    (health.state = .safeMode ↔
      (∃ entry ∈ health.activeFaults, entry.severity = .critical) ∨ 2 ≤ health.activeFaults.length) ∧
    (health.state = .degraded ↔ ∃ entry, health.activeFaults = [entry] ∧ entry.severity ≠ .critical) ∧
    (health.state = .normal ↔ health.activeFaults = []) := by
  unfold HealthMap.state
  generalize health.activeFaults = faults
  match faults with
  | [] => simp
  | [entry] =>
    by_cases critical : entry.severity = .critical <;> simp [critical]
  | first :: second :: rest => simp

end CareerProjects.SensorMonitor
