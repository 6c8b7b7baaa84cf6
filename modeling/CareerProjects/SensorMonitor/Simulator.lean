import CareerProjects.Library.Sampling
import CareerProjects.SensorMonitor.Health

/-! The simulator of the sensors, and what the monitor makes of its messages. What it draws and the times that it
reads are parameters, as are the JSON libraries of the two programs. -/

namespace CareerProjects.SensorMonitor

open Library

inductive Scenario
  | normal | temperatureWarning | temperatureCritical | voltageWarning | voltageCritical | multipleFaults
  | invalidMotion | sensorTimeout
  deriving DecidableEq

/-- What is drawn in each cycle, and the time of each reading by its sequence number. -/
structure Draws where
  temperature : ℕ → ℚ
  voltage : ℕ → ℚ
  position : ℕ → ℚ
  motion : ℕ → Bool
  timestamp : ℕ → Bytes
  temperature_range : ∀ cycleNumber, 0 ≤ temperature cycleNumber ∧ temperature cycleNumber < 1
  voltage_range : ∀ cycleNumber, 0 ≤ voltage cycleNumber ∧ voltage cycleNumber < 1
  position_range : ∀ cycleNumber, 0 ≤ position cycleNumber ∧ position cycleNumber < 1

structure SimulatedReading where
  sensorId : Bytes
  sensorType : Bytes
  timestamp : Bytes
  value : ℚ
  unit : Bytes
  sequenceNumber : ℕ
  deriving DecidableEq

namespace SimulatedReading

def json (reading : SimulatedReading) : Json :=
  .object [(ascii "sensor_id", .string reading.sensorId), (ascii "sensor_type", .string reading.sensorType),
    (ascii "timestamp", .string reading.timestamp), (ascii "value", .float reading.value),
    (ascii "unit", .string reading.unit), (ascii "sequence_number", .unsigned reading.sequenceNumber)]

def received (reading : SimulatedReading) : SensorReading where
  sensorId := reading.sensorId
  sensorType := reading.sensorType
  timestamp := reading.timestamp
  value := reading.value
  unit := reading.unit
  sequenceNumber := .ofNat reading.sequenceNumber

end SimulatedReading

namespace Simulator

def createSensorReading (sensorId sensorType : Bytes) (value : ℚ) (unit : Bytes) (sequenceNumber : ℕ)
    (timestamp : Bytes) : SimulatedReading where
  sensorId := sensorId
  sensorType := sensorType
  timestamp := timestamp
  value := Doubles.round value 2
  unit := unit
  sequenceNumber := sequenceNumber

def getTemperatureValue (scenario : Scenario) (drawn : ℚ) : ℚ :=
  if scenario = .temperatureWarning then 90
  else if scenario = .temperatureCritical then 130
  else if scenario = .multipleFaults then 90
  else between 68 78 drawn

def getVoltageValue (scenario : Scenario) (drawn : ℚ) : ℚ :=
  if scenario = .voltageWarning then Doubles.double 13.2
  else if scenario = .voltageCritical then Doubles.double 15.2
  else if scenario = .multipleFaults then Doubles.double 13.2
  else between (Doubles.double 11.8) (Doubles.double 12.6) drawn

def getPositionValue (drawn : ℚ) : ℚ := between 0 100 drawn

def getMotionValue (scenario : Scenario) (drawn : Bool) : ℚ :=
  if scenario = .invalidMotion then 2
  else if drawn then 1 else 0

variable (draws : Draws) (scenario : Scenario)

def generateTemperatureReading (sequenceNumber cycleNumber : ℕ) : SimulatedReading :=
  createSensorReading (ascii "TEMP-01") (ascii "TEMPERATURE")
    (getTemperatureValue scenario (draws.temperature cycleNumber)) (ascii "F") sequenceNumber
    (draws.timestamp sequenceNumber)

def generateVoltageReading (sequenceNumber cycleNumber : ℕ) : SimulatedReading :=
  createSensorReading (ascii "VOLT-01") (ascii "VOLTAGE")
    (getVoltageValue scenario (draws.voltage cycleNumber)) (ascii "V") sequenceNumber
    (draws.timestamp sequenceNumber)

def generatePositionReading (sequenceNumber cycleNumber : ℕ) : SimulatedReading :=
  createSensorReading (ascii "POS-01") (ascii "POSITION")
    (getPositionValue (draws.position cycleNumber)) (ascii "unit") sequenceNumber
    (draws.timestamp sequenceNumber)

def generateMotionReading (sequenceNumber cycleNumber : ℕ) : SimulatedReading :=
  createSensorReading (ascii "MOTION-01") (ascii "MOTION")
    (getMotionValue scenario (draws.motion cycleNumber)) (ascii "state") sequenceNumber
    (draws.timestamp sequenceNumber)

def createSensorCycle (sequenceNumber cycleNumber : ℕ) : List SimulatedReading :=
  (if scenario ≠ .sensorTimeout ∨ cycleNumber ≤ 3 then
    [generateTemperatureReading draws scenario sequenceNumber cycleNumber] else []) ++
  [generateVoltageReading draws scenario (sequenceNumber + 1) cycleNumber,
    generatePositionReading draws (sequenceNumber + 2) cycleNumber,
    generateMotionReading draws scenario (sequenceNumber + 3) cycleNumber]

/-- The readings that the loop of `main` sends in so many cycles. -/
def sendCycles : ℕ → ℕ → ℕ → List SimulatedReading
  | 0, _, _ => []
  | cycles + 1, sequenceNumber, cycleNumber =>
    let sensorReadings := createSensorCycle draws scenario sequenceNumber cycleNumber
    sensorReadings ++ sendCycles cycles (sequenceNumber + sensorReadings.length) (cycleNumber + 1)

def sent (cycles : ℕ) : List SimulatedReading := sendCycles draws scenario cycles 1 1

def sentBytes (dumps : SimulatedReading → Bytes) (readings : List SimulatedReading) : Bytes :=
  readings.flatMap fun reading => dumps reading ++ [Server.newline]

/-- The text of a reading is one line, and the monitor reads it as it was. -/
structure Written (json : Bytes → Except Bytes Json) (dumps : SimulatedReading → Bytes)
    (readings : List SimulatedReading) : Prop where
  nonempty : ∀ reading ∈ readings, dumps reading ≠ []
  line : ∀ reading ∈ readings, Server.newline ∉ dumps reading
  read : ∀ reading ∈ readings, json (dumps reading) = .ok reading.json

end Simulator

/-- The health that a scenario gives a sensor whose readings come in. -/
def Scenario.health (scenario : Scenario) (sensorId : Bytes) : SensorHealth :=
  if sensorId = ascii "TEMP-01" then
    if scenario = .temperatureCritical then ⟨true, .critical⟩
    else if scenario = .temperatureWarning ∨ scenario = .multipleFaults then ⟨true, .warning⟩
    else {}
  else if sensorId = ascii "VOLT-01" then
    if scenario = .voltageCritical then ⟨true, .critical⟩
    else if scenario = .voltageWarning ∨ scenario = .multipleFaults then ⟨true, .warning⟩
    else {}
  else if sensorId = ascii "MOTION-01" ∧ scenario = .invalidMotion then ⟨true, .warning⟩
  else {}

/-- The state that a scenario leads to while all sensors send. -/
def Scenario.state : Scenario → SystemState
  | normal | sensorTimeout => .normal
  | temperatureWarning | voltageWarning | invalidMotion => .degraded
  | temperatureCritical | voltageCritical | multipleFaults => .safeMode

theorem names_distinct : [] ∉ expectedSensorIds ∧
    (∀ other ∈ [ascii "VOLTAGE", ascii "POSITION", ascii "MOTION"], other ≠ ascii "TEMPERATURE") ∧
    (∀ other ∈ [ascii "POSITION", ascii "MOTION"], other ≠ ascii "VOLTAGE") ∧ ascii "MOTION" ≠ ascii "POSITION" ∧
    (∀ other ∈ [ascii "VOLT-01", ascii "POS-01", ascii "MOTION-01"], other ≠ ascii "TEMP-01") ∧
    (∀ other ∈ [ascii "POS-01", ascii "MOTION-01"], other ≠ ascii "VOLT-01") ∧
    ascii "POS-01" ≠ ascii "MOTION-01" := by decide +kernel

theorem Scenario.state_eq (scenario : Scenario) :
    stateOf ((expectedSensorIds.map scenario.health).filter fun entry => entry.faulted) = scenario.state := by
  obtain ⟨-, -, -, -, temperature, voltage, position⟩ := names_distinct
  simp only [List.forall_mem_cons, List.not_mem_nil, false_imp_iff, implies_true, and_true] at temperature voltage
  cases scenario <;>
    simp [expectedSensorIds, Scenario.health, Scenario.state, stateOf, temperature, voltage, position]

namespace SimulatedReading

theorem parse_json {json : Bytes → Except Bytes Json} {text : Bytes} {reading : SimulatedReading}
    (read : json text = .ok reading.json) (named : reading.sensorId ≠ []) (typed : reading.sensorType ≠ []) :
    parse json text = .ok reading.received := by
  have sensorId : reading.json.field (ascii "sensor_id") = some (.string reading.sensorId) := rfl
  have sensorType : reading.json.field (ascii "sensor_type") = some (.string reading.sensorType) := rfl
  have timestamp : reading.json.field (ascii "timestamp") = some (.string reading.timestamp) := rfl
  have value : reading.json.field (ascii "value") = some (.float reading.value) := rfl
  have unit : reading.json.field (ascii "unit") = some (.string reading.unit) := rfl
  have sequenceNumber : reading.json.field (ascii "sequence_number") = some (.unsigned reading.sequenceNumber) := rfl
  have complete : requiredFields.find? (fun name => (reading.json.field name).isNone) = none := by
    simp [requiredFields, sensorId, sensorType, timestamp, value, unit, sequenceNumber]
  rw [parse, read]
  simp only [complete, sensorId, sensorType, timestamp, value, unit, sequenceNumber, Option.bind_some, Json.string?,
    Json.double?, Json.uint64?, if_neg named, if_neg typed]
  rfl

/-- A reading of a scenario: it comes from an expected sensor and shows the health that the scenario gives it. -/
structure Shows (reading : SimulatedReading) (scenario : Scenario) : Prop where
  expected : reading.sensorId ∈ expectedSensorIds
  typed : reading.sensorType ≠ []
  health : reading.received.health = scenario.health reading.sensorId

theorem Shows.named {reading : SimulatedReading} {scenario : Scenario} (shows : reading.Shows scenario) :
    reading.sensorId ≠ [] := by
  intro empty
  exact names_distinct.1 (empty ▸ shows.expected)

end SimulatedReading

namespace Simulator

variable {draws : Draws} {scenario : Scenario}

theorem values_analyzed :
    (65 ≤ Doubles.round (between 68 78 0) 2 ∧ Doubles.round (between 68 78 1) 2 ≤ 85 ∧
      FaultDetector.analyzeTemperature (Doubles.round 90 2) =
        ⟨true, .warning, ascii "TEMPERATURE_OUT_OF_RANGE",
          ascii "Temperature is outside the normal operating range."⟩ ∧
      FaultDetector.analyzeTemperature (Doubles.round 130 2) =
        ⟨true, .critical, ascii "CRITICAL_TEMPERATURE",
          ascii "Temperature exceeded the critical safety limit."⟩) ∧
    ((10 ≤ Doubles.double 11.5 ∧ Doubles.double 12.8 ≤ Doubles.double 14.5) ∧
      Doubles.double 11.5 ≤ Doubles.round (between (Doubles.double 11.8) (Doubles.double 12.6) 0) 2 ∧
      Doubles.round (between (Doubles.double 11.8) (Doubles.double 12.6) 1) 2 ≤ Doubles.double 12.8 ∧
      FaultDetector.analyzeVoltage (Doubles.round (Doubles.double 13.2) 2) =
        ⟨true, .warning, ascii "VOLTAGE_OUT_OF_RANGE", ascii "Voltage is outside the normal operating range."⟩ ∧
      FaultDetector.analyzeVoltage (Doubles.round (Doubles.double 15.2) 2) =
        ⟨true, .critical, ascii "CRITICAL_VOLTAGE", ascii "Voltage exceeded the critical safety limit."⟩) ∧
    (0 ≤ Doubles.round (between 0 100 0) 2 ∧ Doubles.round (between 0 100 1) 2 ≤ 100) ∧
    FaultDetector.analyzeMotion (Doubles.round 0 2) = {} ∧ FaultDetector.analyzeMotion (Doubles.round 1 2) = {} ∧
    FaultDetector.analyzeMotion (Doubles.round 2 2) =
      ⟨true, .warning, ascii "INVALID_MOTION_STATE", ascii "Motion value must be either 0 or 1."⟩ := by
  decide +kernel

theorem temperature_range (cycleNumber : ℕ) :
    65 ≤ Doubles.round (between 68 78 (draws.temperature cycleNumber)) 2 ∧
      Doubles.round (between 68 78 (draws.temperature cycleNumber)) 2 ≤ 85 := by
  have range := @round_between_range 68 _ 78 2 (by norm_num) (draws.temperature_range cycleNumber)
  obtain ⟨least, most, -⟩ := values_analyzed.1
  exact ⟨least.trans range.1, range.2.trans most⟩

theorem voltage_range (cycleNumber : ℕ) :
    let value := Doubles.round (between (Doubles.double 11.8) (Doubles.double 12.6) (draws.voltage cycleNumber)) 2
    Doubles.double 11.5 ≤ value ∧ value ≤ Doubles.double 12.8 := by
  have range := @round_between_range (Doubles.double 11.8) _ (Doubles.double 12.6) 2 (Doubles.double_nonneg _)
    (draws.voltage_range cycleNumber)
  obtain ⟨-, least, most, -⟩ := values_analyzed.2.1
  exact ⟨least.trans range.1, range.2.trans most⟩

theorem position_range (cycleNumber : ℕ) :
    0 ≤ Doubles.round (getPositionValue (draws.position cycleNumber)) 2 ∧
      Doubles.round (getPositionValue (draws.position cycleNumber)) 2 ≤ 100 := by
  have range := @round_between_range 0 _ 100 2 le_rfl (draws.position_range cycleNumber)
  obtain ⟨least, most⟩ := values_analyzed.2.2.1
  exact ⟨least.trans range.1, range.2.trans most⟩

theorem temperature_shows (sequenceNumber cycleNumber : ℕ) :
    (generateTemperatureReading draws scenario sequenceNumber cycleNumber).Shows scenario where
  expected := List.mem_cons_self
  typed := List.cons_ne_nil _ _
  health := by
    have range := @temperature_range draws cycleNumber
    have passing : FaultDetector.analyzeTemperature
        (Doubles.round (between 68 78 (draws.temperature cycleNumber)) 2) = {} := by
      unfold FaultDetector.analyzeTemperature
      rw [if_neg (by grind), if_neg (by grind)]
    obtain ⟨-, -, warning, critical⟩ := values_analyzed.1
    simp only [SensorReading.health, FaultDetector.analyze, generateTemperatureReading, createSensorReading,
      SimulatedReading.received, if_pos, Scenario.health]
    cases scenario <;> simp [getTemperatureValue, passing, warning, critical]

theorem voltage_shows (sequenceNumber cycleNumber : ℕ) :
    (generateVoltageReading draws scenario sequenceNumber cycleNumber).Shows scenario where
  expected := List.mem_cons_of_mem _ List.mem_cons_self
  typed := List.cons_ne_nil _ _
  health := by
    have range := @voltage_range draws cycleNumber
    obtain ⟨⟨low, high⟩, -, -, warning, critical⟩ := values_analyzed.2.1
    have passing : FaultDetector.analyzeVoltage (Doubles.round
        (between (Doubles.double 11.8) (Doubles.double 12.6) (draws.voltage cycleNumber)) 2) = {} := by
      unfold FaultDetector.analyzeVoltage
      rw [if_neg (by grind), if_neg (by grind)]
    have other : ascii "VOLTAGE" ≠ ascii "TEMPERATURE" ∧ ascii "VOLT-01" ≠ ascii "TEMP-01" :=
      ⟨names_distinct.2.1 _ (by simp), names_distinct.2.2.2.2.1 _ (by simp)⟩
    simp only [SensorReading.health, FaultDetector.analyze, generateVoltageReading, createSensorReading,
      SimulatedReading.received, if_neg other.1, if_neg other.2, if_pos, Scenario.health]
    cases scenario <;> simp [getVoltageValue, passing, warning, critical]

theorem position_shows (sequenceNumber cycleNumber : ℕ) :
    (generatePositionReading draws sequenceNumber cycleNumber).Shows scenario where
  expected := List.mem_cons_of_mem _ (List.mem_cons_of_mem _ List.mem_cons_self)
  typed := List.cons_ne_nil _ _
  health := by
    have range := @position_range draws cycleNumber
    have passing : FaultDetector.analyzePosition (Doubles.round (getPositionValue (draws.position cycleNumber)) 2) =
        {} := by
      unfold FaultDetector.analyzePosition
      rw [if_neg (by grind)]
    have other : ascii "POSITION" ≠ ascii "TEMPERATURE" ∧ ascii "POSITION" ≠ ascii "VOLTAGE" ∧
        ascii "POS-01" ≠ ascii "TEMP-01" ∧ ascii "POS-01" ≠ ascii "VOLT-01" ∧ ascii "POS-01" ≠ ascii "MOTION-01" :=
      ⟨names_distinct.2.1 _ (by simp), names_distinct.2.2.1 _ (by simp), names_distinct.2.2.2.2.1 _ (by simp),
        names_distinct.2.2.2.2.2.1 _ (by simp), names_distinct.2.2.2.2.2.2⟩
    simp only [SensorReading.health, FaultDetector.analyze, generatePositionReading, createSensorReading,
      SimulatedReading.received, if_neg other.1, if_neg other.2.1, if_neg other.2.2.1, if_neg other.2.2.2.1,
      other.2.2.2.2, false_and, if_false, if_pos, Scenario.health, passing]

theorem motion_shows (sequenceNumber cycleNumber : ℕ) :
    (generateMotionReading draws scenario sequenceNumber cycleNumber).Shows scenario where
  expected := List.mem_cons_of_mem _ (List.mem_cons_of_mem _ (List.mem_cons_of_mem _ List.mem_cons_self))
  typed := List.cons_ne_nil _ _
  health := by
    obtain ⟨still, moving, invalid⟩ := values_analyzed.2.2.2
    have other : ascii "MOTION" ≠ ascii "TEMPERATURE" ∧ ascii "MOTION" ≠ ascii "VOLTAGE" ∧
        ascii "MOTION" ≠ ascii "POSITION" ∧ ascii "MOTION-01" ≠ ascii "TEMP-01" ∧
        ascii "MOTION-01" ≠ ascii "VOLT-01" :=
      ⟨names_distinct.2.1 _ (by simp), names_distinct.2.2.1 _ (by simp), names_distinct.2.2.2.1,
        names_distinct.2.2.2.2.1 _ (by simp), names_distinct.2.2.2.2.2.1 _ (by simp)⟩
    simp only [SensorReading.health, FaultDetector.analyze, generateMotionReading, createSensorReading,
      SimulatedReading.received, if_neg other.1, if_neg other.2.1, if_neg other.2.2.1, if_neg other.2.2.2.1,
      if_neg other.2.2.2.2, if_pos, Scenario.health]
    cases scenario <;> cases draws.motion cycleNumber <;> simp [getMotionValue, still, moving, invalid]

theorem cycle_shows (sequenceNumber cycleNumber : ℕ) :
    ∀ reading ∈ createSensorCycle draws scenario sequenceNumber cycleNumber, reading.Shows scenario := by
  unfold createSensorCycle
  refine List.forall_mem_append.mpr ⟨?_, ?_⟩
  · split
    · simpa using temperature_shows sequenceNumber cycleNumber
    · simp
  · simpa using ⟨voltage_shows _ cycleNumber, position_shows _ cycleNumber, motion_shows _ cycleNumber⟩

theorem sendCycles_shows (cycles sequenceNumber cycleNumber : ℕ) :
    ∀ reading ∈ sendCycles draws scenario cycles sequenceNumber cycleNumber, reading.Shows scenario := by
  induction cycles generalizing sequenceNumber cycleNumber with
  | zero => simp [sendCycles]
  | succ cycles ih => exact List.forall_mem_append.mpr ⟨cycle_shows sequenceNumber cycleNumber, ih _ _⟩

/-- The sequence number of the message with this index: a gap comes where the temperature sensor falls silent. -/
def number (scenario : Scenario) (index : ℕ) : ℕ :=
  if scenario = .sensorTimeout ∧ 12 ≤ index then index + 2 else index + 1

theorem sendCycles_numbers (cycles : ℕ) {index cycleNumber : ℕ}
    (placed : scenario = .sensorTimeout → 1 ≤ cycleNumber ∧
      (cycleNumber ≤ 4 → index = 4 * (cycleNumber - 1)) ∧ (4 ≤ cycleNumber → 12 ≤ index)) :
    (sendCycles draws scenario cycles (index + 1) cycleNumber).map (·.sequenceNumber) =
      (List.range' index (sendCycles draws scenario cycles (index + 1) cycleNumber).length).map (number scenario) := by
  induction cycles generalizing index cycleNumber with
  | zero => rfl
  | succ cycles ih =>
    rw [sendCycles]
    simp only [List.map_append, List.length_append, List.range'_append_1.symm]
    by_cases complete : scenario ≠ .sensorTimeout ∨ cycleNumber ≤ 3
    · have length : (createSensorCycle draws scenario (index + 1) cycleNumber).length = 4 := by
        simp [createSensorCycle, complete]
      have next := @ih (index + 4) (cycleNumber + 1) (by grind)
      rw [length, show index + 1 + 4 = index + 4 + 1 by omega, next]
      congr 1
      simp only [createSensorCycle, if_pos complete, List.range', number, List.map_cons, List.map_nil,
        generateTemperatureReading, generateVoltageReading, generatePositionReading, generateMotionReading,
        createSensorReading, List.cons_append, List.nil_append, List.cons.injEq, and_true]
      grind
    · obtain ⟨timeout, late⟩ : scenario = .sensorTimeout ∧ 3 < cycleNumber := by grind
      have length : (createSensorCycle draws scenario (index + 1) cycleNumber).length = 3 := by
        simp [createSensorCycle, timeout, Nat.not_le.mpr late]
      have next := @ih (index + 3) (cycleNumber + 1) (by grind)
      rw [length, show index + 1 + 3 = index + 3 + 1 by omega, next]
      congr 1
      have silent : ¬(scenario ≠ .sensorTimeout ∨ cycleNumber ≤ 3) := by grind
      simp only [createSensorCycle, if_neg silent, List.range', number, List.map_cons, List.map_nil,
        generateVoltageReading, generatePositionReading, generateMotionReading,
        createSensorReading, List.nil_append, List.cons.injEq, and_true]
      grind

theorem sent_numbers (cycles : ℕ) : (sent draws scenario cycles).map (·.sequenceNumber) =
    (List.range (sent draws scenario cycles).length).map (number scenario) := by
  rw [List.range_eq_range']
  exact @sendCycles_numbers draws scenario cycles 0 1 (by simp)

theorem sendCycles_silent (cycles sequenceNumber : ℕ) {cycleNumber : ℕ} (late : 3 < cycleNumber) :
    ∀ reading ∈ sendCycles draws .sensorTimeout cycles sequenceNumber cycleNumber,
      reading.sensorId ≠ ascii "TEMP-01" := by
  induction cycles generalizing sequenceNumber cycleNumber with
  | zero => simp [sendCycles]
  | succ cycles ih =>
    refine List.forall_mem_append.mpr ⟨?_, ih _ (by omega)⟩
    have other : ascii "VOLT-01" ≠ ascii "TEMP-01" ∧ ascii "POS-01" ≠ ascii "TEMP-01" ∧
        ascii "MOTION-01" ≠ ascii "TEMP-01" :=
      ⟨names_distinct.2.2.2.2.1 _ (by simp), names_distinct.2.2.2.2.1 _ (by simp),
        names_distinct.2.2.2.2.1 _ (by simp)⟩
    have silent : ¬((Scenario.sensorTimeout ≠ .sensorTimeout) ∨ cycleNumber ≤ 3) := by
      simp only [ne_eq, not_true_eq_false, false_or]
      omega
    rw [createSensorCycle, if_neg silent]
    simpa [generateVoltageReading, generatePositionReading, generateMotionReading, createSensorReading] using other

theorem sent_silent (cycles : ℕ) : ∀ reading ∈ (sent draws .sensorTimeout cycles).drop 12,
    reading.sensorId ≠ ascii "TEMP-01" := by
  match cycles with
  | 0 => simp [sent, sendCycles]
  | 1 => simp [sent, sendCycles, createSensorCycle]
  | 2 => simp [sent, sendCycles, createSensorCycle]
  | cycles + 3 =>
    have rest : (sent draws .sensorTimeout (cycles + 3)).drop 12 = sendCycles draws .sensorTimeout cycles 13 4 := by
      simp [sent, sendCycles, createSensorCycle]
    rw [rest]
    exact sendCycles_silent cycles 13 (by omega)

theorem sent_first {cycles count : ℕ} (four : 4 ≤ count) (some : count ≤ (sent draws scenario cycles).length) :
    ∀ sensorId ∈ expectedSensorIds, ∃ reading ∈ (sent draws scenario cycles).take count,
      reading.sensorId = sensorId := by
  cases cycles with
  | zero =>
    simp only [sent, sendCycles, List.length_nil] at some
    omega
  | succ cycles =>
    have length : (createSensorCycle draws scenario 1 1).length = 4 := by simp [createSensorCycle]
    have start : createSensorCycle draws scenario 1 1 <+: (sent draws scenario (cycles + 1)).take count :=
      List.prefix_take_iff.mpr ⟨List.prefix_append _ _, length ▸ four⟩
    have sensors : (createSensorCycle draws scenario 1 1).map (·.sensorId) = expectedSensorIds := by
      simp [createSensorCycle, generateTemperatureReading, generateVoltageReading, generatePositionReading,
        generateMotionReading, createSensorReading, expectedSensorIds]
    intro sensorId member
    rw [← sensors, List.mem_map] at member
    obtain ⟨reading, among, same⟩ := member
    exact ⟨reading, start.subset among, same⟩

end Simulator

end CareerProjects.SensorMonitor
