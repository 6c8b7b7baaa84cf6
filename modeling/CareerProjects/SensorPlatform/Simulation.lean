import CareerProjects.Library.Lines
import CareerProjects.Library.Sampling
import CareerProjects.SensorPlatform.HardwareTesting

/-! The simulated sensors, and what the analysis finds in their readings. The random generator is a parameter. -/

namespace CareerProjects.SensorPlatform

open Library

/-- Operating condition used when generating a sensor value. -/
inductive SimulationMode
  | normal | warning | fault
  deriving DecidableEq

structure SensorConfig where
  minimum : ℚ
  maximum : ℚ
  unit : String

def NORMAL_CONFIGS : SensorType → SensorConfig
  | .temperature => ⟨20, 30, "C"⟩
  | .voltage => ⟨23 / 2, 25 / 2, "V"⟩
  | .current => ⟨1 / 2, 5, "A"⟩
  | .vibration => ⟨0, 4, "mm/s"⟩

def WARNING_CONFIGS : SensorType → SensorConfig
  | .temperature => ⟨Doubles.double (301 / 10), Doubles.double (349 / 10), "C"⟩
  | .voltage => ⟨Doubles.double (126 / 10), Doubles.double (134 / 10), "V"⟩
  | .current => ⟨Doubles.double (51 / 10), Doubles.double (69 / 10), "A"⟩
  | .vibration => ⟨Doubles.double (41 / 10), Doubles.double (69 / 10), "mm/s"⟩

def FAULT_CONFIGS : SensorType → SensorConfig
  | .temperature => ⟨Doubles.double (351 / 10), 45, "C"⟩
  | .voltage => ⟨Doubles.double (136 / 10), 15, "V"⟩
  | .current => ⟨Doubles.double (71 / 10), 10, "A"⟩
  | .vibration => ⟨Doubles.double (71 / 10), 12, "mm/s"⟩

def MODE_CONFIGS : SimulationMode → SensorType → SensorConfig
  | .normal => NORMAL_CONFIGS
  | .warning => WARNING_CONFIGS
  | .fault => FAULT_CONFIGS

structure SensorSimulator (source : RandomSource) where
  sensorId : String
  sensorType : SensorType
  random : source.State

def drawnMode (warningRate faultRate probability : ℚ) : SimulationMode :=
  if probability < faultRate then .fault
  else if probability < Doubles.plus faultRate warningRate then .warning
  else .normal

def validateRate (name : String) (rate : ℚ) : Except String Unit :=
  if 0 ≤ rate ∧ rate ≤ 1 then .ok () else .error (name ++ " must be between 0 and 1")

namespace SensorSimulator

variable {source : RandomSource}

def create (source : RandomSource) (sensorId : String) (sensorType : SensorType) (seed : ℤ) :
    Except String (SensorSimulator source) :=
  if strip sensorId.toList = [] then .error "sensor_id cannot be empty"
  else .ok ⟨sensorId, sensorType, source.seeded seed⟩

def generateReading (simulator : SensorSimulator source) (mode : SimulationMode) (now : ℕ) :
    SensorReading × SensorSimulator source :=
  let config := MODE_CONFIGS mode simulator.sensorType
  let (number, random) := source.uniform config.minimum config.maximum simulator.random
  ({ sensorId := simulator.sensorId
     sensorType := simulator.sensorType
     value := Doubles.round number 3
     unit := config.unit
     timestamp := ⟨now, some 0⟩
     status := .normal },
    { simulator with random := random })

/-- The loop of a batch, whose readings are made at the times of the clock. -/
def generateReadings (warningRate faultRate : ℚ) :
    ℕ → (ℕ → ℕ) → SensorSimulator source → List SensorReading × SensorSimulator source
  | 0, _, simulator => ([], simulator)
  | n + 1, clock, simulator =>
    let (probability, random) := source.random simulator.random
    let mode := drawnMode warningRate faultRate probability
    let (reading, next) := { simulator with random := random }.generateReading mode (clock 0)
    let (readings, last) := generateReadings warningRate faultRate n (fun i => clock (i + 1)) next
    (reading :: readings, last)

def generateBatch (simulator : SensorSimulator source) (count : ℤ) (warningRate faultRate : ℚ) (clock : ℕ → ℕ) :
    Except String (List SensorReading × SensorSimulator source) :=
  if count ≤ 0 then .error "count must be greater than zero"
  else do
    validateRate "warning_rate" warningRate
    validateRate "fault_rate" faultRate
    if 1 < Doubles.plus warningRate faultRate then
      throw "warning_rate and fault_rate cannot total more than 1"
    return generateReadings warningRate faultRate count.toNat clock simulator

end SensorSimulator

/-- The status that the analysis is to find in a reading of this condition. -/
def SimulationMode.status : SimulationMode → SensorStatus
  | normal => .normal
  | warning => .warning
  | fault => .fault

namespace SensorConfig

/-- All values of the range, rounded to three digits, lie in the range. -/
def Closed (config : SensorConfig) : Prop :=
  0 ≤ config.minimum ∧ config.minimum ≤ config.maximum ∧
    config.minimum ≤ Doubles.round (between config.minimum config.maximum 0) 3 ∧
    Doubles.round (between config.minimum config.maximum 1) 3 ≤ config.maximum

def Found (config : SensorConfig) (threshold : SensorThreshold) : SimulationMode → Prop
  | .normal => threshold.normalMinimum ≤ config.minimum ∧ config.maximum ≤ threshold.normalMaximum
  | .warning => threshold.normalMaximum < config.minimum ∧ config.maximum ≤ threshold.criticalMaximum
  | .fault => threshold.criticalMaximum < config.minimum

end SensorConfig

theorem configs_closed (mode : SimulationMode) (sensorType : SensorType) : (MODE_CONFIGS mode sensorType).Closed := by
  unfold SensorConfig.Closed
  cases mode <;> cases sensorType <;> decide +kernel

theorem configs_found (mode : SimulationMode) (sensorType : SensorType) :
    (MODE_CONFIGS mode sensorType).Found (DEFAULT_THRESHOLDS sensorType) mode := by
  cases mode <;> cases sensorType <;> simp only [SensorConfig.Found] <;> decide +kernel

namespace FaultDetector

variable {detector : FaultDetector} {reading : SensorReading}

theorem analyze_normal (least : (detector.thresholds reading.sensorType).normalMinimum ≤ reading.value)
    (most : reading.value ≤ (detector.thresholds reading.sensorType).normalMaximum) :
    (detector.analyze reading).reading = { reading with status := .normal } := by
  rw [analyze, if_pos ⟨least, most⟩]

theorem analyze_warning (unusual : reading.value < (detector.thresholds reading.sensorType).normalMinimum ∨
      (detector.thresholds reading.sensorType).normalMaximum < reading.value)
    (least : (detector.thresholds reading.sensorType).criticalMinimum ≤ reading.value)
    (most : reading.value ≤ (detector.thresholds reading.sensorType).criticalMaximum) :
    (detector.analyze reading).reading = { reading with status := .warning } := by
  have outside : ¬((detector.thresholds reading.sensorType).normalMinimum ≤ reading.value ∧
      reading.value ≤ (detector.thresholds reading.sensorType).normalMaximum) := by
    rwa [not_and_or, not_le, not_le]
  rw [analyze, if_neg outside, if_pos ⟨least, most⟩]

theorem analyze_fault (unusual : reading.value < (detector.thresholds reading.sensorType).normalMinimum ∨
      (detector.thresholds reading.sensorType).normalMaximum < reading.value)
    (critical : reading.value < (detector.thresholds reading.sensorType).criticalMinimum ∨
      (detector.thresholds reading.sensorType).criticalMaximum < reading.value) :
    (detector.analyze reading).reading = { reading with status := .fault } := by
  have outside : ¬((detector.thresholds reading.sensorType).normalMinimum ≤ reading.value ∧
      reading.value ≤ (detector.thresholds reading.sensorType).normalMaximum) := by
    rwa [not_and_or, not_le, not_le]
  have beyond : ¬((detector.thresholds reading.sensorType).criticalMinimum ≤ reading.value ∧
      reading.value ≤ (detector.thresholds reading.sensorType).criticalMaximum) := by
    rwa [not_and_or, not_le, not_le]
  rw [analyze, if_neg outside, if_neg beyond]

end FaultDetector

namespace SensorSimulator

variable {source : RandomSource} {simulator : SensorSimulator source} {mode : SimulationMode} {now : ℕ}

theorem generateReading_range : (MODE_CONFIGS mode simulator.sensorType).minimum ≤
      (simulator.generateReading mode now).1.value ∧
    (simulator.generateReading mode now).1.value ≤ (MODE_CONFIGS mode simulator.sensorType).maximum := by
  obtain ⟨start, -, least, most⟩ := configs_closed mode simulator.sensorType
  have range := round_between_range (MODE_CONFIGS mode simulator.sensorType).maximum 3 start
    (source.random_range simulator.random)
  exact ⟨least.trans range.1, range.2.trans most⟩

theorem analyze_generateReading :
    (({} : FaultDetector).analyze (simulator.generateReading mode now).1).reading =
      { (simulator.generateReading mode now).1 with status := mode.status } := by
  obtain ⟨least, most⟩ := @generateReading_range _ simulator mode now
  have found := configs_found mode simulator.sensorType
  obtain ⟨critical, width, excess⟩ := (DEFAULT_THRESHOLDS simulator.sensorType).ordered
  cases mode with
  | normal =>
    exact FaultDetector.analyze_normal (found.1.trans least) (most.trans found.2)
  | warning =>
    have above := found.1.trans_le least
    exact FaultDetector.analyze_warning (.inr above) ((critical.trans width).trans above.le) (most.trans found.2)
  | fault =>
    have above := found.trans_le least
    exact FaultDetector.analyze_fault (.inr (excess.trans_lt above)) (.inr above)

/-- The condition of a reading of a batch is drawn before its value. -/
def modeAt (simulator : SensorSimulator source) (warningRate faultRate : ℚ) (k : ℕ) : SimulationMode :=
  drawnMode warningRate faultRate (source.draw simulator.random (2 * k))

def readingAt (simulator : SensorSimulator source) (warningRate faultRate : ℚ) (clock : ℕ → ℕ) (k : ℕ) : SensorReading :=
  ({ simulator with random := source.after (2 * k + 1) simulator.random }.generateReading
    (simulator.modeAt warningRate faultRate k) (clock k)).1

theorem generateReadings_eq (warningRate faultRate : ℚ) (count : ℕ) (clock : ℕ → ℕ)
    (simulator : SensorSimulator source) : generateReadings warningRate faultRate count clock simulator =
      ((List.range count).map (simulator.readingAt warningRate faultRate clock),
        { simulator with random := source.after (2 * count) simulator.random }) := by
  induction count generalizing clock simulator with
  | zero => rfl
  | succ n ih =>
    rw [generateReadings]
    simp only [ih, List.range_succ_eq_map, List.map_cons, List.map_map]
    rfl

theorem generateBatch_eq (simulator : SensorSimulator source) (count : ℤ) (warningRate faultRate : ℚ)
    (clock : ℕ → ℕ) (batch : List SensorReading × SensorSimulator source) :
    simulator.generateBatch count warningRate faultRate clock = .ok batch ↔
      (0 < count ∧ (0 ≤ warningRate ∧ warningRate ≤ 1) ∧ (0 ≤ faultRate ∧ faultRate ≤ 1) ∧
        Doubles.plus warningRate faultRate ≤ 1) ∧
      batch = ((List.range count.toNat).map (simulator.readingAt warningRate faultRate clock),
        { simulator with random := source.after (2 * count.toNat) simulator.random }) := by
  rw [generateBatch, generateReadings_eq]
  by_cases none : count ≤ 0
  · simp [none, not_lt.mpr none]
  · by_cases warning : 0 ≤ warningRate ∧ warningRate ≤ 1
    · by_cases fault : 0 ≤ faultRate ∧ faultRate ≤ 1
      · by_cases total : 1 < Doubles.plus warningRate faultRate
        · simp [none, validateRate, warning, fault, total, bind, Except.bind, not_le.mpr total]
        · simp [none, validateRate, warning, fault, total, bind, Except.bind, pure, Except.pure, not_le.mp none,
            not_lt.mp total, eq_comm]
      · simp [none, validateRate, warning, fault, bind, Except.bind]
    · simp [none, validateRate, warning, bind, Except.bind]

theorem count_readings (simulator : SensorSimulator source) (warningRate faultRate : ℚ) (clock : ℕ → ℕ) (n : ℕ)
    (mode : SimulationMode) :
    HardwareTestRunner.count {} mode.status ((List.range n).map (simulator.readingAt warningRate faultRate clock)) =
      (List.range n).countP fun k => simulator.modeAt warningRate faultRate k = mode := by
  have status (k : ℕ) : (({} : FaultDetector).analyze (simulator.readingAt warningRate faultRate clock k)).reading.status =
      (simulator.modeAt warningRate faultRate k).status := by
    rw [readingAt, analyze_generateReading]
  have faithful (other : SimulationMode) : other.status = mode.status ↔ other = mode := by
    cases other <;> cases mode <;> decide
  simp only [HardwareTestRunner.count, List.countP_map, Function.comp_def, status, faithful]

theorem modeAt_eq_fault {warningRate faultRate : ℚ} {k : ℕ} : simulator.modeAt warningRate faultRate k = .fault ↔
    source.draw simulator.random (2 * k) < faultRate := by
  unfold modeAt drawnMode
  split_ifs <;> simp_all

theorem modeAt_eq_warning {warningRate faultRate : ℚ} {k : ℕ} : simulator.modeAt warningRate faultRate k = .warning ↔
    faultRate ≤ source.draw simulator.random (2 * k) ∧
      source.draw simulator.random (2 * k) < Doubles.plus faultRate warningRate := by
  unfold modeAt drawnMode
  split_ifs <;> simp_all

theorem sum_modes (modes : ℕ → SimulationMode) (n : ℕ) : (List.range n).countP (fun k => modes k = .normal) +
    (List.range n).countP (fun k => modes k = .warning) + (List.range n).countP (fun k => modes k = .fault) = n := by
  induction n with
  | zero => rfl
  | succ n ih =>
    simp only [List.range_succ, List.countP_append, List.countP_singleton]
    cases modes n <;> simp <;> omega

/-- In whatever batch is generated, each value lies in the range of the condition that was drawn for it, the analysis
changes nothing but the status and finds that condition, and the summary counts the numbers that were drawn below the
fault rate, and those from it to below the sum of the rates. -/
theorem injected_conditions_found (simulator : SensorSimulator source) (count : ℤ) (warningRate faultRate : ℚ)
    (clock : ℕ → ℕ) (readings : List SensorReading) (next : SensorSimulator source)
    (generated : simulator.generateBatch count warningRate faultRate clock = .ok (readings, next)) :
    (readings.length : ℤ) = count ∧
    (∀ k reading, readings[k]? = some reading →
      reading.key = (simulator.sensorId, simulator.sensorType) ∧
      (MODE_CONFIGS (simulator.modeAt warningRate faultRate k) simulator.sensorType).minimum ≤ reading.value ∧
      reading.value ≤ (MODE_CONFIGS (simulator.modeAt warningRate faultRate k) simulator.sensorType).maximum ∧
      (({} : FaultDetector).analyze reading).reading =
        { reading with status := (simulator.modeAt warningRate faultRate k).status }) ∧
    (let summary := FaultDetector.summarize (({} : FaultDetector).analyzeMany readings)
      let draws := (List.range readings.length).map fun k => source.draw simulator.random (2 * k)
      summary.totalReadings = readings.length ∧
      summary.faultCount = draws.countP (· < faultRate) ∧
      summary.warningCount = draws.countP (fun number =>
        faultRate ≤ number ∧ number < Doubles.plus faultRate warningRate) ∧
      summary.normalCount + summary.warningCount + summary.faultCount = readings.length) := by
  obtain ⟨⟨positive, -⟩, made⟩ := (generateBatch_eq ..).mp generated
  obtain ⟨rfl, -⟩ := Prod.mk.inj made
  refine ⟨?_, fun k reading present => ?_, ?_⟩
  · rw [List.length_map, List.length_range]
    omega
  · rw [List.getElem?_map, Option.map_eq_some_iff] at present
    obtain ⟨index, numbered, same⟩ := present
    obtain ⟨inside, position⟩ := List.getElem?_eq_some_iff.mp numbered
    rw [List.getElem_range] at position
    subst position same
    exact ⟨rfl, generateReading_range.1, generateReading_range.2, analyze_generateReading⟩
  · have counted := count_readings simulator warningRate faultRate clock count.toNat
    have total := sum_modes (simulator.modeAt warningRate faultRate) count.toNat
    have normal := counted .normal
    have warning := counted .warning
    have fault := counted .fault
    simp only [modeAt_eq_fault, modeAt_eq_warning] at total warning fault
    simp only [SimulationMode.status] at normal warning fault
    rw [@HardwareTestRunner.summarize_eq {} _]
    simp only [List.length_map, List.length_range, normal, warning, fault, List.countP_map, Function.comp_def, true_and]
    exact total

def repeating : RandomSource where
  State := ℕ
  seeded seed := seed.natAbs
  random state := ((state % 4 : ℕ) / 4, state + 1)
  random_range state := by
    have less : ((state % 4 : ℕ) : ℚ) < 4 := by exact_mod_cast Nat.mod_lt state (by omega)
    constructor
    · positivity
    · simp only
      linarith

def sampleSimulator : SensorSimulator repeating := ⟨"vibration-001", .vibration, repeating.seeded 0⟩

theorem injected_conditions_found_vibration : ∃ readings next,
    sampleSimulator.generateBatch 6 (1 / 2) (1 / 4) (fun _ => 63900000000000000) = .ok (readings, next) ∧
    (readings.length : ℤ) = 6 := by
  have valid : (0 : ℤ) < 6 ∧ ((0 : ℚ) ≤ 1 / 2 ∧ (1 / 2 : ℚ) ≤ 1) ∧ ((0 : ℚ) ≤ 1 / 4 ∧ (1 / 4 : ℚ) ≤ 1) ∧
      Doubles.plus (1 / 2) (1 / 4) ≤ 1 := by decide +kernel
  have generated := (generateBatch_eq sampleSimulator 6 (1 / 2) (1 / 4) (fun _ => 63900000000000000) _).mpr ⟨valid, rfl⟩
  exact ⟨_, _, generated, (injected_conditions_found _ _ _ _ _ _ _ generated).1⟩

end SensorSimulator

end CareerProjects.SensorPlatform
