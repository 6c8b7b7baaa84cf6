import CareerProjects.Library.Buckets
import CareerProjects.SensorPlatform.Model
import Mathlib.Data.Prod.Lex
import Mathlib.Data.String.Basic
import Mathlib.Tactic.Ring
import Mathlib.Algebra.Order.Ring.Star
import Mathlib.Data.Rat.Star

/-! The analysis of readings, and the automated hardware tests that are made of it. Rates and scores are
doubles, the criteria any exact numbers. -/

namespace CareerProjects.SensorPlatform

open Library

def fixed (x : ℚ) : String :=
  let hundredths := roundHalfEven (x * 100)
  toString (hundredths / 100) ++ "." ++ toString (hundredths / 10 % 10) ++ toString (hundredths % 10)

/-- The format `.2%`, which multiplies the double before it writes it. -/
def percent (x : ℚ) : String := fixed (Doubles.times x 100) ++ "%"

structure SensorThreshold where
  criticalMinimum : ℚ
  normalMinimum : ℚ
  normalMaximum : ℚ
  criticalMaximum : ℚ
  ordered : criticalMinimum ≤ normalMinimum ∧ normalMinimum ≤ normalMaximum ∧ normalMaximum ≤ criticalMaximum

theorem current_ordered : Doubles.double (1 / 10) ≤ 1 / 2 ∧ (1 / 2 : ℚ) ≤ 5 ∧ (5 : ℚ) ≤ 7 := by
  decide +kernel

def DEFAULT_THRESHOLDS : SensorType → SensorThreshold
  | .temperature => ⟨15, 20, 30, 35, by norm_num⟩
  | .voltage => ⟨21 / 2, 23 / 2, 25 / 2, 27 / 2, by norm_num⟩
  | .current => ⟨Doubles.double (1 / 10), 1 / 2, 5, 7, current_ordered⟩
  | .vibration => ⟨0, 0, 4, 7, by norm_num⟩

/-- A detector has a threshold for each type of sensor. -/
structure FaultDetector where
  thresholds : SensorType → SensorThreshold := DEFAULT_THRESHOLDS

structure AnalysisResult where
  reading : SensorReading
  reason : String
  deviationFromNormal : ℚ

structure HealthSummary where
  totalReadings : ℕ
  normalCount : ℕ
  warningCount : ℕ
  faultCount : ℕ
  healthScore : ℚ

namespace FaultDetector

def deviationFromNormal (value : ℚ) (threshold : SensorThreshold) : ℚ :=
  let boundary := if value < threshold.normalMinimum then threshold.normalMinimum else threshold.normalMaximum
  Doubles.round (Doubles.double |value - boundary|) 3

variable (detector : FaultDetector)

def analyze (reading : SensorReading) : AnalysisResult :=
  let threshold := detector.thresholds reading.sensorType
  let value := reading.value
  if threshold.normalMinimum ≤ value ∧ value ≤ threshold.normalMaximum then
    ⟨{ reading with status := .normal }, "Value is within the normal operating range.", 0⟩
  else if threshold.criticalMinimum ≤ value ∧ value ≤ threshold.criticalMaximum then
    let direction := if value < threshold.normalMinimum then "below" else "above"
    ⟨{ reading with status := .warning }, "Value is " ++ direction ++ " the normal operating range.",
      deviationFromNormal value threshold⟩
  else
    let direction := if value < threshold.criticalMinimum then "below" else "above"
    ⟨{ reading with status := .fault }, "Value is " ++ direction ++ " the critical safety limit.",
      deviationFromNormal value threshold⟩

def analyzeMany (readings : List SensorReading) : List AnalysisResult := readings.map detector.analyze

/-- Normal readings receive full credit and warnings receive half. -/
def healthScore (normalCount warningCount total : ℕ) : ℚ :=
  let credit := Doubles.plus (Doubles.double normalCount) (Doubles.times (Doubles.double warningCount) (1 / 2))
  Doubles.round (Doubles.times (Doubles.divide credit (Doubles.double total)) 100) 2

def summarize (results : List AnalysisResult) : HealthSummary :=
  let total := results.length
  let normalCount := results.countP fun result => result.reading.status = .normal
  let warningCount := results.countP fun result => result.reading.status = .warning
  let faultCount := results.countP fun result => result.reading.status = .fault
  { totalReadings := total
    normalCount := normalCount
    warningCount := warningCount
    faultCount := faultCount
    healthScore := if total = 0 then 0 else healthScore normalCount warningCount total }

theorem credit_error (normal warning : ℕ) :
    |Doubles.plus (Doubles.double normal) (Doubles.times (Doubles.double warning) (1 / 2)) - (normal + warning / 2)| ≤
      4 * (normal + warning / 2) / 2 ^ 53 := by
  have nonneg : (0 : ℚ) ≤ normal ∧ (0 : ℚ) ≤ warning := ⟨by positivity, by positivity⟩
  have normals := abs_le.mp (Doubles.double_natCast_error normal)
  have warnings := abs_le.mp (Doubles.double_natCast_error warning)
  have halves : |Doubles.times (Doubles.double warning) (1 / 2) - Doubles.double warning / 2| ≤
      Doubles.double warning / 2 / 2 ^ 53 := by
    rw [Doubles.times, mul_one_div]
    obtain rfl | some := Nat.eq_zero_or_pos warning
    · norm_num [Doubles.double_zero]
    · have one : (1 : ℚ) ≤ warning := by exact_mod_cast some
      refine Doubles.double_error_of_le ?_
      norm_num at warnings ⊢
      linarith
  have halves := abs_le.mp halves
  have sum : |Doubles.plus (Doubles.double normal) (Doubles.times (Doubles.double warning) (1 / 2)) -
      (Doubles.double normal + Doubles.times (Doubles.double warning) (1 / 2))| ≤
        (Doubles.double normal + Doubles.times (Doubles.double warning) (1 / 2)) / 2 ^ 53 := by
    obtain none | some := Nat.eq_zero_or_pos (normal + warning)
    · obtain ⟨rfl, rfl⟩ := Nat.add_eq_zero_iff.mp none
      norm_num [Doubles.double_zero, Doubles.times, Doubles.plus]
    · have one : (1 : ℚ) ≤ normal + warning := by exact_mod_cast some
      refine Doubles.double_error_of_le ?_
      norm_num at normals warnings halves ⊢
      linarith
  have sum := abs_le.mp sum
  rw [abs_le]
  norm_num at normals warnings halves sum ⊢
  constructor <;> linarith

theorem quotient_error {credit total near rounded : ℚ} (start : 0 ≤ credit) (most : credit ≤ total) (some : 1 ≤ total)
    (first : |near - credit| ≤ 4 * credit / 2 ^ 53) (second : |rounded - total| ≤ total / 2 ^ 53) :
    |near / rounded - credit / total| ≤ 10 / 2 ^ 53 := by
  have first := abs_le.mp first
  have second := abs_le.mp second
  have positive : 0 < total := by linarith
  have above : total / 2 ≤ rounded := by
    norm_num at second
    linarith
  have divisor : 0 < rounded := by linarith
  have bound : |near * total - rounded * credit| ≤ 5 * total * credit / 2 ^ 53 := by
    rw [abs_le]
    constructor <;> nlinarith
  rw [div_sub_div _ _ divisor.ne' positive.ne', abs_div, abs_of_pos (mul_pos divisor positive),
    div_le_iff₀ (mul_pos divisor positive)]
  calc |near * total - rounded * credit| ≤ 5 * total * credit / 2 ^ 53 := bound
    _ ≤ 5 * total * total / 2 ^ 53 := by gcongr
    _ ≤ 10 / 2 ^ 53 * (rounded * total) := by nlinarith

theorem healthScore_error {normal warning total : ℕ} (all : normal + warning ≤ total) :
    |healthScore normal warning total - 100 * (normal + warning / 2) / total| ≤ 51 / 10000 := by
  have nonneg : (0 : ℚ) ≤ normal ∧ (0 : ℚ) ≤ warning := ⟨by positivity, by positivity⟩
  have most : (normal : ℚ) + warning ≤ total := by exact_mod_cast all
  obtain rfl | some := Nat.eq_zero_or_pos total
  · obtain ⟨rfl, rfl⟩ := Nat.add_eq_zero_iff.mp (Nat.le_zero.mp all)
    decide +kernel
  have one : (1 : ℚ) ≤ total := by exact_mod_cast some
  have ratio : ((normal : ℚ) + warning / 2) / total ≤ 1 := by
    rw [div_le_one (by linarith)]
    linarith
  have start : (0 : ℚ) ≤ normal + warning / 2 := by positivity
  have quotient := quotient_error start (by linarith) one (credit_error normal warning)
    (Doubles.double_natCast_error total)
  have exact : (0 : ℚ) ≤ (normal + warning / 2) / total := by positivity
  have same : 100 * ((normal : ℚ) + warning / 2) / total = 100 * ((normal + warning / 2) / total) := by ring
  rw [same, healthScore]
  set credit := Doubles.plus (Doubles.double normal) (Doubles.times (Doubles.double warning) (1 / 2))
  have start : 0 ≤ credit / Doubles.double total :=
    div_nonneg (Doubles.double_nonneg _) (Doubles.double_nonneg _)
  generalize ((normal : ℚ) + warning / 2) / total = x at *
  have quotient := abs_le.mp quotient
  have divided : |Doubles.divide credit (Doubles.double total) - credit / Doubles.double total| ≤ 2 ^ 1 / 2 ^ 54 := by
    refine Doubles.double_error_of_lt start ?_
    norm_num at quotient ⊢
    linarith
  have divided := abs_le.mp divided
  have start : 0 ≤ Doubles.divide credit (Doubles.double total) := Doubles.double_nonneg _
  generalize Doubles.divide credit (Doubles.double total) = ratio at *
  have percent : |Doubles.times ratio 100 - ratio * 100| ≤ 2 ^ 7 / 2 ^ 54 := by
    refine Doubles.double_error_of_lt (by positivity) ?_
    norm_num at quotient divided ⊢
    linarith
  have percent := abs_le.mp percent
  have start : 0 ≤ Doubles.times ratio 100 := Doubles.double_nonneg _
  generalize Doubles.times ratio 100 = score at *
  have rounded : |Doubles.round score 2 - score| ≤ 1 / 2 / 10 ^ 2 + 2 ^ 7 / 2 ^ 54 := by
    refine Doubles.round_error start ?_
    norm_num at quotient divided percent ⊢
    linarith
  have rounded := abs_le.mp rounded
  rw [abs_le]
  norm_num at quotient divided percent rounded ⊢
  constructor <;> linarith

end FaultDetector

inductive HardwareTestOutcome
  | pass | fail
  deriving DecidableEq

theorem default_maximumWarningRate : 0 ≤ Doubles.double (1 / 5) ∧ Doubles.double (1 / 5) ≤ 1 := by decide +kernel

structure HardwareTestCriteria where
  minimumReadings : ℕ := 5
  maximumFaultCount : ℕ := 0
  maximumWarningRate : ℚ := Doubles.double (1 / 5)
  minimumHealthScore : ℚ := 80
  minimumReadings_pos : 0 < minimumReadings := by decide
  maximumWarningRate_range : 0 ≤ maximumWarningRate ∧ maximumWarningRate ≤ 1 := by exact default_maximumWarningRate
  minimumHealthScore_range : 0 ≤ minimumHealthScore ∧ minimumHealthScore ≤ 100 := by norm_num

structure HardwareTestResult where
  sensorId : String
  sensorType : SensorType
  outcome : HardwareTestOutcome
  totalReadings : ℕ
  normalCount : ℕ
  warningCount : ℕ
  faultCount : ℕ
  warningRate : ℚ
  healthScore : ℚ
  failureReasons : List String
  deriving DecidableEq

def HardwareTestResult.key (result : HardwareTestResult) : String × SensorType := (result.sensorId, result.sensorType)

structure HardwareTestReport where
  overallOutcome : HardwareTestOutcome
  totalSensors : ℕ
  passedSensors : ℕ
  failedSensors : ℕ
  results : List HardwareTestResult
  deriving DecidableEq

structure HardwareTestRunner where
  detector : FaultDetector := {}
  criteria : HardwareTestCriteria := {}

/-- Sensor ID and type together uniquely identify the tested device. -/
def SensorReading.key (reading : SensorReading) : String × SensorType := (reading.sensorId, reading.sensorType)

def rank (key : String × SensorType) : Lex (String × String) := toLex (key.2.value, key.1)

theorem rank_injective : Function.Injective rank := by
  intro a b same
  have parts := Prod.ext_iff.mp (toLex_inj.mp same)
  exact Prod.ext parts.2 (SensorType.value_injective parts.1)

namespace HardwareTestRunner

variable (runner : HardwareTestRunner)

def failureReasons (summary : HealthSummary) (warningRate : ℚ) : List String :=
  let criteria := runner.criteria
  (if summary.totalReadings < criteria.minimumReadings then
    ["Insufficient readings: expected at least " ++ toString criteria.minimumReadings] else []) ++
  (if criteria.maximumFaultCount < summary.faultCount then
    ["Fault count " ++ toString summary.faultCount ++ " exceeds maximum " ++ toString criteria.maximumFaultCount]
    else []) ++
  (if criteria.maximumWarningRate < warningRate then
    ["Warning rate " ++ percent warningRate ++ " exceeds maximum " ++ percent criteria.maximumWarningRate]
    else []) ++
  (if summary.healthScore < criteria.minimumHealthScore then
    ["Health score " ++ fixed summary.healthScore ++ " is below minimum " ++ fixed criteria.minimumHealthScore]
    else [])

def evaluateSensor (sensorId : String) (sensorType : SensorType) (readings : List SensorReading) :
    HardwareTestResult :=
  let summary := FaultDetector.summarize (runner.detector.analyzeMany readings)
  let warningRate := Doubles.divide summary.warningCount summary.totalReadings
  let failureReasons := runner.failureReasons summary warningRate
  { sensorId := sensorId
    sensorType := sensorType
    outcome := if failureReasons = [] then .pass else .fail
    totalReadings := summary.totalReadings
    normalCount := summary.normalCount
    warningCount := summary.warningCount
    faultCount := summary.faultCount
    warningRate := Doubles.round warningRate 4
    healthScore := summary.healthScore
    failureReasons := failureReasons }

def run (readings : List SensorReading) : Except String HardwareTestReport :=
  if readings = [] then .error "At least one sensor reading is required"
  else
    let groupedReadings := sortedBuckets SensorReading.key rank readings
    let results := groupedReadings.map fun item => runner.evaluateSensor item.1.1 item.1.2 item.2
    let passedSensors := results.countP fun result => result.outcome = .pass
    let failedSensors := results.length - passedSensors
    .ok {
      overallOutcome := if failedSensors = 0 then .pass else .fail
      totalSensors := results.length
      passedSensors := passedSensors
      failedSensors := failedSensors
      results := results }

/-- The readings of a sensor of which the analysis makes such a status. -/
def count (status : SensorStatus) (readings : List SensorReading) : ℕ :=
  readings.countP fun reading => (runner.detector.analyze reading).reading.status = status

structure MeetsCounts (readings : List SensorReading) : Prop where
  enough : runner.criteria.minimumReadings ≤ readings.length
  faults : runner.count .fault readings ≤ runner.criteria.maximumFaultCount

/-- The criteria on the warning rate and the health score. -/
structure MeetsRates (warningRate healthScore : ℚ) : Prop where
  warnings : warningRate ≤ runner.criteria.maximumWarningRate
  health : runner.criteria.minimumHealthScore ≤ healthScore

def warningRate (readings : List SensorReading) : ℚ := runner.count .warning readings / readings.length

def score (readings : List SensorReading) : ℚ :=
  100 * (runner.count .normal readings + runner.count .warning readings / 2) / readings.length

structure MeetsCriteria (readings : List SensorReading) : Prop extends runner.MeetsCounts readings,
  runner.MeetsRates (runner.warningRate readings) (runner.score readings)

def roundedScore (readings : List SensorReading) : ℚ :=
  FaultDetector.healthScore (runner.count .normal readings) (runner.count .warning readings) readings.length

def readingsOf (key : String × SensorType) (readings : List SensorReading) : List SensorReading :=
  readings.filter fun reading => reading.key = key

variable {runner : HardwareTestRunner} {readings others : List SensorReading}

theorem summarize_eq (readings : List SensorReading) :
    FaultDetector.summarize (runner.detector.analyzeMany readings) =
      { totalReadings := readings.length
        normalCount := runner.count .normal readings
        warningCount := runner.count .warning readings
        faultCount := runner.count .fault readings
        healthScore := if readings.length = 0 then 0 else runner.roundedScore readings } := by
  have counted (status : SensorStatus) : (runner.detector.analyzeMany readings).countP
      (fun result => result.reading.status = status) = runner.count status readings := by
    rw [FaultDetector.analyzeMany, List.countP_map]
    rfl
  have total : (runner.detector.analyzeMany readings).length = readings.length := List.length_map _
  simp only [FaultDetector.summarize, counted, total, roundedScore]

theorem failureReasons_eq_nil {summary : HealthSummary} {warningRate : ℚ} :
    runner.failureReasons summary warningRate = [] ↔
      runner.criteria.minimumReadings ≤ summary.totalReadings ∧
      summary.faultCount ≤ runner.criteria.maximumFaultCount ∧
      warningRate ≤ runner.criteria.maximumWarningRate ∧
      runner.criteria.minimumHealthScore ≤ summary.healthScore := by
  simp [failureReasons, not_lt]

theorem evaluateSensor_pass {sensorId : String} {sensorType : SensorType} (some : readings ≠ []) :
    (runner.evaluateSensor sensorId sensorType readings).outcome = .pass ↔
      runner.MeetsCounts readings ∧
        runner.MeetsRates (Doubles.double (runner.warningRate readings)) (runner.roundedScore readings) := by
  have outcome : (runner.evaluateSensor sensorId sensorType readings).outcome = .pass ↔
      (runner.evaluateSensor sensorId sensorType readings).failureReasons = [] := by
    simp [evaluateSensor]
  have counted : readings.length ≠ 0 := fun none => some (List.length_eq_zero_iff.mp none)
  rw [outcome, evaluateSensor, summarize_eq, failureReasons_eq_nil, if_neg counted]
  constructor
  · intro ⟨total, faults, warnings, health⟩
    exact ⟨⟨total, faults⟩, ⟨warnings, health⟩⟩
  · intro ⟨counts, rates⟩
    exact ⟨counts.enough, counts.faults, rates.warnings, rates.health⟩

theorem readingsOf_ne {reading : SensorReading} (member : reading ∈ readings) : readingsOf reading.key readings ≠ [] :=
  List.ne_nil_of_mem (List.mem_filter.mpr ⟨member, by simp⟩)

theorem run_eq (runner : HardwareTestRunner) (some : readings ≠ []) : ∃ keys : List (String × SensorType), keys.Nodup ∧
    (∀ key, key ∈ keys ↔ key ∈ readings.map SensorReading.key) ∧
      ∃ report, runner.run readings = .ok report ∧
        report.results = keys.map (fun key => runner.evaluateSensor key.1 key.2 (readingsOf key readings)) ∧
        (report.overallOutcome = .pass ↔ ∀ result ∈ report.results, result.outcome = .pass) := by
  obtain ⟨keys, distinct, known, -, shape⟩ := sortedBuckets_eq SensorReading.key rank readings
  refine ⟨keys, distinct, known, _, by rw [run, if_neg some], ?_, ?_⟩
  · simp only [shape, List.map_map]
    rfl
  · simp only
    generalize (sortedBuckets SensorReading.key rank readings).map
      (fun item => runner.evaluateSensor item.1.1 item.1.2 item.2) = results
    have bound : results.countP (fun result => result.outcome = .pass) ≤ results.length := List.countP_le_length
    have every : results.countP (fun result => result.outcome = .pass) = results.length ↔
        ∀ result ∈ results, result.outcome = .pass := by simp [List.countP_eq_length]
    rw [← every, ite_eq_left_iff]
    constructor
    · intro passed
      by_contra fewer
      exact absurd (passed (by omega)) (by decide)
    · intro all
      omega

/-- The report of the readings follows the exact criteria: each reading counts in the result of its device,
a device passes by the criteria, all pass together, and the order of the readings does not matter. -/
structure FollowsCriteria (runner : HardwareTestRunner) (readings : List SensorReading)
    (report : HardwareTestReport) : Prop where
  reported : runner.run readings = .ok report
  devices : (report.results.map HardwareTestResult.key).Nodup
  known : ∀ key, key ∈ report.results.map HardwareTestResult.key ↔ key ∈ readings.map SensorReading.key
  counted : ∀ result ∈ report.results,
    result.totalReadings = (readingsOf result.key readings).length ∧
      result.normalCount = runner.count .normal (readingsOf result.key readings) ∧
      result.warningCount = runner.count .warning (readingsOf result.key readings) ∧
      result.faultCount = runner.count .fault (readingsOf result.key readings)
  total : (report.results.map HardwareTestResult.totalReadings).sum = readings.length
  verdicts : ∀ result ∈ report.results,
    (result.outcome = .pass ↔ runner.MeetsCriteria (readingsOf result.key readings))
  overall : report.overallOutcome = .pass ↔ ∀ result ∈ report.results, result.outcome = .pass
  permuted : ∀ others, others.Perm readings → runner.run others = .ok report

/-- A device with enough readings and few enough faults, of which the exact rate and score and those in doubles
are not on the same side of the limits. -/
def Misjudged (runner : HardwareTestRunner) (readings : List SensorReading) : Prop :=
  runner.MeetsCounts readings ∧
    ¬(runner.MeetsRates (runner.warningRate readings) (runner.score readings) ↔
      runner.MeetsRates (Doubles.double (runner.warningRate readings)) (runner.roundedScore readings))

theorem warningRate_error : |Doubles.double (runner.warningRate readings) - runner.warningRate readings| ≤ 1 / 2 ^ 53 := by
  have few : (runner.count .warning readings : ℚ) ≤ readings.length := by exact_mod_cast List.countP_le_length
  have most : runner.warningRate readings ≤ 1 := div_le_one_of_le₀ few (by positivity)
  have start : 0 ≤ runner.warningRate readings := by
    rw [warningRate]
    positivity
  have error : |Doubles.double (runner.warningRate readings) - runner.warningRate readings| ≤ 2 ^ 1 / 2 ^ 54 :=
    Doubles.double_error_of_lt start (by linarith)
  norm_num at error ⊢
  exact error

theorem sum_counts (runner : HardwareTestRunner) (readings : List SensorReading) :
    runner.count .normal readings + runner.count .warning readings + runner.count .fault readings = readings.length := by
  simp only [count]
  induction readings with
  | nil => rfl
  | cons reading readings ih =>
    simp only [List.countP_cons, List.length_cons]
    cases (runner.detector.analyze reading).reading.status <;> simp <;> omega

theorem roundedScore_error : |runner.roundedScore readings - runner.score readings| ≤ 51 / 10000 := by
  have total := sum_counts runner readings
  exact FaultDetector.healthScore_error (by omega)

theorem near_of_misjudged (misjudged : runner.Misjudged readings) :
    |runner.warningRate readings - runner.criteria.maximumWarningRate| ≤ 1 / 2 ^ 53 ∨
      |runner.score readings - runner.criteria.minimumHealthScore| ≤ 51 / 10000 := by
  obtain ⟨-, differ⟩ := misjudged
  by_contra far
  rw [not_or, not_le, not_le, lt_abs, lt_abs] at far
  have rate := abs_le.mp (@warningRate_error runner readings)
  have score := abs_le.mp (@roundedScore_error runner readings)
  refine differ ⟨fun exact => ⟨?_, ?_⟩, fun rounded => ⟨?_, ?_⟩⟩
  · rcases far.1 with beyond | within <;> linarith [exact.warnings]
  · rcases far.2 with above | below <;> linarith [exact.health]
  · rcases far.1 with beyond | within <;> linarith [rounded.warnings]
  · rcases far.2 with above | below <;> linarith [rounded.health]

theorem count_perm {status : SensorStatus} (same : others.Perm readings) :
    runner.count status others = runner.count status readings := same.countP_eq _

theorem evaluateSensor_perm {sensorId : String} {sensorType : SensorType} (same : others.Perm readings) :
    runner.evaluateSensor sensorId sensorType others = runner.evaluateSensor sensorId sensorType readings := by
  simp only [evaluateSensor, summarize_eq, roundedScore, count_perm same, same.length_eq]

theorem run_perm (same : others.Perm readings) : runner.run others = runner.run readings := by
  have results := map_sortedBuckets_perm SensorReading.key rank_injective
    (fun item => runner.evaluateSensor item.1.1 item.1.2 item.2) (fun _ _ _ => evaluateSensor_perm) same
  by_cases none : readings = []
  · subst none
    rw [List.perm_nil.mp same]
  · have some : others ≠ [] := fun empty => none (List.nil_perm.mp (empty ▸ same))
    simp only [run, if_neg none, if_neg some, results]

/-- The report follows the exact criteria where the rounding of rates and scores decides about no device, and it decides
only about a device whose exact rate or score is this near to its limit. -/
theorem followsCriteria_iff (some : readings ≠ []) :
    ((∃ report, FollowsCriteria runner readings report) ↔
      ∀ reading ∈ readings, ¬runner.Misjudged (readingsOf reading.key readings)) ∧
    ∀ reading ∈ readings, runner.Misjudged (readingsOf reading.key readings) →
      |runner.warningRate (readingsOf reading.key readings) - runner.criteria.maximumWarningRate| ≤ 1 / 2 ^ 53 ∨
        |runner.score (readingsOf reading.key readings) - runner.criteria.minimumHealthScore| ≤ 51 / 10000 := by
  refine ⟨?_, fun reading _ misjudged => near_of_misjudged misjudged⟩
  obtain ⟨keys, distinct, known, report, reported, results, overall⟩ := run_eq runner some
  have devices : report.results.map HardwareTestResult.key = keys := by
    rw [results, List.map_map]
    exact List.map_id keys
  have verdict : ∀ key ∈ keys, ((runner.evaluateSensor key.1 key.2 (readingsOf key readings)).outcome = .pass ↔
      runner.MeetsCounts (readingsOf key readings) ∧
        runner.MeetsRates (Doubles.double (runner.warningRate (readingsOf key readings)))
          (runner.roundedScore (readingsOf key readings))) := by
    intro key member
    obtain ⟨reading, inside, rfl⟩ := List.mem_map.mp ((known key).mp member)
    exact evaluateSensor_pass (readingsOf_ne inside)
  constructor
  · intro ⟨other, follows⟩ reading member ⟨counts, differ⟩
    have same := follows.reported
    rw [reported, Except.ok.injEq] at same
    have device : reading.key ∈ keys := (known _).mpr (List.mem_map_of_mem member)
    have exactly := follows.verdicts _ (by rw [← same, results]; exact List.mem_map_of_mem device)
    rw [verdict _ device] at exactly
    refine differ ⟨fun rates => ?_, fun rounded => ?_⟩
    · exact (exactly.mpr ⟨counts, rates⟩).2
    · exact (exactly.mp ⟨counts, rounded⟩).toMeetsRates
  · intro judged
    refine ⟨report, reported, ?_, ?_, ?_, ?_, ?_, overall, fun others same => (run_perm same).trans reported⟩
    · rwa [devices]
    · rwa [devices]
    · rw [results, List.forall_mem_map]
      intro key member
      simp only [evaluateSensor, summarize_eq]
      exact ⟨rfl, rfl, rfl, rfl⟩
    · rw [results, List.map_map, ← sum_length_buckets distinct known]
      refine congrArg List.sum (List.map_congr_left fun key _ => ?_)
      simp only [Function.comp, evaluateSensor, summarize_eq]
      rfl
    · rw [results, List.forall_mem_map]
      intro key member
      rw [verdict key member]
      obtain ⟨reading, inside, rfl⟩ := List.mem_map.mp ((known key).mp member)
      have fair (counts : runner.MeetsCounts (readingsOf reading.key readings)) :=
        not_not.mp fun differ => judged reading inside ⟨counts, differ⟩
      constructor
      · intro ⟨counts, rounded⟩
        exact ⟨counts, (fair counts).mpr rounded⟩
      · intro meets
        exact ⟨meets.toMeetsCounts, (fair meets.toMeetsCounts).mp meets.toMeetsRates⟩

def sampleReading (value : ℚ) : SensorReading where
  sensorId := "voltage-001"
  sensorType := .voltage
  value := value
  unit := "V"
  timestamp := ⟨63900000000000000, some 0⟩

def sampleReadings : List SensorReading := [sampleReading 12, sampleReading 12, sampleReading 20]

def sampleRunner (minimumHealthScore : ℚ) (range : 0 ≤ minimumHealthScore ∧ minimumHealthScore ≤ 100) :
    HardwareTestRunner where
  criteria :=
    { minimumReadings := 3
      maximumFaultCount := 1
      minimumHealthScore := minimumHealthScore
      minimumHealthScore_range := range }

theorem sample_range : (0 ≤ Doubles.double (6666 / 100) ∧ Doubles.double (6666 / 100) ≤ 100) ∧
    0 ≤ Doubles.double (6667 / 100) ∧ Doubles.double (6667 / 100) ≤ 100 := by decide +kernel

theorem followsCriteria_iff_near : sampleReadings ≠ [] ∧
    ∃ report, FollowsCriteria (sampleRunner (Doubles.double (6666 / 100)) sample_range.1) sampleReadings report := by
  refine ⟨by simp [sampleReadings], (followsCriteria_iff (by simp [sampleReadings])).1.mpr ?_⟩
  rintro reading member ⟨-, differ⟩
  have same : readingsOf reading.key sampleReadings = sampleReadings := by
    simp only [sampleReadings, List.mem_cons, List.not_mem_nil, or_false] at member
    rcases member with rfl | rfl | rfl <;> decide +kernel
  rw [same] at differ
  exact differ ⟨fun _ => ⟨by decide +kernel, by decide +kernel⟩, fun _ => ⟨by decide +kernel, by decide +kernel⟩⟩

/-- For 66.67 they pass by the rounded score only. -/
theorem rounded_score_passes :
    ¬∃ report, FollowsCriteria (sampleRunner (Doubles.double (6667 / 100)) sample_range.2) sampleReadings report := by
  intro ⟨report, follows⟩
  have passed : ((sampleRunner (Doubles.double (6667 / 100)) sample_range.2).run sampleReadings).toOption.map
      (fun report => report.results.map fun result => (result.key, result.outcome)) =
        some [(("voltage-001", .voltage), .pass)] := by decide +kernel
  rw [follows.reported] at passed
  have results : report.results.map (fun result => (result.key, result.outcome)) =
      [(("voltage-001", .voltage), .pass)] := Option.some.inj passed
  obtain ⟨result, single, device⟩ := List.map_eq_singleton_iff.mp results
  rw [Prod.mk.injEq] at device
  have health := ((follows.verdicts result (by simp [single])).mp device.2).health
  rw [device.1] at health
  exact absurd health (by decide +kernel)

end HardwareTestRunner

end CareerProjects.SensorPlatform
