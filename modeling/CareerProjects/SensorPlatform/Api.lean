import CareerProjects.SensorPlatform.Repository
import CareerProjects.SensorPlatform.Simulation

/-! The API over the simulation and the database, and the dashboard that shows what is stored. -/

namespace CareerProjects.SensorPlatform

open Library

/-- The body of the posts, whose fields are in range. -/
structure SimulationRequest where
  count : ℕ := 10
  warningRate : ℚ := 0
  faultRate : ℚ := 0
  seed : ℤ := 42
  countRange : 1 ≤ count ∧ count ≤ 1000 := by decide
  warningRateRange : 0 ≤ warningRate ∧ warningRate ≤ 1 := by norm_num
  faultRateRange : 0 ≤ faultRate ∧ faultRate ≤ 1 := by norm_num

structure SensorReadingResponse where
  sensorId : String
  sensorType : String
  value : ℚ
  unit : String
  timestamp : DateTime
  status : String

def SensorReadingResponse.fromDomain (reading : SensorReading) : SensorReadingResponse where
  sensorId := reading.sensorId
  sensorType := reading.sensorType.value
  value := reading.value
  unit := reading.unit
  timestamp := reading.timestamp
  status := reading.status.value

/-- An `HTTPException`, or an exception that no handler expects. -/
inductive ApiError
  | http (statusCode : ℕ) (detail : String)
  | valueError (message : String)

abbrev Clock := SensorType → ℕ → ℕ

def validateRates (request : SimulationRequest) : Except ApiError Unit :=
  if 1 < Doubles.plus request.warningRate request.faultRate then
    .error (.http 422 "warning_rate and fault_rate cannot total more than 1")
  else .ok ()

variable (source : RandomSource)

def generateSensor (request : SimulationRequest) (clock : Clock) (item : SensorType × ℕ) :
    Except String (List SensorReading) := do
  let simulator ← SensorSimulator.create source (item.1.value ++ "-001") item.1 (request.seed + item.2)
  let batch ← simulator.generateBatch request.count request.warningRate request.faultRate (clock item.1)
  return batch.1

def generateAnalyzedReadings (request : SimulationRequest) (clock : Clock) :
    Except ApiError (List SensorReading × HealthSummary) := do
  validateRates request
  let rawReadings ← (SensorType.all.zipIdx.mapM (generateSensor source request clock)).mapError .valueError
  let results := ({} : FaultDetector).analyzeMany rawReadings.flatten
  return (results.map fun result => result.reading, FaultDetector.summarize results)

inductive ApiRequest
  | createSimulation (request : SimulationRequest) (clock : Clock)
  | listReadings (limit : ℕ) (range : 1 ≤ limit ∧ limit ≤ 1000)
  | getSummary
  | runHardwareTest (request : SimulationRequest) (clock : Clock)

inductive ApiResponse
  | simulation (generatedCount : ℕ) (summary : HealthSummary) (readings : List SensorReadingResponse)
  | readings (readings : List SensorReadingResponse)
  | summary (summary : HealthSummary)
  | report (report : HardwareTestReport)
  | error (error : ApiError)

/-- An exception is the response, and leaves the database as it was. -/
def answered (database : Database) (result : Except ApiError (ApiResponse × Database)) : ApiResponse × Database :=
  match result with
  | .error error => (.error error, database)
  | .ok answer => answer

theorem default_minimumReadings : 0 < 5 := by decide

theorem default_minimumHealthScore : (0 : ℚ) ≤ 80 ∧ (80 : ℚ) ≤ 100 := by norm_num

def testRunner : HardwareTestRunner where
  criteria :=
    ⟨5, 0, Doubles.double (1 / 5), 80, default_minimumReadings, default_maximumWarningRate, default_minimumHealthScore⟩

def respond (database : Database) : ApiRequest → ApiResponse × Database
  | .createSimulation request clock => answered database do
    let generated ← generateAnalyzedReadings source request clock
    return (.simulation generated.1.length generated.2 (generated.1.map .fromDomain),
      (SensorReadingRepository.saveMany database generated.1).1)
  | .listReadings limit _ => answered database do
    let readings ← (SensorReadingRepository.listAll database (some limit)).mapError .valueError
    return (.readings (readings.map .fromDomain), database)
  | .getSummary => answered database do
    let readings ← (SensorReadingRepository.listAll database none).mapError .valueError
    return (.summary (FaultDetector.summarize (({} : FaultDetector).analyzeMany readings)), database)
  | .runHardwareTest request clock => answered database do
    let generated ← generateAnalyzedReadings source request clock
    let report ← (testRunner.run generated.1).mapError .valueError
    return (.report report, database)

/-- The requests one after another: the responses, and the database after them. -/
def serve : Database → List ApiRequest → List ApiResponse × Database
  | database, [] => ([], database)
  | database, request :: requests =>
    let (response, next) := respond source database request
    let (responses, last) := serve next requests
    (response :: responses, last)

/-- A row of the data frame, whose timestamp is an instant. -/
structure DashboardRow where
  timestamp : ℤ
  sensorId : String
  sensorType : String
  value : ℚ
  unit : String
  status : String
  deriving DecidableEq

structure DashboardMetrics where
  total : ℕ
  normal : ℕ
  warning : ℕ
  fault : ℕ
  healthScore : ℚ

def readingsToDataframe (readings : List SensorReading) : List DashboardRow :=
  readings.map fun reading =>
    { timestamp := reading.timestamp.instant
      sensorId := reading.sensorId
      sensorType := reading.sensorType.value
      value := reading.value
      unit := reading.unit
      status := reading.status.value }

def calculateDashboardMetrics (frame : List DashboardRow) : DashboardMetrics :=
  let total := frame.length
  let normal := frame.countP fun row => row.status = "normal"
  let warning := frame.countP fun row => row.status = "warning"
  let fault := frame.countP fun row => row.status = "fault"
  if total = 0 then ⟨0, 0, 0, 0, 0⟩
  else ⟨total, normal, warning, fault, FaultDetector.healthScore normal warning total⟩

def options (values : List String) : List String := values.dedup.mergeSort (· ≤ ·)

/-- The metrics that are shown, or the warning in their place; where nothing is selected, all options are. -/
def dashboard (readings : List SensorReading) (sensors statuses : Option (List String)) :
    Except String DashboardMetrics :=
  let frame := readingsToDataframe readings
  if frame = [] then
    .error "No sensor data was found. Run sensor-sim with --database before opening the dashboard."
  else
    let selectedSensors := sensors.getD (options (frame.map (·.sensorId)))
    let selectedStatuses := statuses.getD (options (frame.map (·.status)))
    let filteredFrame := frame.filter fun row => row.sensorId ∈ selectedSensors ∧ row.status ∈ selectedStatuses
    if filteredFrame = [] then .error "No readings match the selected filters."
    else .ok (calculateDashboardMetrics filteredFrame)

def simulatorOf (request : SimulationRequest) (item : SensorType × ℕ) : SensorSimulator source :=
  ⟨item.1.value ++ "-001", item.1, source.seeded (request.seed + item.2)⟩

def rawReadings (request : SimulationRequest) (clock : Clock) (item : SensorType × ℕ) : List SensorReading :=
  (List.range request.count).map
    ((simulatorOf source request item).readingAt request.warningRate request.faultRate (clock item.1))

def sensorReadings (request : SimulationRequest) (clock : Clock) (item : SensorType × ℕ) : List SensorReading :=
  (rawReadings source request clock item).map fun reading => (({} : FaultDetector).analyze reading).reading

def analyzedReadings (request : SimulationRequest) (clock : Clock) : List SensorReading :=
  SensorType.all.zipIdx.flatMap (sensorReadings source request clock)

/-- A reading with the status of the analysis, at a time in UTC. -/
structure Settled (reading : SensorReading) : Prop where
  utc : reading.timestamp.tzinfo = some 0
  analyzed : (({} : FaultDetector).analyze reading).reading = reading

section Generation

variable {source} {request : SimulationRequest} {clock : Clock} {reading : SensorReading} {readings : List SensorReading}

theorem analyze_status (detector : FaultDetector) (reading : SensorReading) : ∃ status, ∀ other,
    (detector.analyze { reading with status := other }).reading = { reading with status := status } := by
  by_cases normal : (detector.thresholds reading.sensorType).normalMinimum ≤ reading.value ∧
      reading.value ≤ (detector.thresholds reading.sensorType).normalMaximum
  · exact ⟨.normal, fun other => FaultDetector.analyze_normal normal.1 normal.2⟩
  · rw [not_and_or, not_le, not_le] at normal
    by_cases safe : (detector.thresholds reading.sensorType).criticalMinimum ≤ reading.value ∧
        reading.value ≤ (detector.thresholds reading.sensorType).criticalMaximum
    · exact ⟨.warning, fun other => FaultDetector.analyze_warning normal safe.1 safe.2⟩
    · rw [not_and_or, not_le, not_le] at safe
      exact ⟨.fault, fun other => FaultDetector.analyze_fault normal safe⟩

theorem analyze_idempotent (detector : FaultDetector) (reading : SensorReading) :
    (detector.analyze (detector.analyze reading).reading).reading = (detector.analyze reading).reading := by
  obtain ⟨status, found⟩ := analyze_status detector reading
  have first : (detector.analyze reading).reading = { reading with status := status } := found reading.status
  rw [first]
  exact found status

theorem count_settled (settled : ∀ reading ∈ readings, Settled reading) (status : SensorStatus) :
    HardwareTestRunner.count {} status readings = readings.countP fun reading => reading.status = status :=
  List.countP_congr fun reading member => by rw [(settled reading member).analyzed]

theorem count_analyzed (status : SensorStatus) : HardwareTestRunner.count {} status
    (readings.map fun reading => (({} : FaultDetector).analyze reading).reading) =
      HardwareTestRunner.count {} status readings := by
  simp only [HardwareTestRunner.count, List.countP_map, Function.comp_def, analyze_idempotent]

theorem create_simulator (item : SensorType × ℕ) :
    SensorSimulator.create source (item.1.value ++ "-001") item.1 (request.seed + item.2) =
      .ok (simulatorOf source request item) := by
  have named : strip (item.1.value ++ "-001").toList ≠ [] := by
    cases item.1 <;> decide +kernel
  rw [SensorSimulator.create, if_neg named]
  rfl

theorem generateSensor_eq (total : Doubles.plus request.warningRate request.faultRate ≤ 1) (item : SensorType × ℕ) :
    generateSensor source request clock item = .ok (rawReadings source request clock item) := by
  have positive : (0 : ℤ) < request.count := by
    have least := request.countRange.1
    omega
  have batch := (SensorSimulator.generateBatch_eq (simulatorOf source request item) request.count
    request.warningRate request.faultRate (clock item.1) _).mpr
      ⟨⟨positive, request.warningRateRange, request.faultRateRange, total⟩, rfl⟩
  simp only [generateSensor, create_simulator, bind, Except.bind, batch, pure, Except.pure, Int.toNat_natCast]
  rfl

theorem generateAnalyzedReadings_eq (total : Doubles.plus request.warningRate request.faultRate ≤ 1) :
    generateAnalyzedReadings source request clock = .ok (analyzedReadings source request clock,
      FaultDetector.summarize (({} : FaultDetector).analyzeMany (analyzedReadings source request clock))) := by
  have batches : SensorType.all.zipIdx.mapM (generateSensor source request clock) =
      .ok (SensorType.all.zipIdx.map (rawReadings source request clock)) :=
    mapM_ok _ (generateSensor_eq total)
  have analyzed : analyzedReadings source request clock =
      (SensorType.all.zipIdx.map (rawReadings source request clock)).flatten.map
        fun reading => (({} : FaultDetector).analyze reading).reading := by
    rw [analyzedReadings, List.map_flatten, List.map_map, List.flatMap_def]
    rfl
  have summary : FaultDetector.summarize (({} : FaultDetector).analyzeMany
      (SensorType.all.zipIdx.map (rawReadings source request clock)).flatten) =
        FaultDetector.summarize (({} : FaultDetector).analyzeMany (analyzedReadings source request clock)) := by
    rw [@HardwareTestRunner.summarize_eq {}, @HardwareTestRunner.summarize_eq {}]
    simp only [HardwareTestRunner.roundedScore, analyzed, count_analyzed, List.length_map]
  simp only [generateAnalyzedReadings, validateRates, if_neg (not_lt.mpr total), batches, bind, Except.bind,
    Except.mapError, pure, Except.pure, summary]
  rw [analyzed, FaultDetector.analyzeMany, List.map_map]
  rfl

theorem settled_analyzedReadings (member : reading ∈ analyzedReadings source request clock) : Settled reading := by
  obtain ⟨item, -, inside⟩ := List.mem_flatMap.mp member
  obtain ⟨raw, generated, rfl⟩ := List.mem_map.mp inside
  refine ⟨?_, analyze_idempotent _ _⟩
  obtain ⟨k, -, rfl⟩ := List.mem_map.mp generated
  rw [SensorSimulator.readingAt, SensorSimulator.analyze_generateReading]
  rfl

end Generation

def HealthSummary.count (summary : HealthSummary) : SensorStatus → ℕ
  | .normal => summary.normalCount
  | .warning => summary.warningCount
  | .fault => summary.faultCount

namespace ApiResponse

def generated : ApiResponse → List SensorReadingResponse
  | simulation _ _ stored => stored
  | _ => []

def generatedCount : ApiResponse → ℕ
  | simulation generatedCount _ _ => generatedCount
  | _ => 0

def counted (status : SensorStatus) : ApiResponse → ℕ
  | simulation _ health _ => health.count status
  | _ => 0

end ApiResponse

section Serving

variable {source} {readings : List SensorReading} {request : ApiRequest} {requests : List ApiRequest}

theorem analyzedReadings_ne (request : SimulationRequest) (clock : Clock) : analyzedReadings source request clock ≠ [] := by
  have least := request.countRange.1
  intro none
  have length := congrArg List.length none
  simp only [analyzedReadings, SensorType.all, List.zipIdx_cons, List.flatMap_cons, List.length_append, sensorReadings,
    rawReadings, List.length_map, List.length_range, List.length_nil] at length
  omega

theorem saveMany_table (more : List SensorReading) :
    (SensorReadingRepository.saveMany (table readings) more).1 = table (readings ++ more) := by
  have stored := @perform_table readings (.saveMany more)
  rw [Call.perform] at stored
  rw [stored]
  rfl

theorem summary_count (settled : ∀ reading ∈ readings, Settled reading) (status : SensorStatus) :
    (FaultDetector.summarize (({} : FaultDetector).analyzeMany readings)).count status =
      readings.countP fun reading => reading.status = status := by
  rw [@HardwareTestRunner.summarize_eq {}]
  cases status <;> exact count_settled settled _

structure Accounts (responses : List ApiResponse) (more : List SensorReading) : Prop where
  settled : ∀ reading ∈ more, Settled reading
  generated : responses.flatMap ApiResponse.generated = more.map .fromDomain
  total : (responses.map ApiResponse.generatedCount).sum = more.length
  counted : ∀ status, (responses.map (ApiResponse.counted status)).sum =
    more.countP fun reading => reading.status = status
  served : ∀ response ∈ responses, ∀ message, response ≠ .error (.valueError message)

theorem Accounts.append {responses others : List ApiResponse} {more rest : List SensorReading}
    (first : Accounts responses more) (second : Accounts others rest) :
    Accounts (responses ++ others) (more ++ rest) where
  settled reading member := (List.mem_append.mp member).elim (first.settled reading) (second.settled reading)
  generated := by rw [List.flatMap_append, first.generated, second.generated, List.map_append]
  total := by rw [List.map_append, List.sum_append, first.total, second.total, List.length_append]
  counted status := by rw [List.map_append, List.sum_append, first.counted, second.counted, List.countP_append]
  served response member := (List.mem_append.mp member).elim (first.served response) (second.served response)

theorem Accounts.none {response : ApiResponse} (generated : response.generated = []) (count : response.generatedCount = 0)
    (counted : ∀ status, response.counted status = 0) (served : ∀ message, response ≠ .error (.valueError message)) :
    Accounts [response] [] where
  settled := by simp
  generated := by simp [generated]
  total := by simp [count]
  counted status := by simp [counted]
  served := by simpa using served

section Responses

variable {database : Database} {simulation : SimulationRequest} {clock : Clock}

theorem generate_rejected (total : 1 < Doubles.plus simulation.warningRate simulation.faultRate) :
    generateAnalyzedReadings source simulation clock =
      .error (.http 422 "warning_rate and fault_rate cannot total more than 1") := by
  simp [generateAnalyzedReadings, validateRates, total, bind, Except.bind]

theorem respond_simulation (total : Doubles.plus simulation.warningRate simulation.faultRate ≤ 1) :
    respond source database (.createSimulation simulation clock) =
      (.simulation (analyzedReadings source simulation clock).length
        (FaultDetector.summarize (({} : FaultDetector).analyzeMany (analyzedReadings source simulation clock)))
        ((analyzedReadings source simulation clock).map .fromDomain),
      (SensorReadingRepository.saveMany database (analyzedReadings source simulation clock)).1) := by
  rw [respond, generateAnalyzedReadings_eq total]
  rfl

theorem respond_listReadings {limit : ℕ} (range : 1 ≤ limit ∧ limit ≤ 1000) :
    respond source (table readings) (.listReadings limit range) =
      (.readings ((((ordered readings).map fun entry => restored entry.1).take limit).map .fromDomain),
        table readings) := by
  rw [respond, listAll_table_limit (by omega)]
  rfl

theorem respond_getSummary : respond source (table readings) .getSummary =
    (.summary (FaultDetector.summarize (({} : FaultDetector).analyzeMany
      ((ordered readings).map fun entry => restored entry.1))), table readings) := by
  rw [respond, listAll_table]
  rfl

theorem respond_hardwareTest {report : HardwareTestReport}
    (total : Doubles.plus simulation.warningRate simulation.faultRate ≤ 1)
    (reported : HardwareTestRunner.run {} (analyzedReadings source simulation clock) = .ok report) :
    respond source database (.runHardwareTest simulation clock) = (.report report, database) := by
  have tested : testRunner.run (analyzedReadings source simulation clock) = .ok report := reported
  simp only [respond, generateAnalyzedReadings_eq total, bind, Except.bind, tested]
  rfl

end Responses

theorem respond_table (request : ApiRequest) : ∃ more,
    (respond source (table readings) request).2 = table (readings ++ more) ∧
      Accounts [(respond source (table readings) request).1] more := by
  have kept {response : ApiResponse} (responds : respond source (table readings) request = (response, table readings))
      (silent : Accounts [response] []) : ∃ more,
        (respond source (table readings) request).2 = table (readings ++ more) ∧
          Accounts [(respond source (table readings) request).1] more := by
    refine ⟨[], ?_, ?_⟩
    · rw [responds, List.append_nil]
    · rw [responds]
      exact silent
  cases request with
  | createSimulation simulation clock =>
    by_cases total : 1 < Doubles.plus simulation.warningRate simulation.faultRate
    · refine kept (by rw [respond, generate_rejected total]; rfl) (.none rfl rfl (fun _ => rfl) (by simp))
    · have settled : ∀ reading ∈ analyzedReadings source simulation clock, Settled reading :=
        fun reading => settled_analyzedReadings
      refine ⟨analyzedReadings source simulation clock, ?_, ?_⟩
      · rw [respond_simulation (not_lt.mp total)]
        exact saveMany_table _
      · rw [respond_simulation (not_lt.mp total)]
        exact {
          settled := settled
          generated := by simp [ApiResponse.generated]
          total := by simp [ApiResponse.generatedCount]
          counted := fun status => by simp [ApiResponse.counted, summary_count settled]
          served := by simp }
  | listReadings limit range =>
    exact kept (respond_listReadings range) (.none rfl rfl (fun _ => rfl) (by simp))
  | getSummary => exact kept respond_getSummary (.none rfl rfl (fun _ => rfl) (by simp))
  | runHardwareTest simulation clock =>
    by_cases total : 1 < Doubles.plus simulation.warningRate simulation.faultRate
    · exact kept (by rw [respond, generate_rejected total]; rfl) (.none rfl rfl (fun _ => rfl) (by simp))
    · obtain ⟨-, -, -, report, reported, -⟩ :=
        HardwareTestRunner.run_eq {} (@analyzedReadings_ne source simulation clock)
      exact kept (respond_hardwareTest (not_lt.mp total) reported) (.none rfl rfl (fun _ => rfl) (by simp))

theorem serve_table (requests : List ApiRequest) (readings : List SensorReading) : ∃ more,
    (serve source (table readings) requests).2 = table (readings ++ more) ∧
      Accounts (serve source (table readings) requests).1 more := by
  induction requests generalizing readings with
  | nil => exact ⟨[], by rw [serve, List.append_nil], ⟨by simp, rfl, rfl, fun _ => rfl, by simp [serve]⟩⟩
  | cons request requests ih =>
    obtain ⟨first, stored, answered⟩ := @respond_table source readings request
    obtain ⟨rest, last, others⟩ := ih (readings ++ first)
    refine ⟨first ++ rest, ?_, ?_⟩
    · simp only [serve, stored, last, List.append_assoc]
    · simp only [serve, stored]
      exact answered.append others

theorem mem_options {values : List String} {value : String} : value ∈ options values ↔ value ∈ values := by
  rw [options, List.mem_mergeSort, List.mem_dedup]

theorem countP_frame (status : SensorStatus) : (readingsToDataframe readings).countP (fun row => row.status = status.value) =
    readings.countP fun reading => reading.status = status := by
  have faithful (other : SensorStatus) : other.value = status.value ↔ other = status := by
    cases other <;> cases status <;> decide
  simp only [readingsToDataframe, List.countP_map, Function.comp_def, faithful]

theorem dashboard_all (some : readings ≠ []) : dashboard readings none none = .ok {
      total := readings.length
      normal := readings.countP fun reading => reading.status = .normal
      warning := readings.countP fun reading => reading.status = .warning
      fault := readings.countP fun reading => reading.status = .fault
      healthScore := FaultDetector.healthScore (readings.countP fun reading => reading.status = .normal)
        (readings.countP fun reading => reading.status = .warning) readings.length } := by
  have frame : readingsToDataframe readings ≠ [] := fun empty => some (List.map_eq_nil_iff.mp empty)
  have all : (readingsToDataframe readings).filter (fun row =>
      row.sensorId ∈ options ((readingsToDataframe readings).map (·.sensorId)) ∧
        row.status ∈ options ((readingsToDataframe readings).map (·.status))) = readingsToDataframe readings := by
    refine List.filter_eq_self.mpr fun row member => ?_
    simp only [mem_options, decide_eq_true_eq]
    exact ⟨List.mem_map_of_mem member, List.mem_map_of_mem member⟩
  have length : (readingsToDataframe readings).length = readings.length := List.length_map _
  have counted : readings.length ≠ 0 := fun none => some (List.length_eq_zero_iff.mp none)
  have normal : (readingsToDataframe readings).countP (fun row => row.status = "normal") =
    readings.countP fun reading => reading.status = .normal := countP_frame .normal
  have warning : (readingsToDataframe readings).countP (fun row => row.status = "warning") =
    readings.countP fun reading => reading.status = .warning := countP_frame .warning
  have fault : (readingsToDataframe readings).countP (fun row => row.status = "fault") =
    readings.countP fun reading => reading.status = .fault := countP_frame .fault
  simp only [dashboard, if_neg frame, Option.getD_none, all, calculateDashboardMetrics, length, if_neg counted, normal,
    warning, fault]

end Serving

/-- In whatever order requests are answered on an empty database: the readings that the responses to the simulations
have are those that are stored, the oldest of them are listed, the summary of another analysis has the sums of the
counts in these responses, the dashboard shows the same, and no request fails with an unexpected exception. -/
theorem served_readings (source : RandomSource) (requests : List ApiRequest) :
    let responses := (serve source [] requests).1
    let database := (serve source [] requests).2
    ∃ stored : List SensorReading, stored.map .fromDomain = responses.flatMap ApiResponse.generated ∧
      (∀ limit range, respond source database (.listReadings limit range) =
        (.readings (((stored.mergeSort notLater).take limit).map .fromDomain), database)) ∧
      (∀ response ∈ responses, ∀ message, response ≠ .error (.valueError message)) ∧
      ∃ summary listed, respond source database .getSummary = (.summary summary, database) ∧
        summary.totalReadings = (responses.map ApiResponse.generatedCount).sum ∧
        (∀ status, summary.count status = (responses.map (ApiResponse.counted status)).sum) ∧
        SensorReadingRepository.listAll database none = .ok listed ∧
        (stored ≠ [] → dashboard listed none none = .ok ⟨summary.totalReadings, summary.normalCount,
          summary.warningCount, summary.faultCount, summary.healthScore⟩) := by
  intro responses database
  obtain ⟨stored, final, accounts⟩ := @serve_table source requests []
  have final : database = table stored := final
  have accounts : Accounts responses stored := accounts
  have restores (reading : SensorReading) (member : reading ∈ stored) : restored reading = reading := by
    have utc := (accounts.settled reading member).utc
    obtain ⟨sensorId, sensorType, value, unit, ⟨wall, tzinfo⟩, status⟩ := reading
    cases utc
    rfl
  have utc : ∀ reading ∈ stored, reading.timestamp.utcoffset = 0 := fun reading member => by
    rw [DateTime.utcoffset, (accounts.settled reading member).utc]
    rfl
  have listed : (ordered stored).map (fun entry => restored entry.1) = stored.mergeSort notLater := by
    rw [← ordered_utc utc]
    refine List.map_congr_left fun entry inside => restores entry.1 ?_
    have member := List.mem_map_of_mem (f := Prod.fst) inside
    rw [ordered_utc utc] at member
    exact List.mem_mergeSort.mp member
  have same : (stored.mergeSort notLater).Perm stored := List.mergeSort_perm _ _
  have settled : ∀ reading ∈ stored.mergeSort notLater, Settled reading := fun reading member =>
    accounts.settled reading (same.mem_iff.mp member)
  have all := @listAll_table stored
  rw [listed] at all
  refine ⟨stored, accounts.generated.symm, fun limit range => ?_, accounts.served,
    FaultDetector.summarize (({} : FaultDetector).analyzeMany (stored.mergeSort notLater)), stored.mergeSort notLater,
    ?_, ?_, fun status => ?_, ?_, fun some => ?_⟩
  · rw [final, respond_listReadings range, listed]
  · rw [final, respond_getSummary, listed]
  · rw [@HardwareTestRunner.summarize_eq {}, accounts.total]
    exact same.length_eq
  · rw [summary_count settled, accounts.counted]
    exact same.countP_eq _
  · rw [final, all]
  · have sorted : stored.mergeSort notLater ≠ [] := fun empty => some (List.nil_perm.mp (empty ▸ same))
    rw [dashboard_all sorted, @HardwareTestRunner.summarize_eq {}]
    have counted : (stored.mergeSort notLater).length ≠ 0 := fun none => sorted (List.length_eq_zero_iff.mp none)
    simp only [count_settled settled, if_neg counted, HardwareTestRunner.roundedScore]

section Testing

variable {source : RandomSource} {request : SimulationRequest} {clock : Clock}

theorem key_sensorReadings {item : SensorType × ℕ} {reading : SensorReading}
    (member : reading ∈ sensorReadings source request clock item) : reading.key = (item.1.value ++ "-001", item.1) := by
  obtain ⟨raw, generated, rfl⟩ := List.mem_map.mp member
  obtain ⟨k, -, rfl⟩ := List.mem_map.mp generated
  rw [SensorSimulator.readingAt, SensorSimulator.analyze_generateReading]
  rfl

theorem readingsOf_analyzedReadings {item : SensorType × ℕ} (known : item ∈ SensorType.all.zipIdx) :
    HardwareTestRunner.readingsOf (item.1.value ++ "-001", item.1) (analyzedReadings source request clock) =
      sensorReadings source request clock item := by
  have own (other : SensorType × ℕ) : HardwareTestRunner.readingsOf (item.1.value ++ "-001", item.1)
      (sensorReadings source request clock other) =
        if other.1 = item.1 then sensorReadings source request clock other else [] := by
    rw [HardwareTestRunner.readingsOf]
    split
    · next same =>
      refine List.filter_eq_self.mpr fun reading member => ?_
      rw [key_sensorReadings member, same, decide_eq_true_eq]
    · next different =>
      refine List.filter_eq_nil_iff.mpr fun reading member => ?_
      rw [key_sensorReadings member, decide_eq_true_eq, Prod.mk.injEq]
      exact fun equal => different equal.2
  simp only [SensorType.all, List.zipIdx_cons, List.zipIdx_nil, List.mem_cons, List.not_mem_nil, or_false] at known
  rw [analyzedReadings, HardwareTestRunner.readingsOf, List.filter_flatMap]
  simp only [HardwareTestRunner.readingsOf] at own
  simp only [own, SensorType.all, List.zipIdx_cons, List.zipIdx_nil, List.flatMap_cons, List.flatMap_nil]
  rcases known with rfl | rfl | rfl | rfl <;> simp

/-- The numbers that decide about the conditions of the readings of a sensor. -/
def draws (source : RandomSource) (request : SimulationRequest) (item : SensorType × ℕ) : List ℚ :=
  (List.range request.count).map fun k => source.draw (source.seeded (request.seed + item.2)) (2 * k)

/-- The numbers give no fault, and a warning for at most every fifth reading. -/
def Acceptable (source : RandomSource) (request : SimulationRequest) (item : SensorType × ℕ) : Prop :=
  5 ≤ request.count ∧ (∀ number ∈ draws source request item, request.faultRate ≤ number) ∧
    5 * (draws source request item).countP (fun number => request.faultRate ≤ number ∧
      number < Doubles.plus request.faultRate request.warningRate) ≤ request.count

theorem double_rate_le {warning count : ℕ} (positive : 0 < count) (bound : count ≤ 1000) :
    Doubles.double ((warning : ℚ) / count) ≤ Doubles.double (1 / 5) ↔ 5 * warning ≤ count := by
  have counted : (0 : ℚ) < count := by exact_mod_cast positive
  have start : (0 : ℚ) ≤ warning / count := by positivity
  constructor
  · intro rounded
    by_contra more
    have least : (count : ℚ) + 1 ≤ 5 * warning := by exact_mod_cast not_le.mp more
    have small : (count : ℚ) ≤ 1000 := by exact_mod_cast bound
    have above : (1001 / 5000 : ℚ) ≤ warning / count := by
      rw [div_le_div_iff₀ (by norm_num) counted]
      linarith
    have apart : Doubles.double (1 / 5) < Doubles.double (1001 / 5000) := by decide +kernel
    exact absurd (Doubles.double_mono (by norm_num) above) (not_le.mpr (rounded.trans_lt apart))
  · intro few
    refine Doubles.double_mono start ?_
    rw [div_le_div_iff₀ counted (by norm_num), one_mul]
    exact_mod_cast (by omega : warning * 5 ≤ count)

theorem score_of_counts {readings : List SensorReading} (some : readings ≠ [])
    (sound : HardwareTestRunner.count {} .fault readings = 0)
    (few : 5 * HardwareTestRunner.count {} .warning readings ≤ readings.length) :
    (80 : ℚ) ≤ HardwareTestRunner.roundedScore {} readings := by
  have total := HardwareTestRunner.sum_counts {} readings
  rw [sound, Nat.add_zero] at total
  have all : (HardwareTestRunner.count {} .normal readings : ℚ) + HardwareTestRunner.count {} .warning readings =
      readings.length := by exact_mod_cast total
  have bound : 5 * (HardwareTestRunner.count {} .warning readings : ℚ) ≤ readings.length := by exact_mod_cast few
  have score : 90 ≤ HardwareTestRunner.score {} readings := by
    have positive : (0 : ℚ) < readings.length := by exact_mod_cast List.length_pos_iff.mpr some
    rw [HardwareTestRunner.score, le_div_iff₀ positive]
    linarith
  have error := abs_le.mp (@HardwareTestRunner.roundedScore_error {} readings)
  linarith

theorem sensor_passes (item : SensorType × ℕ) (sensorId : String) (sensorType : SensorType) :
    (HardwareTestRunner.evaluateSensor {} sensorId sensorType (sensorReadings source request clock item)).outcome = .pass ↔
      Acceptable source request item := by
  have least := request.countRange.1
  have length : (sensorReadings source request clock item).length = request.count := by
    rw [sensorReadings, rawReadings, List.length_map, List.length_map, List.length_range]
  have some : sensorReadings source request clock item ≠ [] := by
    intro none
    rw [none, List.length_nil] at length
    omega
  have counted (mode : SimulationMode) : HardwareTestRunner.count {} mode.status
      (sensorReadings source request clock item) = (List.range request.count).countP fun k =>
        (simulatorOf source request item).modeAt request.warningRate request.faultRate k = mode := by
    rw [sensorReadings, count_analyzed, rawReadings, SensorSimulator.count_readings]
  have total := SensorSimulator.sum_modes
    ((simulatorOf source request item).modeAt request.warningRate request.faultRate) request.count
  rw [← counted, ← counted, ← counted] at total
  have fault : HardwareTestRunner.count {} .fault (sensorReadings source request clock item) ≤ 0 ↔
      ∀ number ∈ draws source request item, request.faultRate ≤ number := by
    rw [show SensorStatus.fault = SimulationMode.fault.status from rfl, counted, Nat.le_zero, List.countP_eq_zero,
      draws, List.forall_mem_map]
    simp only [SensorSimulator.modeAt_eq_fault, decide_eq_true_eq, not_lt]
    rfl
  have warning : HardwareTestRunner.count {} .warning (sensorReadings source request clock item) =
      (draws source request item).countP fun number => request.faultRate ≤ number ∧
        number < Doubles.plus request.faultRate request.warningRate := by
    rw [show SensorStatus.warning = SimulationMode.warning.status from rfl, counted, draws, List.countP_map]
    simp only [SensorSimulator.modeAt_eq_warning]
    rfl
  have rate : Doubles.double (HardwareTestRunner.warningRate {} (sensorReadings source request clock item)) ≤
      Doubles.double (1 / 5) ↔
        5 * HardwareTestRunner.count {} .warning (sensorReadings source request clock item) ≤ request.count := by
    rw [HardwareTestRunner.warningRate, length]
    exact double_rate_le least request.countRange.2
  rw [HardwareTestRunner.evaluateSensor_pass some, Acceptable, ← warning, ← fault, ← rate]
  constructor
  · intro passes
    obtain ⟨counts, rates⟩ := passes
    exact ⟨length ▸ counts.enough, counts.faults, rates.warnings⟩
  · intro acceptable
    obtain ⟨enough, faults, warnings⟩ := acceptable
    refine ⟨⟨length.symm ▸ enough, faults⟩, ⟨warnings, ?_⟩⟩
    exact score_of_counts some (Nat.le_zero.mp faults) (length.symm ▸ rate.mp warnings)

/-- The hardware test of a valid request leaves the database as it is and has one result for each sensor, which passes
by the numbers that were drawn for it; the test passes where all do. -/
theorem hardware_test_verdict (source : RandomSource) (database : Database) (request : SimulationRequest) (clock : Clock)
    (total : Doubles.plus request.warningRate request.faultRate ≤ 1) :
    ∃ report, respond source database (.runHardwareTest request clock) = (.report report, database) ∧
      (report.results.map HardwareTestResult.key).Perm
        (SensorType.all.map fun sensorType => (sensorType.value ++ "-001", sensorType)) ∧
      (∀ item ∈ SensorType.all.zipIdx, ∀ result ∈ report.results, result.key = (item.1.value ++ "-001", item.1) →
        (result.outcome = .pass ↔ Acceptable source request item)) ∧
      (report.overallOutcome = .pass ↔ ∀ item ∈ SensorType.all.zipIdx, Acceptable source request item) := by
  obtain ⟨keys, distinct, known, report, reported, results, overall⟩ :=
    HardwareTestRunner.run_eq {} (@analyzedReadings_ne source request clock)
  have devices : report.results.map HardwareTestResult.key = keys := by
    rw [results, List.map_map]
    exact List.map_id keys
  have sensors : keys.Perm (SensorType.all.map fun sensorType => (sensorType.value ++ "-001", sensorType)) := by
    refine (List.perm_ext_iff_of_nodup distinct (by decide)).mpr fun key => ?_
    rw [known, List.mem_map, List.mem_map]
    constructor
    · intro ⟨reading, member, same⟩
      obtain ⟨item, numbered, inside⟩ := List.mem_flatMap.mp member
      exact ⟨item.1, List.fst_mem_of_mem_zipIdx numbered, by rw [← same, key_sensorReadings inside]⟩
    · intro ⟨sensorType, member, same⟩
      rw [← List.zipIdx_map_fst 0 SensorType.all] at member
      obtain ⟨item, numbered, rfl⟩ := List.mem_map.mp member
      have some : sensorReadings source request clock item ≠ [] := by
        have least := request.countRange.1
        intro none
        have length := congrArg List.length none
        simp only [sensorReadings, rawReadings, List.length_map, List.length_range, List.length_nil] at length
        omega
      obtain ⟨reading, inside⟩ := List.exists_mem_of_ne_nil _ some
      exact ⟨reading, List.mem_flatMap.mpr ⟨item, numbered, inside⟩, by rw [key_sensorReadings inside, same]⟩
  have verdict (item : SensorType × ℕ) (numbered : item ∈ SensorType.all.zipIdx) (result : HardwareTestResult)
      (member : result ∈ report.results) (device : result.key = (item.1.value ++ "-001", item.1)) :
      result.outcome = .pass ↔ Acceptable source request item := by
    rw [results] at member
    obtain ⟨key, -, rfl⟩ := List.mem_map.mp member
    have device : key = (item.1.value ++ "-001", item.1) := device
    rw [device, readingsOf_analyzedReadings numbered, sensor_passes]
  refine ⟨report, respond_hardwareTest total reported, devices ▸ sensors, verdict, ?_⟩
  rw [overall]
  constructor
  · intro passed item numbered
    have tested : (item.1.value ++ "-001", item.1) ∈ report.results.map HardwareTestResult.key := by
      rw [devices, sensors.mem_iff]
      exact List.mem_map.mpr ⟨item.1, List.fst_mem_of_mem_zipIdx numbered, rfl⟩
    obtain ⟨result, member, device⟩ := List.mem_map.mp tested
    exact (verdict item numbered result member device).mp (passed result member)
  · intro acceptable result member
    have device : result.key ∈ keys := devices ▸ List.mem_map_of_mem member
    rw [sensors.mem_iff, List.mem_map] at device
    obtain ⟨sensorType, inside, same⟩ := device
    rw [← List.zipIdx_map_fst 0 SensorType.all] at inside
    obtain ⟨item, numbered, rfl⟩ := List.mem_map.mp inside
    exact (verdict item numbered result member same.symm).mpr (acceptable item numbered)

theorem hardware_test_verdict_defaults : ∃ report,
    respond SensorSimulator.repeating [] (.runHardwareTest {} fun _ _ => 63900000000000000) = (.report report, []) ∧
      report.overallOutcome = .pass := by
  have rates : Doubles.plus 0 0 = 0 := by decide +kernel
  obtain ⟨report, responds, -, -, overall⟩ := hardware_test_verdict SensorSimulator.repeating [] {}
    (fun _ _ => 63900000000000000) (by rw [rates]; norm_num)
  refine ⟨report, responds, overall.mpr fun item _ => ⟨by decide, fun number member => ?_, ?_⟩⟩
  · obtain ⟨k, -, rfl⟩ := List.mem_map.mp member
    exact (SensorSimulator.repeating.draw_range _).1
  · rw [rates, List.countP_eq_zero.mpr fun number _ => by simp [not_lt]]
    decide

end Testing

end CareerProjects.SensorPlatform
