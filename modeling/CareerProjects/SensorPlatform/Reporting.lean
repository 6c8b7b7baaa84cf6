import CareerProjects.Library.Csv
import CareerProjects.SensorPlatform.HardwareTesting

/-! The report of a hardware test as a file of comma-separated values. How a float is written is a parameter. -/

namespace CareerProjects.SensorPlatform

open Library

def HardwareTestOutcome.value : HardwareTestOutcome → String
  | .pass => "pass"
  | .fail => "fail"

def fieldnames : List String :=
  ["overall_outcome", "sensor_id", "sensor_type", "outcome", "total_readings", "normal_count", "warning_count",
    "fault_count", "warning_rate", "health_score", "failure_reasons"]

section Export

variable (repr : ℚ → String)

def resultRow (overallOutcome : HardwareTestOutcome) (result : HardwareTestResult) : List (String × String) :=
  [("overall_outcome", overallOutcome.value), ("sensor_id", result.sensorId),
    ("sensor_type", result.sensorType.value), ("outcome", result.outcome.value),
    ("total_readings", toString result.totalReadings), ("normal_count", toString result.normalCount),
    ("warning_count", toString result.warningCount), ("fault_count", toString result.faultCount),
    ("warning_rate", repr result.warningRate), ("health_score", repr result.healthScore),
    ("failure_reasons", " | ".intercalate result.failureReasons)]

def writeDict (row : List (String × String)) : List (List Char) :=
  fieldnames.map fun name => ((row.lookup name).getD "").toList

def exportCsvReport (report : HardwareTestReport) : List Char :=
  Csv.write (fieldnames.map String.toList ::
    report.results.map fun result => writeDict (resultRow repr report.overallOutcome result))

def readDict (record : List (List Char)) : List (String × String) := fieldnames.zip (record.map String.ofList)

variable {repr}

theorem readDict_writeDict (row : List (String × String)) :
    readDict (writeDict row) = fieldnames.map fun name => (name, (row.lookup name).getD "") := by
  rw [readDict, writeDict, List.map_map, ← List.map_prod_left_eq_zip]
  simp only [Function.comp_def, String.ofList_toList]

theorem values_resultRow (overallOutcome : HardwareTestOutcome) (result : HardwareTestResult) :
    (fieldnames.map fun name => (name, ((resultRow repr overallOutcome result).lookup name).getD "")) =
      resultRow repr overallOutcome result := by
  simp [resultRow, fieldnames, List.lookup_cons]

theorem mem_writeDict {overallOutcome : HardwareTestOutcome} {result : HardwareTestResult} {field : List Char}
    (member : field ∈ writeDict (resultRow repr overallOutcome result)) :
    ∃ entry ∈ resultRow repr overallOutcome result, field = entry.2.toList := by
  obtain ⟨name, named, rfl⟩ := List.mem_map.mp member
  refine ⟨(name, ((resultRow repr overallOutcome result).lookup name).getD ""), ?_, rfl⟩
  rw [← values_resultRow]
  exact List.mem_map_of_mem named

/-- The limit of the reader leaves room for the names of the columns and for all values. -/
def Fits (repr : ℚ → String) (limit : ℕ) (report : HardwareTestReport) : Prop :=
  20 ≤ limit ∧ ∀ result ∈ report.results, ∀ entry ∈ resultRow repr report.overallOutcome result,
    entry.2.toList.length ≤ limit

/-- Whatever characters the IDs of the sensors have, the report of a test is read again as it was written: the header,
and for each device one record with all that its result says. -/
theorem csv_report_read (repr : ℚ → String) (limit : ℕ) (runner : HardwareTestRunner) (readings : List SensorReading)
    (report : HardwareTestReport) (reported : runner.run readings = .ok report) (fits : Fits repr limit report) :
    ∃ records : List (List (List Char)),
      Csv.read limit (exportCsvReport repr report) = .ok (fieldnames.map String.toList :: records) ∧
      records.map readDict = report.results.map (resultRow repr report.overallOutcome) ∧
      (report.results.map HardwareTestResult.key).Nodup ∧
      ∀ key, key ∈ report.results.map HardwareTestResult.key ↔ key ∈ readings.map SensorReading.key := by
  have some : readings ≠ [] := by
    intro none
    rw [HardwareTestRunner.run, if_pos none] at reported
    cases reported
  obtain ⟨keys, distinct, known, other, tested, results, -⟩ := HardwareTestRunner.run_eq runner some
  rw [reported, Except.ok.injEq] at tested
  subst tested
  have devices : report.results.map HardwareTestResult.key = keys := by
    rw [results, List.map_map]
    exact List.map_id keys
  refine ⟨report.results.map fun result => writeDict (resultRow repr report.overallOutcome result), ?_, ?_, ?_, ?_⟩
  · refine Csv.read_write limit _ fun row member field inside => ?_
    rcases List.mem_cons.mp member with rfl | record
    · have names : ∀ name ∈ fieldnames.map String.toList, name.length ≤ 20 := by decide +kernel
      exact (names field inside).trans fits.1
    · obtain ⟨result, written, rfl⟩ := List.mem_map.mp record
      obtain ⟨entry, value, rfl⟩ := mem_writeDict inside
      exact fits.2 result written entry value
  · rw [List.map_map]
    refine List.map_congr_left fun result _ => ?_
    rw [Function.comp_apply, readDict_writeDict, values_resultRow]
  · rwa [devices]
  · rwa [devices]

def oddReading : SensorReading where
  sensorId := "probe, \"3\"\n"
  sensorType := .current
  value := 8
  unit := "A"
  timestamp := ⟨63900000000000000, some 0⟩

theorem csv_report_read_odd : ∃ report records, HardwareTestRunner.run {} [oddReading] = .ok report ∧
    Csv.read 131072 (exportCsvReport (fun _ => "0.0") report) = .ok (fieldnames.map String.toList :: records) ∧
    records.map readDict = report.results.map (resultRow (fun _ => "0.0") report.overallOutcome) := by
  have lengths : (HardwareTestRunner.run {} [oddReading]).toOption.map (fun report =>
      report.results.all fun result => (resultRow (fun _ => "0.0") report.overallOutcome result).all fun entry =>
        entry.2.toList.length ≤ 131072) = some true := by
    decide +kernel
  obtain ⟨-, -, -, report, reported, -⟩ := @HardwareTestRunner.run_eq [oddReading] {} (by simp)
  rw [reported] at lengths
  simp only [Except.toOption, Option.map_some, Option.some.injEq, List.all_eq_true, decide_eq_true_eq] at lengths
  obtain ⟨records, read, rows, -⟩ := csv_report_read (fun _ => "0.0") 131072 {} [oddReading] report reported
    ⟨by decide, lengths⟩
  exact ⟨report, records, reported, read, rows⟩

end Export

end CareerProjects.SensorPlatform
