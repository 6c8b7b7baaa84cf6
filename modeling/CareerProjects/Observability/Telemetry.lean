import Mathlib.Algebra.Order.Ring.Rat
import CareerProjects.Library.Keyed
import CareerProjects.Observability.Model

/-! Telemetry items, the anomaly detection engine, and the tables that ingestion writes. -/

namespace CareerProjects.Observability
open Library

inductive LogLevel
  | debug | info | warning | error | critical
  deriving DecidableEq, Repr

def LogLevel.value : LogLevel → String
  | .debug => "debug"
  | .info => "info"
  | .warning => "warning"
  | .error => "error"
  | .critical => "critical"

inductive EventSeverity
  | info | warning | error | critical
  deriving DecidableEq, Repr

def EventSeverity.value : EventSeverity → String
  | .info => "info"
  | .warning => "warning"
  | .error => "error"
  | .critical => "critical"

inductive AttributeValue
  | text (text : String)
  | integer (number : Int)
  | number (number : ℚ)
  | flag (flag : Bool)
  deriving DecidableEq

/-- The fields that items of all types have. -/
structure TelemetryBase where
  service : String
  environment : ServiceEnvironment
  source : String
  timestamp : Time
  attributes : List (String × AttributeValue)
  deriving DecidableEq

structure MetricTelemetry extends TelemetryBase where
  name : String
  value : ℚ
  unit : Option String
  deriving DecidableEq

structure LogTelemetry extends TelemetryBase where
  level : LogLevel
  message : String
  deriving DecidableEq

structure EventTelemetry extends TelemetryBase where
  name : String
  severity : EventSeverity
  description : Option String
  deriving DecidableEq

inductive TelemetryItem
  | metric (item : MetricTelemetry)
  | log (item : LogTelemetry)
  | event (item : EventTelemetry)
  deriving DecidableEq

def TelemetryItem.base : TelemetryItem → TelemetryBase
  | .metric item => item.toTelemetryBase
  | .log item => item.toTelemetryBase
  | .event item => item.toTelemetryBase

def TelemetryItem.type : TelemetryItem → String
  | .metric _ => "metric"
  | .log _ => "log"
  | .event _ => "event"

structure TelemetryBatch where
  items : List TelemetryItem
  size : 1 ≤ items.length ∧ items.length ≤ 1000

inductive ObservedValue
  | text (text : String)
  | number (number : ℚ)
  deriving DecidableEq

structure AnomalyFinding where
  ruleId : String
  category : AnomalyCategory
  severity : AnomalySeverity
  title : String
  description : Description
  service : String
  environment : ServiceEnvironment
  source : String
  observedAt : Time
  observedValue : ObservedValue
  threshold : Option ObservedValue
  deriving DecidableEq

structure MetricThresholdRule where
  ruleId : String
  metricName : String
  threshold : ℚ
  unit : String
  severity : AnomalySeverity
  title : String

def metricRules : List MetricThresholdRule :=
  [⟨"metric.cpu_usage.high", "cpu_usage", 90, "percent", .critical, "High CPU usage"⟩,
    ⟨"metric.memory_usage.high", "memory_usage", 90, "percent", .critical, "High memory usage"⟩,
    ⟨"metric.response_latency.high", "response_latency", 500, "milliseconds", .warning,
      "High response latency"⟩,
    ⟨"metric.error_rate.high", "error_rate", 5, "percent", .critical, "High error rate"⟩]

def evaluateMetric (item : MetricTelemetry) : List AnomalyFinding :=
  (metricRules.filter fun rule =>
    item.name = rule.metricName ∧ item.unit = some rule.unit ∧ rule.threshold ≤ item.value).map
  fun rule =>
    { ruleId := rule.ruleId
      category := .metricThreshold
      severity := rule.severity
      title := rule.title
      description := .reached item.name item.value rule.unit rule.threshold
      service := item.service
      environment := item.environment
      source := item.source
      observedAt := item.timestamp
      observedValue := .number item.value
      threshold := some (.number rule.threshold) }

def LogLevel.anomalySeverity : LogLevel → Option AnomalySeverity
  | .error => some .warning
  | .critical => some .critical
  | _ => none

def evaluateLog (item : LogTelemetry) : List AnomalyFinding :=
  match item.level.anomalySeverity with
  | none => []
  | some severity =>
    [{ ruleId := "log.level." ++ item.level.value
       category := .logSeverity
       severity := severity
       title := item.level.value.capitalize ++ " log detected"
       description := .text item.message
       service := item.service
       environment := item.environment
       source := item.source
       observedAt := item.timestamp
       observedValue := .text item.level.value
       threshold := some (.text LogLevel.error.value) }]

def EventSeverity.anomalySeverity : EventSeverity → Option AnomalySeverity
  | .error => some .warning
  | .critical => some .critical
  | _ => none

/-- The description, or the name where there is none or an empty one. -/
def EventTelemetry.text (item : EventTelemetry) : String :=
  match item.description with
  | none => item.name
  | some text => if text = "" then item.name else text

def evaluateEvent (item : EventTelemetry) : List AnomalyFinding :=
  match item.severity.anomalySeverity with
  | none => []
  | some severity =>
    [{ ruleId := "event.severity." ++ item.severity.value
       category := .eventSeverity
       severity := severity
       title := item.severity.value.capitalize ++ " event detected"
       description := .text item.text
       service := item.service
       environment := item.environment
       source := item.source
       observedAt := item.timestamp
       observedValue := .text item.severity.value
       threshold := some (.text EventSeverity.error.value) }]

/-- The anomaly detection engine. -/
def evaluate : TelemetryItem → List AnomalyFinding
  | .metric item => evaluateMetric item
  | .log item => evaluateLog item
  | .event item => evaluateEvent item

structure TelemetryRecord where
  id : Uuid
  serviceId : Uuid
  telemetryType : String
  source : String
  observedAt : Time
  receivedAt : Time
  payload : TelemetryItem
  deriving DecidableEq

structure AnomalyRecord where
  id : Uuid
  telemetryId : Uuid
  ruleId : String
  category : AnomalyCategory
  severity : AnomalySeverity
  title : String
  description : Description
  observedValue : ObservedValue
  threshold : Option ObservedValue
  detectedAt : Time
  deriving DecidableEq

def MonitoredService.identity (service : MonitoredService) : String × ServiceEnvironment :=
  (service.name, service.environment)

/-- The tables with their primary keys, unique constraints and foreign keys. -/
structure Database where
  services : List MonitoredService
  telemetry : List TelemetryRecord
  anomalies : List AnomalyRecord
  incidents : List IncidentRecord
  serviceIds : (services.map MonitoredService.id).Nodup
  serviceIdentities : (services.map MonitoredService.identity).Nodup
  telemetryIds : (telemetry.map TelemetryRecord.id).Nodup
  telemetryServices : ∀ row ∈ telemetry, row.serviceId ∈ services.map MonitoredService.id
  anomalyIds : (anomalies.map AnomalyRecord.id).Nodup
  anomalyTelemetry : ∀ row ∈ anomalies, row.telemetryId ∈ telemetry.map TelemetryRecord.id
  incidentIds : (incidents.map IncidentRecord.id).Nodup
  incidentServices : ∀ row ∈ incidents, row.serviceId ∈ services.map MonitoredService.id
  incidentAnomalies : ∀ row ∈ incidents, row.triggerAnomalyId ∈ anomalies.map AnomalyRecord.id
  incidentTriggers : (incidents.map IncidentRecord.triggerAnomalyId).Nodup

namespace Database

def empty : Database := by
  refine ⟨[], [], [], [], ?_, ?_, ?_, ?_, ?_, ?_, ?_, ?_, ?_, ?_⟩ <;> simp

def insertService (database : Database) (row : MonitoredService) : Option Database :=
  if checked : row.id ∉ database.services.map MonitoredService.id ∧
      row.identity ∉ database.services.map MonitoredService.identity then
    some { database with
      services := database.services ++ [row]
      serviceIds := nodup_map_snoc database.serviceIds checked.1
      serviceIdentities := nodup_map_snoc database.serviceIdentities checked.2
      telemetryServices := fun other member => by
        simp [database.telemetryServices other member]
      incidentServices := fun other member => by
        simp [database.incidentServices other member] }
  else none

def insertTelemetry (database : Database) (row : TelemetryRecord) : Option Database :=
  if checked : row.id ∉ database.telemetry.map TelemetryRecord.id ∧
      row.serviceId ∈ database.services.map MonitoredService.id then
    some { database with
      telemetry := database.telemetry ++ [row]
      telemetryIds := nodup_map_snoc database.telemetryIds checked.1
      telemetryServices := forall_mem_snoc database.telemetryServices checked.2
      anomalyTelemetry := fun other member => by
        simp [database.anomalyTelemetry other member] }
  else none

def insertAnomaly (database : Database) (row : AnomalyRecord) : Option Database :=
  if checked : row.id ∉ database.anomalies.map AnomalyRecord.id ∧
      row.telemetryId ∈ database.telemetry.map TelemetryRecord.id then
    some { database with
      anomalies := database.anomalies ++ [row]
      anomalyIds := nodup_map_snoc database.anomalyIds checked.1
      anomalyTelemetry := forall_mem_snoc database.anomalyTelemetry checked.2
      incidentAnomalies := fun other member => by
        simp [database.incidentAnomalies other member] }
  else none

def insertIncident (database : Database) (row : IncidentRecord) : Option Database :=
  if checked : row.id ∉ database.incidents.map IncidentRecord.id ∧
      row.triggerAnomalyId ∉ database.incidents.map IncidentRecord.triggerAnomalyId ∧
      row.serviceId ∈ database.services.map MonitoredService.id ∧
      row.triggerAnomalyId ∈ database.anomalies.map AnomalyRecord.id then
    some { database with
      incidents := database.incidents ++ [row]
      incidentIds := nodup_map_snoc database.incidentIds checked.1
      incidentTriggers := nodup_map_snoc database.incidentTriggers checked.2.1
      incidentServices := forall_mem_snoc database.incidentServices checked.2.2.1
      incidentAnomalies := forall_mem_snoc database.incidentAnomalies checked.2.2.2 }
  else none

/-- `get_by_identity`. -/
def service (database : Database) (identity : String × ServiceEnvironment) : Option MonitoredService :=
  database.services.find? fun service => service.identity = identity

end Database

end CareerProjects.Observability
