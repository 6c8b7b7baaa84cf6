import Mathlib.Algebra.Order.Ring.Rat

/-! The tables of the observability platform. A service is identified by its name and its
environment; a telemetry record belongs to a service, an anomaly to a telemetry record, and an
incident to the anomaly that triggered it. Clock readings are exact rational seconds. -/

namespace CareerProjects.Observability

/-- Record identifiers are 128-bit UUIDs, ordered as their texts are. -/
abbrev Uuid := BitVec 128

abbrev Time := ℚ

inductive ServiceEnvironment
  | development | testing | staging | production
  deriving DecidableEq, Repr

structure MonitoredService where
  id : Uuid
  name : String
  environment : ServiceEnvironment
  deriving DecidableEq

inductive AnomalyCategory
  | metricThreshold | logSeverity | eventSeverity
  deriving DecidableEq, Repr

inductive AnomalySeverity
  | warning | critical
  deriving DecidableEq, Repr

inductive IncidentStatus
  | openStatus | acknowledged | resolved
  deriving DecidableEq, Repr

/-- The text of an anomaly: that of the log or event, or the one about a metric's threshold. -/
inductive Description
  | text (text : String)
  | reached (name : String) (value : ℚ) (unit : String) (threshold : ℚ)
  deriving DecidableEq

structure IncidentRecord where
  id : Uuid
  serviceId : Uuid
  triggerAnomalyId : Uuid
  status : IncidentStatus
  severity : AnomalySeverity
  title : String
  description : Description
  createdAt : Time
  acknowledgedAt : Option Time
  acknowledgedBy : Option String
  resolvedAt : Option Time
  resolvedBy : Option String
  resolutionSummary : Option String
  deriving DecidableEq

end CareerProjects.Observability
