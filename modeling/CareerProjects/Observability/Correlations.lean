import Mathlib.Data.List.Sort
import CareerProjects.Library.Inserting
import CareerProjects.Observability.Platform
import CareerProjects.Observability.RootCause

/-! Correlation analyses, beside ingestion and the handling of incidents. An analysis reads the free
incidents of a service once and inserts a correlation with a link for each of them; an incident has at
most one link. -/

namespace CareerProjects.Observability
open Library

def ServiceEnvironment.value : ServiceEnvironment → String
  | .development => "development"
  | .testing => "testing"
  | .staging => "staging"
  | .production => "production"

inductive CorrelationStatus
  | active | closed
  deriving DecidableEq, Repr

structure CorrelationRecord where
  id : Uuid
  serviceId : Uuid
  status : CorrelationStatus
  windowStartedAt : Time
  windowEndedAt : Time
  rootCauseAnomalyId : Uuid
  rootCauseIncidentId : Uuid
  rootCauseConfidence : ℚ
  rootCauseReasons : List String
  summary : String
  createdAt : Time
  updatedAt : Time
  deriving DecidableEq

/-- The primary key of a correlation, and the unique incident of a link. -/
inductive CorrelationKey
  | correlation (id : Uuid)
  | incident (incidentId : Uuid)
  deriving DecidableEq

inductive CorrelationRow
  | correlation (record : CorrelationRecord)
  | link (correlationId incidentId : Uuid) (addedAt : Time)
  deriving DecidableEq

structure CorrelationAnalyzeRequest where
  service : String
  environment : ServiceEnvironment
  windowMinutes : ℕ
  minimumIncidents : ℕ
  windowRange : 1 ≤ windowMinutes ∧ windowMinutes ≤ 1440
  minimumRange : 2 ≤ minimumIncidents ∧ minimumIncidents ≤ 100

/-- An analysis with its clock readings and the identifier it draws. -/
structure Analysis where
  request : CorrelationAnalyzeRequest
  windowEndedAt : Time
  createdAt : Time
  correlationId : Uuid

inductive AnalysisError
  | insufficientIncidents (found : ℕ) (service : String) (environment : ServiceEnvironment) (required : ℕ)
  | valueError
  deriving DecidableEq

/-- An incident with the rows that it is joined with. -/
structure CorrelationIncidentRow where
  incident : IncidentRecord
  anomaly : AnomalyRecord
  telemetry : TelemetryRecord
  service : MonitoredService
  deriving DecidableEq

abbrev Correlations := Inserts Analysis Database CorrelationKey CorrelationRow AnalysisError

abbrev Read := Snapshot Database CorrelationKey CorrelationRow

def Database.join (database : Database) (incident : IncidentRecord) : Option CorrelationIncidentRow := do
  let anomaly ← database.anomalies.find? fun anomaly => anomaly.id = incident.triggerAnomalyId
  let telemetry ← database.telemetry.find? fun telemetry => telemetry.id = anomaly.telemetryId
  let service ← database.services.find? fun service => service.id = incident.serviceId
  return ⟨incident, anomaly, telemetry, service⟩

namespace Analysis

def windowStartedAt (analysis : Analysis) : Time :=
  analysis.windowEndedAt - 60 * analysis.request.windowMinutes

def wants (analysis : Analysis) (read : Read) (row : CorrelationIncidentRow) : Bool :=
  row.service.name = analysis.request.service ∧ row.service.environment = analysis.request.environment ∧
    analysis.windowStartedAt ≤ row.incident.createdAt ∧ row.incident.createdAt ≤ analysis.windowEndedAt ∧
    row.incident.status ≠ .resolved ∧ (read.rows (.incident row.incident.id)).isNone

def findUncorrelatedIncidents (analysis : Analysis) (read : Read) : List CorrelationIncidentRow :=
  ((read.world.incidents.filterMap read.world.join).filter (analysis.wants read)).insertionSort
    fun a b => toLex (a.incident.createdAt, a.incident.id.toNat) ≤
      toLex (b.incident.createdAt, b.incident.id.toNat)

end Analysis

def CorrelationIncidentRow.signal (row : CorrelationIncidentRow) : CorrelationSignal where
  anomalyId := row.anomaly.id
  incidentId := row.incident.id
  ruleId := row.anomaly.ruleId
  category := row.anomaly.category
  severity := row.anomaly.severity
  source := row.telemetry.source
  observedAt := row.telemetry.observedAt

namespace Analysis

def summary (analysis : Analysis) (count : ℕ) (rootCause : RootCauseCandidate) : String :=
  "Correlated " ++ toString count ++ " incidents for " ++ analysis.request.service ++ "/" ++
    analysis.request.environment.value ++ "; probable root cause is rule '" ++ rootCause.ruleId ++
    "' from source '" ++ rootCause.source ++ "'"

def record (analysis : Analysis) (serviceId : Uuid) (count : ℕ) (rootCause : RootCauseCandidate) :
    CorrelationRecord where
  id := analysis.correlationId
  serviceId := serviceId
  status := .active
  windowStartedAt := analysis.windowStartedAt
  windowEndedAt := analysis.windowEndedAt
  rootCauseAnomalyId := rootCause.anomalyId
  rootCauseIncidentId := rootCause.incidentId
  rootCauseConfidence := rootCause.confidenceScore
  rootCauseReasons := rootCause.reasons
  summary := analysis.summary count rootCause
  createdAt := analysis.createdAt
  updatedAt := analysis.createdAt

/-- The repository's `create`: the correlation first, then its links. -/
def create (analysis : Analysis) (serviceId : Uuid) (incidentIds : List Uuid)
    (rootCause : RootCauseCandidate) : List (CorrelationKey × CorrelationRow) :=
  (.correlation analysis.correlationId,
    .correlation (analysis.record serviceId incidentIds.length rootCause)) ::
  incidentIds.map fun incidentId =>
    (.incident incidentId, .link analysis.correlationId incidentId analysis.createdAt)

def analyze : Planner Analysis Database CorrelationKey CorrelationRow AnalysisError
  | _, [] => .read
  | analysis, read :: _ =>
    let rows := analysis.findUncorrelatedIncidents read
    if rows.length < analysis.request.minimumIncidents then
      .finish (.insufficientIncidents rows.length analysis.request.service analysis.request.environment
        analysis.request.minimumIncidents)
    else
      match analyzeSignals (rows.map CorrelationIncidentRow.signal), rows with
      | some rootCause, first :: _ =>
        .insert (analysis.create first.service.id (rows.map fun row => row.incident.id) rootCause)
      | _, _ => .finish .valueError

end Analysis

variable {database : Database} {analysis : Analysis} {read : Read} {incident : IncidentRecord}
  {row : CorrelationIncidentRow}

theorem join_eq_some (joined : database.join incident = some row) : row.incident = incident ∧
    row.anomaly.id = incident.triggerAnomalyId ∧ row.service ∈ database.services ∧
    row.service.id = incident.serviceId := by
  simp only [Database.join, Option.bind_eq_bind, Option.bind_eq_some_iff, Option.pure_def,
    Option.some.injEq] at joined
  obtain ⟨anomaly, foundAnomaly, telemetry, -, service, foundService, rfl⟩ := joined
  refine ⟨rfl, ?_, List.mem_of_find?_eq_some foundService, ?_⟩
  · simpa using List.find?_some foundAnomaly
  · simpa using List.find?_some foundService

theorem join_isSome (member : incident ∈ database.incidents) : ∃ row, database.join incident = some row := by
  obtain ⟨anomaly, inside, trigger⟩ := List.mem_map.mp (database.incidentAnomalies incident member)
  obtain ⟨telemetry, recorded, source⟩ := List.mem_map.mp (database.anomalyTelemetry anomaly inside)
  obtain ⟨service, known, owner⟩ := List.mem_map.mp (database.incidentServices incident member)
  have foundAnomaly := (find?_key_iff database.anomalyIds).mpr ⟨inside, trigger⟩
  have foundTelemetry := (find?_key_iff database.telemetryIds).mpr ⟨recorded, source⟩
  have foundService := (find?_key_iff database.serviceIds).mpr ⟨known, owner⟩
  exact ⟨⟨incident, anomaly, telemetry, service⟩, by
    simp [Database.join, foundAnomaly, foundTelemetry, foundService]⟩

theorem mem_findUncorrelatedIncidents : row ∈ analysis.findUncorrelatedIncidents read ↔
    (∃ incident ∈ read.world.incidents, read.world.join incident = some row) ∧
      analysis.wants read row = true := by
  rw [Analysis.findUncorrelatedIncidents, List.mem_insertionSort, List.mem_filter, List.mem_filterMap]

theorem wants_iff : analysis.wants read row = true ↔
    row.service.identity = (analysis.request.service, analysis.request.environment) ∧
      analysis.windowStartedAt ≤ row.incident.createdAt ∧ row.incident.createdAt ≤ analysis.windowEndedAt ∧
      row.incident.status ≠ .resolved ∧ read.rows (.incident row.incident.id) = none := by
  simp only [Analysis.wants, decide_eq_true_eq, MonitoredService.identity, Prod.mk.injEq,
    Option.isNone_iff_eq_none, and_assoc]

theorem find_keys {α : Type} {key : CorrelationIncidentRow → α} {column : IncidentRecord → α}
    (same : ∀ incident row, read.world.join incident = some row → key row = column incident)
    (distinct : (read.world.incidents.map column).Nodup) :
    ((analysis.findUncorrelatedIncidents read).map key).Nodup := by
  have order := (List.perm_insertionSort (fun a b : CorrelationIncidentRow =>
    toLex (a.incident.createdAt, a.incident.id.toNat) ≤ toLex (b.incident.createdAt, b.incident.id.toNat))
    ((read.world.incidents.filterMap read.world.join).filter (analysis.wants read))).map key
  rw [Analysis.findUncorrelatedIncidents, order.nodup_iff]
  refine (distinct.sublist (map_filterMap_sublist same _)).sublist ?_
  exact List.filter_sublist.map key

theorem find_ids : ((analysis.findUncorrelatedIncidents read).map fun row => row.incident.id).Nodup :=
  find_keys (fun _ _ joined => congrArg IncidentRecord.id (join_eq_some joined).1)
    read.world.incidentIds

theorem find_anomalies : ((analysis.findUncorrelatedIncidents read).map fun row => row.anomaly.id).Nodup :=
  find_keys (fun _ _ joined => (join_eq_some joined).2.1) read.world.incidentTriggers

theorem find_service {first : CorrelationIncidentRow}
    (member : row ∈ analysis.findUncorrelatedIncidents read)
    (present : first ∈ analysis.findUncorrelatedIncidents read) : row.service = first.service := by
  obtain ⟨⟨incident, -, joined⟩, wanted⟩ := mem_findUncorrelatedIncidents.mp member
  obtain ⟨⟨incident', -, joined'⟩, wanted'⟩ := mem_findUncorrelatedIncidents.mp present
  refine List.inj_on_of_nodup_map read.world.serviceIdentities (join_eq_some joined).2.2.1
    (join_eq_some joined').2.2.1 ?_
  rw [(wants_iff.mp wanted).1, (wants_iff.mp wanted').1]

theorem analyze_insert {reads : List Read} {rows : List (CorrelationKey × CorrelationRow)}
    (plan : analysis.analyze reads = .insert rows) : ∃ read rest rootCause first,
      reads = read :: rest ∧
      analysis.request.minimumIncidents ≤ (analysis.findUncorrelatedIncidents read).length ∧
      analyzeSignals ((analysis.findUncorrelatedIncidents read).map CorrelationIncidentRow.signal) =
        some rootCause ∧
      first ∈ analysis.findUncorrelatedIncidents read ∧
      rows = analysis.create first.service.id
        ((analysis.findUncorrelatedIncidents read).map fun row => row.incident.id) rootCause := by
  unfold Analysis.analyze at plan
  split at plan
  · cases plan
  · next read rest =>
    dsimp only at plan
    split at plan
    · cases plan
    · next enough =>
      split at plan
      · next rootCause first others found list =>
        cases plan
        refine ⟨read, rest, rootCause, first, rfl, not_lt.mp enough, found, ?_, rfl⟩
        rw [list]
        exact List.mem_cons_self
      · cases plan

abbrev CorrelationAction := Inserts.Action Analysis PlatformEvent

def CorrelationStep (state : Correlations) (action : CorrelationAction) (after : Correlations) : Prop :=
  state.step Analysis.analyze happen action = some after

abbrev CorrelationRun := Run CorrelationStep

variable {state : Correlations} {labels : List CorrelationAction} {correlationId incidentId : Uuid}
  {record : CorrelationRecord} {commit : Inserted Analysis Database CorrelationKey CorrelationRow}

def Holds (state : Correlations) (correlationId incidentId : Uuid) : Prop :=
  ∃ addedAt, state.store.committed (.incident incidentId) = some (.link correlationId incidentId addedAt)

/-- What an analysis that had read `read` stores: the correlation of all the incidents it wanted, whose
signals are `signals`. -/
structure Correlated (state : Correlations) (analysis : Analysis) (read : Read)
    (record : CorrelationRecord) (signals : List CorrelationSignal) : Prop where
  window : record.windowEndedAt = analysis.windowEndedAt ∧
    record.windowStartedAt = analysis.windowEndedAt - 60 * analysis.request.windowMinutes
  service : ∃ service ∈ state.world.services, service.id = record.serviceId ∧
    service.name = analysis.request.service ∧ service.environment = analysis.request.environment
  members : ∀ incidentId, Holds state record.id incidentId ↔
    incidentId ∈ signals.map CorrelationSignal.incidentId
  distinct : (signals.map CorrelationSignal.incidentId).Nodup
  minimum : analysis.request.minimumIncidents ≤ signals.length
  within : ∀ incidentId, Holds state record.id incidentId → ∃ incident ∈ state.world.incidents,
    incident.id = incidentId ∧ incident.serviceId = record.serviceId ∧
      record.windowStartedAt ≤ incident.createdAt ∧ incident.createdAt ≤ record.windowEndedAt
  complete : ∀ incident ∈ read.world.incidents, incident.serviceId = record.serviceId →
    record.windowStartedAt ≤ incident.createdAt → incident.createdAt ≤ record.windowEndedAt →
    incident.status ≠ .resolved → read.rows (.incident incident.id) = none →
    Holds state record.id incident.id
  evidence : ∀ signal ∈ signals, ∃ incident ∈ read.world.incidents, ∃ row,
    read.world.join incident = some row ∧ signal = row.signal ∧ signal.incidentId = incident.id ∧
      signal.anomalyId = incident.triggerAnomalyId
  rootCauseTrigger : ∃ incident ∈ state.world.incidents, incident.id = record.rootCauseIncidentId ∧
    incident.triggerAnomalyId = record.rootCauseAnomalyId ∧ Holds state record.id incident.id
  rootCause : ∀ order, order.Perm signals → ∃ candidate signal, analyzeSignals order = some candidate ∧
    IsRootCause order signal ∧ signal.incidentId = record.rootCauseIncidentId ∧
      signal.anomalyId = record.rootCauseAnomalyId ∧
      candidate.confidenceScore = record.rootCauseConfidence ∧
      record.rootCauseConfidence = Doubles.double (documentedScore order signal / 100)

theorem find_signals {α : Type} (key : CorrelationSignal → α) (rows : List CorrelationIncidentRow) :
    (rows.map CorrelationIncidentRow.signal).map key = rows.map fun row => key row.signal := by
  rw [List.map_map]
  rfl

theorem mem_create {serviceId : Uuid} {ids : List Uuid} {rootCause : RootCauseCandidate}
    {key : CorrelationKey} {row : CorrelationRow} :
    (key, row) ∈ analysis.create serviceId ids rootCause ↔
      (key = .correlation analysis.correlationId ∧
        row = .correlation (analysis.record serviceId ids.length rootCause)) ∨
      ∃ incidentId ∈ ids, key = .incident incidentId ∧
        row = .link analysis.correlationId incidentId analysis.createdAt := by
  simp only [Analysis.create, List.mem_cons, Prod.mk.injEq, List.mem_map]
  constructor
  · rintro (own | ⟨incidentId, member, rfl, rfl⟩)
    · exact .inl own
    · exact .inr ⟨incidentId, member, rfl, rfl⟩
  · rintro (own | ⟨incidentId, member, rfl, rfl⟩)
    · exact .inl own
    · exact .inr ⟨incidentId, member, rfl, rfl⟩

theorem mem_create_keys (analysis : Analysis) (serviceId : Uuid) (ids : List Uuid) (rootCause : RootCauseCandidate) :
    .correlation analysis.correlationId ∈ (analysis.create serviceId ids rootCause).map Prod.fst := by
  simp [Analysis.create]

theorem holds_iff (sound : Inserts.Sound Analysis.analyze state) (member : commit ∈ state.commits)
    {serviceId : Uuid} {ids : List Uuid} {rootCause : RootCauseCandidate}
    (rows : commit.rows = commit.request.create serviceId ids rootCause) :
    Holds state commit.request.correlationId incidentId ↔ incidentId ∈ ids := by
  unfold Holds
  simp only [sound.stored]
  constructor
  · rintro ⟨addedAt, other, present, inside⟩
    obtain ⟨read, rest, cause, first, -, -, -, -, rows'⟩ := analyze_insert (sound.planned other present)
    have same : commit.request.correlationId = other.request.correlationId := by
      rw [rows', mem_create] at inside
      rcases inside with ⟨wrong, -⟩ | ⟨_, -, -, same⟩
      · cases wrong
      · exact (CorrelationRow.link.inj same).1
    have key := mem_create_keys commit.request serviceId ids rootCause
    rw [← rows] at key
    have key' := mem_create_keys other.request first.service.id
      ((other.request.findUncorrelatedIncidents read).map fun row => row.incident.id) cause
    rw [← rows', ← same] at key'
    have equal := sound.commit_unique member present key key'
    subst equal
    rw [rows, mem_create] at inside
    rcases inside with ⟨wrong, -⟩ | ⟨_, listed, key, -⟩
    · cases wrong
    · rw [CorrelationKey.incident.inj key]
      exact listed
  · intro listed
    exact ⟨_, commit, member, rows ▸ mem_create.mpr (.inr ⟨incidentId, listed, rfl, rfl⟩)⟩

theorem grows_of_run {start : Correlations} (run : CorrelationRun start labels state) :
    start.world.Grows state.world :=
  Inserts.world_of_run .refl (fun _ _ _ => .trans) (fun _ _ _ => happen_grows) run

theorem mem_find {row : CorrelationIncidentRow} (member : row ∈ analysis.findUncorrelatedIncidents read)
    (grows : read.world.Grows database) : ∃ incident ∈ database.incidents, incident.id = row.incident.id ∧
      incident.serviceId = row.service.id ∧ incident.triggerAnomalyId = row.anomaly.id ∧
      analysis.windowStartedAt ≤ incident.createdAt ∧ incident.createdAt ≤ analysis.windowEndedAt := by
  obtain ⟨⟨incident, inside, joined⟩, wanted⟩ := mem_findUncorrelatedIncidents.mp member
  obtain ⟨rfl, anomaly, -, service⟩ := join_eq_some joined
  obtain ⟨-, after, until_, -⟩ := wants_iff.mp wanted
  obtain ⟨now, present, id, serviceId, trigger, createdAt⟩ := grows.incidents _ inside
  refine ⟨now, present, id, ?_, ?_, ?_, ?_⟩
  · rw [serviceId, service]
  · rw [trigger, anomaly]
  · rw [createdAt]
    exact after
  · rw [createdAt]
    exact until_

theorem correlated_of_commit (sound : Inserts.Sound Analysis.analyze state) (member : commit ∈ state.commits)
    (grows : ∀ read ∈ commit.reads, read.world.Grows state.world)
    (stored : (.correlation correlationId, .correlation record) ∈ commit.rows) :
    record.id = correlationId ∧
      ∃ read ∈ commit.reads, ∃ signals, Correlated state commit.request read record signals := by
  obtain ⟨read, rest, rootCause, first, reads, enough, analysed, present, rows⟩ :=
    analyze_insert (sound.planned commit member)
  have grown : read.world.Grows state.world := grows read (reads ▸ List.mem_cons_self)
  have holds (incidentId : Uuid) : Holds state commit.request.correlationId incidentId ↔ _ :=
    holds_iff sound member rows
  rw [rows, mem_create] at stored
  rcases stored with ⟨key, row⟩ | ⟨_, -, wrong, -⟩
  swap
  · cases wrong
  cases key
  cases row
  obtain ⟨signal, root, causeAnomaly, causeIncident, -⟩ := analyzeSignals_rootCause analysed
  obtain ⟨cause, causeMember, rfl⟩ := List.mem_map.mp root.member
  refine ⟨rfl, read, reads ▸ List.mem_cons_self,
    (commit.request.findUncorrelatedIncidents read).map CorrelationIncidentRow.signal, ?_⟩
  · exact {
      window := ⟨rfl, rfl⟩
      service := by
        obtain ⟨⟨incident, -, joined⟩, wanted⟩ := mem_findUncorrelatedIncidents.mp present
        have identity := (wants_iff.mp wanted).1
        simp only [MonitoredService.identity, Prod.mk.injEq] at identity
        exact ⟨first.service, grown.services _ (join_eq_some joined).2.2.1, rfl, identity⟩
      members := fun incidentId => by
        rw [find_signals]
        exact holds incidentId
      distinct := by
        rw [find_signals]
        exact find_ids
      minimum := by
        rw [List.length_map]
        exact enough
      within := fun incidentId held => by
        obtain ⟨row, inside, rfl⟩ := List.mem_map.mp ((holds incidentId).mp held)
        obtain ⟨incident, there, id, serviceId, -, window⟩ := mem_find inside grown
        exact ⟨incident, there, id, by rw [serviceId, find_service inside present]; rfl, window⟩
      complete := fun incident there serviceId after until_ unresolved free => by
        obtain ⟨row, joined⟩ := join_isSome there
        obtain ⟨⟨incident', -, joined'⟩, wanted⟩ := mem_findUncorrelatedIncidents.mp present
        obtain ⟨rfl, -, known, own⟩ := join_eq_some joined
        obtain ⟨-, -, known', -⟩ := join_eq_some joined'
        have same : row.service = first.service :=
          List.inj_on_of_nodup_map read.world.serviceIds known known' (own.trans serviceId)
        refine (holds _).mpr (List.mem_map.mpr ⟨row, ?_, rfl⟩)
        refine mem_findUncorrelatedIncidents.mpr ⟨⟨row.incident, there, joined⟩, wants_iff.mpr ?_⟩
        rw [same]
        exact ⟨(wants_iff.mp wanted).1, after, until_, unresolved, free⟩
      evidence := fun signal listed => by
        obtain ⟨row, inside, rfl⟩ := List.mem_map.mp listed
        obtain ⟨⟨incident, there, joined⟩, -⟩ := mem_findUncorrelatedIncidents.mp inside
        obtain ⟨same, anomaly, -⟩ := join_eq_some joined
        exact ⟨incident, there, row, joined, rfl, congrArg IncidentRecord.id same, anomaly⟩
      rootCauseTrigger := by
        obtain ⟨incident, there, id, -, trigger, -⟩ := mem_find causeMember grown
        refine ⟨incident, there, id.trans causeIncident.symm, trigger.trans causeAnomaly.symm, ?_⟩
        exact (holds _).mpr (List.mem_map.mpr ⟨cause, causeMember, id.symm⟩)
      rootCause := fun order perm => by
        have found : analyzeSignals order = some rootCause := by
          rw [← analysed]
          refine analyzeSignals_perm perm ?_
          rw [(perm.map _).nodup_iff, find_signals]
          exact find_anomalies
        obtain ⟨signal, isRoot, anomalyId, incidentId, score⟩ := analyzeSignals_rootCause found
        exact ⟨rootCause, signal, found, isRoot, incidentId.symm, anomalyId.symm, rfl, score⟩ }

/-- Whatever analyses, ingestions and incident requests interleave. The rows are those that the
committed analyses have inserted, each under a key of its own; a link is to a stored correlation; a
stored correlation has the members and the root cause that its analysis had to give it, by what the
analysis read in an earlier state of the run; and what an analysis does that has not committed
changes nothing. -/
theorem correlations_partition_incidents {database : Database}
    (run : CorrelationRun (Inserts.initial database) labels state) :
    ((∀ key row, state.store.committed key = some row ↔
        (key, row) ∈ state.commits.flatMap Inserted.rows) ∧
      ((state.commits.flatMap Inserted.rows).map Prod.fst).Nodup) ∧
    (∀ incidentId row, state.store.committed (.incident incidentId) = some row → ∃ correlationId addedAt record,
      row = .link correlationId incidentId addedAt ∧
        state.store.committed (.correlation correlationId) = some (.correlation record)) ∧
    (∀ correlationId row, state.store.committed (.correlation correlationId) = some row →
      ∃ record, row = .correlation record ∧ record.id = correlationId ∧
        ∃ id client before later middle signals, state.clients id = some client ∧
          client.progress = .committed ∧ labels = before ++ later ∧
          CorrelationRun (Inserts.initial database) before middle ∧
          Correlated state client.request middle.snapshot record signals) ∧
    ∀ id, (∀ client, state.clients id = some client → client.progress ≠ .committed) →
      ∀ before action later middle after, CorrelationRun (Inserts.initial database) before middle →
        CorrelationStep middle action after → CorrelationRun after later state → action.client = some id →
        after.world = middle.world ∧ after.store.committed = middle.store.committed := by
  have sound : Inserts.Sound Analysis.analyze state := Inserts.sound_of_run run
  have reads := Inserts.reads_of_run run (.initial database)
  refine ⟨⟨sound.rows, sound.keys⟩, fun incidentId row stored => ?_, fun correlationId row stored => ?_,
    fun id uncommitted before action later middle after first moved rest acts =>
      Inserts.unchanged_of_run first moved rest acts uncommitted⟩
  · obtain ⟨commit, member, inside⟩ := sound.stored.mp stored
    obtain ⟨read, rest, rootCause, first, -, -, -, -, rows⟩ := analyze_insert (sound.planned commit member)
    have parent := sound.stored.mpr ⟨commit, member, rows ▸ mem_create.mpr (.inl ⟨rfl, rfl⟩)⟩
    rw [rows, mem_create] at inside
    rcases inside with ⟨wrong, -⟩ | ⟨_, -, key, rfl⟩
    · cases wrong
    · cases key
      exact ⟨_, _, _, rfl, parent⟩
  · obtain ⟨commit, member, inside⟩ := sound.stored.mp stored
    have parent := inside
    obtain ⟨read, rest, rootCause, first, -, -, -, -, rows⟩ := analyze_insert (sound.planned commit member)
    rw [rows, mem_create] at inside
    rcases inside with ⟨-, rfl⟩ | ⟨_, -, wrong, -⟩
    swap
    · cases wrong
    have grows : ∀ read ∈ commit.reads, read.world.Grows state.world := by
      intro read listed
      obtain ⟨before, later, middle, -, -, onward, rfl⟩ := reads.commits commit member read listed
      exact grows_of_run onward
    obtain ⟨id, read, listed, signals, correlated⟩ := correlated_of_commit sound member grows parent
    obtain ⟨before, later, middle, split, reached, -, rfl⟩ := reads.commits commit member read listed
    obtain ⟨client, present⟩ := Option.isSome_iff_exists.mp (sound.known commit member)
    have own := sound.clients commit.client client present
    have committed := own.recorded ⟨commit, member, rfl⟩
    obtain ⟨commit', member', same, request, -⟩ := own.committed committed
    have equal : commit' = commit := List.inj_on_of_nodup_map sound.once member' member same
    subst equal
    refine ⟨_, rfl, id, commit'.client, client, before, later, middle, signals, present, committed, split,
      reached, ?_⟩
    rw [← request]
    exact correlated

/-- Two critical logs of one service, and two analyses that both read the two incidents before either commits. -/
def racedLabels : List CorrelationAction :=
  let log : TelemetryItem := .log ⟨⟨"shop", .production, "web", 10, []⟩, .critical, "failed"⟩
  let draw : Draw := ⟨fun i => .ofNat 128 (10 + i), fun i => .ofNat 128 (20 + i), fun i => .ofNat 128 (30 + i)⟩
  let analysis (id : Uuid) : Analysis := ⟨⟨"shop", .production, 15, 2, by decide, by decide⟩, 20, 20, id⟩
  [.event (.register ⟨1, "shop", .production⟩),
    .event (.ingest (fun _ => false) draw 11 ⟨[log, log], by decide⟩),
    .start 0 (analysis 40), .start 1 (analysis 50), .execute 0, .execute 1, .execute 0, .execute 1,
    .execute 0, .execute 0, .execute 0, .execute 1, .execute 0, .execute 1]

theorem correlations_partition_incidents_raced : ∃ state : Correlations,
    CorrelationRun (Inserts.initial Database.empty) racedLabels state ∧
      state.commits.map (fun commit => commit.request.correlationId) = [40] ∧
      (state.clients 1).any (fun client => client.progress matches .failed) ∧
      ((state.commits.flatMap Inserted.rows).map Prod.fst).Nodup := by
  have checked : (racedLabels.foldlM (Inserts.step Analysis.analyze happen)
      (Inserts.initial Database.empty)).any (fun state =>
        state.commits.map (fun commit => commit.request.correlationId) = [40] &&
        (state.clients 1).any fun client => client.progress matches .failed) = true := by
    decide +kernel
  obtain ⟨state, reached, holds⟩ := (Option.any_eq_true _ _).mp checked
  rw [Bool.and_eq_true, decide_eq_true_eq] at holds
  have run : CorrelationRun (Inserts.initial Database.empty) racedLabels state := .of_foldlM reached
  exact ⟨state, run, holds.1, holds.2, (correlations_partition_incidents run).1.2⟩

end CareerProjects.Observability
