import CareerProjects.Library.Throwing
import CareerProjects.Observability.Telemetry

/-! Ingestion of telemetry batches. All rows of a batch are written in one transaction; a database
call that fails before its end rolls everything back. -/

namespace CareerProjects.Observability
open Library

/-- The committed tables, and those that the open transaction sees. -/
structure Session where
  committed : Database
  working : Database

/-- The database calls of an ingestion. A flush inserts its rows one by one, and may also fail
after its last row. -/
inductive Call
  | lookup (position : ℕ)
  | telemetry (position : ℕ)
  | anomaly (position : ℕ)
  | incident (position : ℕ)
  | commit
  deriving DecidableEq

structure Draw where
  telemetryId : ℕ → Uuid
  anomalyId : ℕ → Uuid
  incidentId : ℕ → Uuid

inductive IngestError
  | unregisteredService (service : String) (environment : ServiceEnvironment)
  | databaseError
  | integrityError
  | valueError
  | keyError
  deriving DecidableEq

structure TelemetryIngestResponse where
  acceptedCount : ℕ
  telemetryIds : List Uuid
  receivedAt : Time
  detectedAnomalyCount : ℕ
  anomalyIds : List Uuid
  createdIncidentCount : ℕ
  incidentIds : List Uuid
  deriving DecidableEq

abbrev Transaction := ExceptT IngestError (StateM Session)

namespace Transaction

def call (fails : Bool) : Transaction Unit := if fails then throw .databaseError else pure ()

def lookup (failing : Call → Bool) (position : ℕ) (identity : String × ServiceEnvironment) :
    Transaction (Option MonitoredService) := do
  call (failing (.lookup position))
  return (← get).working.service identity

/-- The rows that were added to the session, written in order. -/
def flush {Row : Type} (insert : Database → Row → Option Database) (failing : ℕ → Bool) :
    ℕ → List Row → Transaction Unit
  | position, [] => call (failing position)
  | position, row :: rows => do
    call (failing position)
    match insert (← get).working row with
    | none => throw .integrityError
    | some database =>
      modify fun session => { session with working := database }
      flush insert failing (position + 1) rows

def commit (failing : Call → Bool) : Transaction Unit := do
  call (failing .commit)
  modify fun session => { session with committed := session.working }

def rollback : Transaction Unit := modify fun session => { session with working := session.committed }

def zipStrict {α β : Type} (xs : List α) (ys : List β) : Transaction (List (α × β)) :=
  if xs.length = ys.length then pure (xs.zip ys) else throw .valueError

end Transaction

open Transaction

def TelemetryItem.identity (item : TelemetryItem) : String × ServiceEnvironment :=
  (item.base.service, item.base.environment)

/-- The items with the ids of their services, each identity looked up once. -/
def resolveItems (failing : Call → Bool) (position : ℕ)
    (serviceIds : List ((String × ServiceEnvironment) × Uuid)) :
    List TelemetryItem → Transaction (List (TelemetryItem × Uuid))
  | [] => pure []
  | item :: items => do
    match serviceIds.lookup item.identity with
    | some serviceId =>
      let resolved ← resolveItems failing (position + 1) serviceIds items
      return (item, serviceId) :: resolved
    | none =>
      match ← lookup failing position item.identity with
      | none => throw (.unregisteredService item.base.service item.base.environment)
      | some service =>
        let resolved ← resolveItems failing (position + 1) ((item.identity, service.id) :: serviceIds) items
        return (item, service.id) :: resolved

def TelemetryRecord.ofItem (id : Uuid) (receivedAt : Time) (resolved : TelemetryItem × Uuid) :
    TelemetryRecord where
  id := id
  serviceId := resolved.2
  telemetryType := resolved.1.type
  source := resolved.1.base.source
  observedAt := resolved.1.base.timestamp
  receivedAt := receivedAt
  payload := resolved.1

def AnomalyRecord.ofFinding (id : Uuid) (detectedAt : Time) (finding : AnomalyFinding)
    (telemetryId : Uuid) : AnomalyRecord where
  id := id
  telemetryId := telemetryId
  ruleId := finding.ruleId
  category := finding.category
  severity := finding.severity
  title := finding.title
  description := finding.description
  observedValue := finding.observedValue
  threshold := finding.threshold
  detectedAt := detectedAt

def IncidentRecord.ofAnomaly (id : Uuid) (createdAt : Time) (anomaly : AnomalyRecord)
    (serviceId : Uuid) : IncidentRecord where
  id := id
  serviceId := serviceId
  triggerAnomalyId := anomaly.id
  status := .openStatus
  severity := anomaly.severity
  title := "Incident: " ++ anomaly.title
  description := anomaly.description
  createdAt := createdAt
  acknowledgedAt := none
  acknowledgedBy := none
  resolvedAt := none
  resolvedBy := none
  resolutionSummary := none

def createTelemetry (failing : Call → Bool) (draw : Draw) (receivedAt : Time)
    (items : List (TelemetryItem × Uuid)) : Transaction (List TelemetryRecord) := do
  let records := items.mapIdx fun i resolved => .ofItem (draw.telemetryId i) receivedAt resolved
  flush Database.insertTelemetry (fun i => failing (.telemetry i)) 0 records
  return records

def createAnomalies (failing : Call → Bool) (draw : Draw) (detectedAt : Time)
    (findings : List (AnomalyFinding × Uuid)) : Transaction (List AnomalyRecord) := do
  let records := findings.mapIdx fun i entry => .ofFinding (draw.anomalyId i) detectedAt entry.1 entry.2
  flush Database.insertAnomaly (fun i => failing (.anomaly i)) 0 records
  return records

def createIncidents (failing : Call → Bool) (draw : Draw) (createdAt : Time)
    (anomalies : List (AnomalyRecord × Uuid)) : Transaction (List IncidentRecord) := do
  let incidents := anomalies.mapIdx fun i entry => .ofAnomaly (draw.incidentId i) createdAt entry.1 entry.2
  flush Database.insertIncident (fun i => failing (.incident i)) 0 incidents
  return incidents

/-- `service_id_by_telemetry_id[telemetry_id]`; a later record would replace an earlier one. -/
def serviceIdByTelemetryId (records : List TelemetryRecord) (telemetryId : Uuid) : Transaction Uuid :=
  match records.reverse.find? fun record => record.id = telemetryId with
  | none => throw .keyError
  | some record => pure record.serviceId

/-- The telemetry, anomaly and incident rows of resolved items, and the commit. -/
def storeItems (failing : Call → Bool) (draw : Draw) (receivedAt : Time) (items : List TelemetryItem)
    (resolvedItems : List (TelemetryItem × Uuid)) : Transaction TelemetryIngestResponse := do
  let records ← createTelemetry failing draw receivedAt resolvedItems
  let pairs ← zipStrict items records
  let findingsWithTelemetryIds := pairs.flatMap fun pair =>
    (evaluate pair.1).map fun finding => (finding, pair.2.id)
  let anomalyRecords ← createAnomalies failing draw receivedAt findingsWithTelemetryIds
  let detected ← zipStrict anomalyRecords findingsWithTelemetryIds
  let criticalAnomalies ← (detected.filter fun entry => entry.2.1.severity = .critical).mapM fun entry => do
    return (entry.1, ← serviceIdByTelemetryId records entry.2.2)
  let incidentRecords ← createIncidents failing draw receivedAt criticalAnomalies
  commit failing
  return {
    acceptedCount := records.length
    telemetryIds := records.map TelemetryRecord.id
    receivedAt := receivedAt
    detectedAnomalyCount := anomalyRecords.length
    anomalyIds := anomalyRecords.map AnomalyRecord.id
    createdIncidentCount := incidentRecords.length
    incidentIds := incidentRecords.map IncidentRecord.id }

def ingest (failing : Call → Bool) (draw : Draw) (receivedAt : Time) (batch : TelemetryBatch) :
    Transaction TelemetryIngestResponse := do
  let resolvedItems ← resolveItems failing 0 [] batch.items
  tryCatch (storeItems failing draw receivedAt batch.items resolvedItems) fun error => do
    rollback
    throw error

variable {failing : Call → Bool} {draw : Draw} {receivedAt : Time} {before after : Database}
  {session : Session} {items : List TelemetryItem}

def findings (items : List TelemetryItem) : List AnomalyFinding := items.flatMap evaluate

def criticalFindings (items : List TelemetryItem) : List AnomalyFinding :=
  (findings items).filter fun finding => finding.severity = .critical

def Call.Within (items : List TelemetryItem) : Call → Prop
  | .lookup position => position < items.length
  | .telemetry position => position ≤ items.length
  | .anomaly position => position ≤ (findings items).length
  | .incident position => position ≤ (criticalFindings items).length
  | .commit => True

/-- The identifiers drawn for the rows of the items are new and differ from each other. -/
structure Draw.Fresh (draw : Draw) (database : Database) (items : List TelemetryItem) : Prop where
  telemetry : (database.telemetry.map TelemetryRecord.id ++
    (List.range items.length).map draw.telemetryId).Nodup
  anomalies : (database.anomalies.map AnomalyRecord.id ++
    (List.range (findings items).length).map draw.anomalyId).Nodup
  incidents : (database.incidents.map IncidentRecord.id ++
    (List.range (criticalFindings items).length).map draw.incidentId).Nodup

def Disturbed (failing : Call → Bool) (items : List TelemetryItem) : Prop :=
  ∃ call : Call, call.Within items ∧ failing call = true

/-- A call of the ingestion fails, a service is not registered, or an identifier was drawn before. -/
def Excused (failing : Call → Bool) (draw : Draw) (database : Database) (items : List TelemetryItem) :
    Prop :=
  Disturbed failing items ∨ (∃ item ∈ items, database.service item.identity = none) ∨
    ¬draw.Fresh database items

/-- The item comes with the id of the service that has its identity. -/
def Resolved (database : Database) (entry : TelemetryItem × Uuid) : Prop :=
  ∃ service, database.service entry.1.identity = some service ∧ service.id = entry.2

namespace Transaction

theorem call_ensures {fails : Bool} {thrown : IngestError → Session → Prop}
    (raises : fails = true → ∀ error, thrown error session) :
    Ensures (fun state => state = session) (call fails) (fun _ state => state = session) thrown := by
  refine Ensures.ite (fun failed => ?_) fun _ => Ensures.pure fun _ same => same
  exact Ensures.throw fun state same => same ▸ raises failed _

theorem lookup_ensures (position : ℕ) (identity : String × ServiceEnvironment) :
    Ensures (fun state => state = session) (lookup failing position identity)
      (fun service state => state = session ∧ service = session.working.service identity)
      (fun _ state => state = session ∧ failing (.lookup position) = true) := by
  refine Ensures.bind _ (call_ensures fun failed _ => ⟨rfl, failed⟩) fun _ => ?_
  refine Ensures.bind (fun current state => state = session ∧ current = session)
    (Ensures.get fun _ same => ⟨same, same⟩) fun current => ?_
  exact Ensures.pure fun state same => ⟨same.1, by rw [same.2]⟩

end Transaction

theorem resolveItems_ensures (items : List TelemetryItem) : ∀ (position : ℕ)
    (serviceIds : List ((String × ServiceEnvironment) × Uuid)),
    (∀ identity id, serviceIds.lookup identity = some id →
      ∃ service, session.working.service identity = some service ∧ service.id = id) →
    Ensures (fun state => state = session) (resolveItems failing position serviceIds items)
      (fun resolved state => state = session ∧ resolved.map Prod.fst = items ∧
        ∀ entry ∈ resolved, Resolved session.working entry)
      (fun _ state => state = session ∧ ((∃ i < position + items.length, failing (.lookup i) = true) ∨
        ∃ item ∈ items, session.working.service item.identity = none)) := by
  induction items with
  | nil => exact fun _ _ _ => Ensures.pure fun _ same => ⟨same, rfl, by simp⟩
  | cons item items ih =>
    intro position serviceIds known
    have extend : ∀ (serviceId : Uuid) serviceIds, Resolved session.working (item, serviceId) →
        (∀ identity id, serviceIds.lookup identity = some id →
          ∃ service, session.working.service identity = some service ∧ service.id = id) →
        Ensures (fun state => state = session)
          (do
            let resolved ← resolveItems failing (position + 1) serviceIds items
            return (item, serviceId) :: resolved)
          (fun resolved state => state = session ∧ resolved.map Prod.fst = item :: items ∧
            ∀ entry ∈ resolved, Resolved session.working entry)
          (fun _ state => state = session ∧
            ((∃ i < position + (item :: items).length, failing (.lookup i) = true) ∨
              ∃ other ∈ item :: items, session.working.service other.identity = none)) := by
      intro serviceId serviceIds first cached
      refine Ensures.bind (fun resolved state => state = session ∧ resolved.map Prod.fst = items ∧
        ∀ entry ∈ resolved, Resolved session.working entry) ?_ fun resolved => ?_
      · refine (ih (position + 1) serviceIds cached).mono (fun _ same => same) (fun _ _ ends => ends) ?_
        rintro error state ⟨same, ⟨i, bound, failed⟩ | ⟨other, member, unregistered⟩⟩
        · exact ⟨same, .inl ⟨i, by rw [List.length_cons]; omega, failed⟩⟩
        · exact ⟨same, .inr ⟨other, List.mem_cons_of_mem _ member, unregistered⟩⟩
      · refine Ensures.pure ?_
        rintro state ⟨same, firsts, all⟩
        exact ⟨same, by rw [List.map_cons, firsts], List.forall_mem_cons.mpr ⟨first, all⟩⟩
    unfold resolveItems
    cases cached : serviceIds.lookup item.identity with
    | some serviceId => exact extend serviceId serviceIds (known _ _ cached) known
    | none =>
      refine Ensures.bind _ ((lookup_ensures position item.identity).mono (fun _ same => same)
        (fun _ _ found => found) fun _ _ failed => ⟨failed.1, .inl ⟨position, by simp, failed.2⟩⟩) fun found => ?_
      cases found with
      | none =>
        refine Ensures.throw ?_
        rintro state ⟨same, unregistered⟩
        exact ⟨same, .inr ⟨item, List.mem_cons_self, unregistered.symm⟩⟩
      | some service =>
        by_cases registered : session.working.service item.identity = some service
        · refine Ensures.mono (extend service.id ((item.identity, service.id) :: serviceIds)
            ⟨service, registered, rfl⟩ ?_) (fun _ found => found.1) (fun _ _ ends => ends)
            fun _ _ ends => ends
          intro identity id cached
          rw [List.lookup_cons] at cached
          split at cached
          · next same =>
            cases cached
            exact ⟨service, by rwa [eq_of_beq same], rfl⟩
          · exact known identity id cached
        · intro state found
          exact absurd found.2.symm registered

theorem flush_ensures {Row : Type} {insert : Database → Row → Option Database} {fails : ℕ → Bool}
    (rows : List Row) : ∀ (position : ℕ) (working : Database),
    Ensures (fun state => state = ⟨before, working⟩) (flush insert fails position rows)
      (fun _ state => ∃ database, rows.foldlM insert working = some database ∧
        state = ⟨before, database⟩)
      (fun _ state => state.committed = before ∧
        ((∃ i ≤ position + rows.length, fails i = true) ∨ rows.foldlM insert working = none)) := by
  induction rows with
  | nil =>
    intro position working
    refine (@call_ensures ⟨before, working⟩ _ _ fun failed _ => ⟨rfl, .inl ⟨position, by simp, failed⟩⟩).mono
      (fun _ same => same) ?_ fun _ _ ends => ends
    exact fun _ state same => ⟨working, rfl, same⟩
  | cons row rows ih =>
    intro position working
    unfold flush
    refine Ensures.bind _ (call_ensures fun failed _ => ⟨rfl, .inl ⟨position, by simp, failed⟩⟩) fun _ => ?_
    refine Ensures.bind (fun current state => state = ⟨before, working⟩ ∧ current = ⟨before, working⟩)
      (Ensures.get fun _ same => ⟨same, same⟩) fun current => ?_
    by_cases same : current = ⟨before, working⟩
    · subst same
      cases inserted : insert working row with
      | none =>
        simp only
        refine Ensures.throw ?_
        rintro state ⟨rfl, -⟩
        exact ⟨rfl, .inr (by simp [inserted])⟩
      | some database =>
        simp only
        refine Ensures.bind (fun _ state => state = ⟨before, database⟩) (Ensures.modify ?_) fun _ => ?_
        · rintro state ⟨rfl, -⟩
          rfl
        · refine (ih (position + 1) database).mono (fun _ same => same) ?_ ?_
          · exact fun _ state ends => by simpa [inserted] using ends
          · rintro error state ⟨same, ⟨i, bound, failed⟩ | rejected⟩
            · exact ⟨same, .inl ⟨i, by rw [List.length_cons]; omega, failed⟩⟩
            · exact ⟨same, .inr (by simpa [inserted] using rejected)⟩
    · exact fun state known => absurd known.2 same

theorem foldlM_insert {Row Rest : Type} {insert : Database → Row → Option Database}
    {table : Database → List Row} {rest : Database → Rest}
    (one : ∀ database row next, insert database row = some next →
      table next = table database ++ [row] ∧ rest next = rest database)
    (rows : List Row) {working database : Database} (inserted : rows.foldlM insert working = some database) :
    table database = table working ++ rows ∧ rest database = rest working := by
  induction rows generalizing working with
  | nil =>
    cases inserted
    simp
  | cons row rows ih =>
    rw [List.foldlM_cons, Option.bind_eq_bind, Option.bind_eq_some_iff] at inserted
    obtain ⟨next, first, later⟩ := inserted
    obtain ⟨added, same⟩ := one working row next first
    obtain ⟨all, kept⟩ := ih later
    exact ⟨by rw [all, added, List.append_assoc, List.singleton_append], kept.trans same⟩

theorem foldlM_insert_some {Row : Type} {insert : Database → Row → Option Database}
    {I : Database → List Row → Prop}
    (one : ∀ database row rows, I database (row :: rows) →
      ∃ next, insert database row = some next ∧ I next rows)
    (rows : List Row) {working : Database} (known : I working rows) :
    rows.foldlM insert working ≠ none := by
  induction rows generalizing working with
  | nil => simp
  | cons row rows ih =>
    obtain ⟨next, inserted, later⟩ := one working row rows known
    simpa [inserted] using ih later

theorem insertTelemetry_eq {database next : Database} {row : TelemetryRecord}
    (inserted : database.insertTelemetry row = some next) : next.telemetry = database.telemetry ++ [row] ∧
      (next.services, next.anomalies, next.incidents) =
        (database.services, database.anomalies, database.incidents) := by
  unfold Database.insertTelemetry at inserted
  split at inserted
  · cases inserted
    exact ⟨rfl, rfl⟩
  · cases inserted

theorem insertAnomaly_eq {database next : Database} {row : AnomalyRecord}
    (inserted : database.insertAnomaly row = some next) : next.anomalies = database.anomalies ++ [row] ∧
      (next.services, next.telemetry, next.incidents) =
        (database.services, database.telemetry, database.incidents) := by
  unfold Database.insertAnomaly at inserted
  split at inserted
  · cases inserted
    exact ⟨rfl, rfl⟩
  · cases inserted

theorem insertIncident_eq {database next : Database} {row : IncidentRecord}
    (inserted : database.insertIncident row = some next) : next.incidents = database.incidents ++ [row] ∧
      (next.services, next.telemetry, next.anomalies) =
        (database.services, database.telemetry, database.anomalies) := by
  unfold Database.insertIncident at inserted
  split at inserted
  · cases inserted
    exact ⟨rfl, rfl⟩
  · cases inserted

theorem insertTelemetry_rows (rows : List TelemetryRecord) {working : Database}
    (ids : NewKeys TelemetryRecord.id working.telemetry rows)
    (services : ∀ row ∈ rows, row.serviceId ∈ working.services.map MonitoredService.id) :
    rows.foldlM Database.insertTelemetry working ≠ none := by
  refine foldlM_insert_some (I := fun database rows =>
    NewKeys TelemetryRecord.id database.telemetry rows ∧
      ∀ row ∈ rows, row.serviceId ∈ database.services.map MonitoredService.id) ?_ rows ⟨ids, services⟩
  rintro database row rows ⟨ids, services⟩
  rw [List.forall_mem_cons] at services
  unfold Database.insertTelemetry
  rw [dif_pos ⟨ids.head, services.1⟩]
  exact ⟨_, rfl, ids.tail, services.2⟩

theorem insertAnomaly_rows (rows : List AnomalyRecord) {working : Database}
    (ids : NewKeys AnomalyRecord.id working.anomalies rows)
    (telemetry : ∀ row ∈ rows, row.telemetryId ∈ working.telemetry.map TelemetryRecord.id) :
    rows.foldlM Database.insertAnomaly working ≠ none := by
  refine foldlM_insert_some (I := fun database rows =>
    NewKeys AnomalyRecord.id database.anomalies rows ∧
      ∀ row ∈ rows, row.telemetryId ∈ database.telemetry.map TelemetryRecord.id) ?_ rows ⟨ids, telemetry⟩
  rintro database row rows ⟨ids, telemetry⟩
  rw [List.forall_mem_cons] at telemetry
  unfold Database.insertAnomaly
  rw [dif_pos ⟨ids.head, telemetry.1⟩]
  exact ⟨_, rfl, ids.tail, telemetry.2⟩

theorem insertIncident_rows (rows : List IncidentRecord) {working : Database}
    (ids : NewKeys IncidentRecord.id working.incidents rows)
    (triggers : NewKeys IncidentRecord.triggerAnomalyId working.incidents rows)
    (services : ∀ row ∈ rows, row.serviceId ∈ working.services.map MonitoredService.id)
    (anomalies : ∀ row ∈ rows, row.triggerAnomalyId ∈ working.anomalies.map AnomalyRecord.id) :
    rows.foldlM Database.insertIncident working ≠ none := by
  refine foldlM_insert_some (I := fun database rows =>
    NewKeys IncidentRecord.id database.incidents rows ∧
      NewKeys IncidentRecord.triggerAnomalyId database.incidents rows ∧
      (∀ row ∈ rows, row.serviceId ∈ database.services.map MonitoredService.id) ∧
      ∀ row ∈ rows, row.triggerAnomalyId ∈ database.anomalies.map AnomalyRecord.id) ?_ rows
    ⟨ids, triggers, services, anomalies⟩
  rintro database row rows ⟨ids, triggers, services, anomalies⟩
  rw [List.forall_mem_cons] at services anomalies
  unfold Database.insertIncident
  rw [dif_pos ⟨ids.head, triggers.head, services.1, anomalies.1⟩]
  exact ⟨_, rfl, ids.tail, triggers.tail, services.2, anomalies.2⟩

/-- The findings of a batch, each with the record of its item. -/
def origins (items : List TelemetryItem) (records : List TelemetryRecord) :
    List (AnomalyFinding × TelemetryRecord) :=
  (items.zip records).flatMap fun pair => (evaluate pair.1).map fun finding => (finding, pair.2)

def critical (anomalies : List AnomalyRecord) (origins : List (AnomalyFinding × TelemetryRecord)) :
    List (AnomalyRecord × AnomalyFinding × TelemetryRecord) :=
  (anomalies.zip origins).filter fun entry => entry.1.severity = .critical

/-- The rows added for the items: a telemetry record for each item, with the service that the item
names; an anomaly for each finding, linked to the record of its item; and an open incident for each
critical anomaly, with the service of that record. The response lists these rows. -/
structure Ingested (before after : Database) (items : List TelemetryItem) (receivedAt : Time)
    (response : TelemetryIngestResponse) (records : List TelemetryRecord)
    (anomalies : List AnomalyRecord) (incidents : List IncidentRecord) : Prop where
  services : after.services = before.services
  addedTelemetry : after.telemetry = before.telemetry ++ records
  addedAnomalies : after.anomalies = before.anomalies ++ anomalies
  addedIncidents : after.incidents = before.incidents ++ incidents
  telemetry : List.Forall₂ (fun item record => Resolved before (item, record.serviceId) ∧
    record = .ofItem record.id receivedAt (item, record.serviceId)) items records
  detected : List.Forall₂ (fun origin anomaly =>
    anomaly = .ofFinding anomaly.id receivedAt origin.1 origin.2.id) (origins items records) anomalies
  raised : List.Forall₂ (fun entry incident =>
    incident = .ofAnomaly incident.id receivedAt entry.1 entry.2.2.serviceId)
    (critical anomalies (origins items records)) incidents
  response : response = {
    acceptedCount := records.length
    telemetryIds := records.map TelemetryRecord.id
    receivedAt := receivedAt
    detectedAnomalyCount := anomalies.length
    anomalyIds := anomalies.map AnomalyRecord.id
    createdIncidentCount := incidents.length
    incidentIds := incidents.map IncidentRecord.id }

theorem create_ensures {Row : Type} {insert : Database → Row → Option Database} {fails : ℕ → Bool}
    (rows : List Row) (working : Database) :
    Ensures (fun state => state = ⟨before, working⟩)
      (do flush insert fails 0 rows; return rows : Transaction (List Row))
      (fun created state => ∃ database, created = rows ∧ rows.foldlM insert working = some database ∧
        state = ⟨before, database⟩)
      (fun _ state => state.committed = before ∧
        ((∃ i ≤ rows.length, fails i = true) ∨ rows.foldlM insert working = none)) := by
  have flushed := @flush_ensures before Row insert fails rows 0 working
  rw [Nat.zero_add] at flushed
  refine Ensures.bind _ flushed fun _ => Ensures.pure ?_
  rintro state ⟨database, inserted, same⟩
  exact ⟨database, rfl, inserted, same⟩

theorem serviceIdByTelemetryId_of_mem {records : List TelemetryRecord} {record : TelemetryRecord}
    (distinct : (records.map TelemetryRecord.id).Nodup) (member : record ∈ records) (state : Session) :
    runOn (serviceIdByTelemetryId records record.id) state = (.ok record.serviceId, state) := by
  have reversed : (records.reverse.map TelemetryRecord.id).Nodup := by
    rw [List.map_reverse]
    exact List.nodup_reverse.mpr distinct
  rw [serviceIdByTelemetryId, find?_key reversed (List.mem_reverse.mpr member)]
  rfl

theorem Resolved.mem {database : Database} {entry : TelemetryItem × Uuid}
    (resolved : Resolved database entry) : entry.2 ∈ database.services.map MonitoredService.id := by
  obtain ⟨service, found, same⟩ := resolved
  exact List.mem_map.mpr ⟨service, List.mem_of_find?_eq_some found, same⟩

theorem mem_origins {records : List TelemetryRecord} {origin : AnomalyFinding × TelemetryRecord}
    (member : origin ∈ origins items records) : origin.2 ∈ records := by
  obtain ⟨pair, inside, made⟩ := List.mem_flatMap.mp member
  obtain ⟨finding, -, rfl⟩ := List.mem_map.mp made
  exact (List.of_mem_zip inside).2

theorem zipStrict_runOn {α β : Type} {xs : List α} {ys : List β} (same : xs.length = ys.length)
    (state : Session) : runOn (zipStrict xs ys) state = (.ok (xs.zip ys), state) := by
  rw [zipStrict, if_pos same, runOn_pure]

theorem origins_ids (items : List TelemetryItem) (records : List TelemetryRecord) :
    (items.zip records).flatMap (fun pair => (evaluate pair.1).map fun finding => (finding, pair.2.id)) =
      (origins items records).map fun origin => (origin.1, origin.2.id) := by
  simp only [origins, List.map_flatMap, List.map_map]
  rfl

theorem critical_entries {anomalies : List AnomalyRecord}
    {found : List (AnomalyFinding × TelemetryRecord)}
    (detected : List.Forall₂ (fun origin anomaly =>
      anomaly = AnomalyRecord.ofFinding anomaly.id receivedAt origin.1 origin.2.id) found anomalies) :
    ((anomalies.zip (found.map fun origin => (origin.1, origin.2.id))).filter
        fun entry => entry.2.1.severity = .critical) =
      (critical anomalies found).map fun entry => (entry.1, entry.2.1, entry.2.2.id) := by
  unfold critical
  induction detected with
  | nil => rfl
  | @cons origin anomaly found anomalies first _ ih =>
    have severity : anomaly.severity = origin.1.severity := by
      rw [first]
      rfl
    simp only [List.map_cons, List.zip_cons_cons, List.filter_cons, severity]
    split
    · rw [ih, List.map_cons]
    · exact ih

theorem origins_findings {records : List TelemetryRecord} (lengths : items.length = records.length) :
    (origins items records).map Prod.fst = findings items := by
  have firsts : (items.zip records).map Prod.fst = items := List.map_fst_zip lengths.le
  calc (origins items records).map Prod.fst = (items.zip records).flatMap fun pair => evaluate pair.1 := by
        simp [origins, List.map_flatMap, List.map_map, Function.comp_def]
    _ = ((items.zip records).map Prod.fst).flatMap evaluate := by
        rw [List.flatMap_map]
    _ = findings items := by
        rw [firsts, findings]

theorem critical_length {anomalies : List AnomalyRecord} {records : List TelemetryRecord}
    (lengths : items.length = records.length)
    (detected : List.Forall₂ (fun origin anomaly =>
      anomaly = AnomalyRecord.ofFinding anomaly.id receivedAt origin.1 origin.2.id) (origins items records) anomalies) :
    (critical anomalies (origins items records)).length = (criticalFindings items).length := by
  have kept := congrArg List.length (critical_entries detected)
  rw [List.length_map] at kept
  rw [← kept, criticalFindings, ← origins_findings lengths, List.filter_map, List.length_map,
    ← List.countP_eq_length_filter, ← List.countP_eq_length_filter]
  have seconds : (anomalies.zip ((origins items records).map fun origin => (origin.1, origin.2.id))).map Prod.snd =
      (origins items records).map fun origin => (origin.1, origin.2.id) :=
    List.map_snd_zip (by rw [List.length_map, detected.length_eq])
  have counted := congrArg (List.countP fun entry : AnomalyFinding × Uuid => entry.1.severity = .critical) seconds
  rw [List.countP_map, List.countP_map] at counted
  exact counted

theorem storeTelemetry_ensures {resolved : List (TelemetryItem × Uuid)}
    (firsts : resolved.map Prod.fst = items) (known : ∀ entry ∈ resolved, Resolved before entry) :
    Ensures (fun state => state = ⟨before, before⟩) (createTelemetry failing draw receivedAt resolved)
      (fun records state =>
        List.Forall₂ (fun item record => Resolved before (item, record.serviceId) ∧
          record = .ofItem record.id receivedAt (item, record.serviceId)) items records ∧
        ∃ database, records.foldlM Database.insertTelemetry before = some database ∧ state = ⟨before, database⟩)
      (fun _ state => state.committed = before ∧ (Disturbed failing items ∨ ¬draw.Fresh before items)) := by
  have length : resolved.length = items.length := by rw [← firsts, List.length_map]
  refine (create_ensures _ before).mono (fun _ same => same) ?_ ?_
  · rintro records state ⟨database, rfl, inserted, same⟩
    refine ⟨?_, database, inserted, same⟩
    rw [← firsts, List.forall₂_map_left_iff]
    have each := @forall₂_mapIdx _ _ _ (fun (entry : TelemetryItem × Uuid) record =>
      Resolved before (entry.1, record.serviceId) ∧
        record = TelemetryRecord.ofItem record.id receivedAt (entry.1, record.serviceId))
      (fun i entry => TelemetryRecord.ofItem (draw.telemetryId i) receivedAt entry) id resolved
      fun i entry member => ⟨known entry member, rfl⟩
    rwa [List.map_id] at each
  · rintro error state ⟨same, ⟨i, bound, failed⟩ | rejected⟩
    · rw [List.length_mapIdx, length] at bound
      exact ⟨same, .inl ⟨.telemetry i, bound, failed⟩⟩
    · refine ⟨same, .inr fun drawn => absurd rejected (insertTelemetry_rows _ ?_ ?_)⟩
      · exact newKeys_drawn _ (fun _ _ => rfl) (by rw [length]; exact drawn.telemetry)
      · intro row member
        obtain ⟨i, bound, rfl⟩ := List.mem_mapIdx.mp member
        exact (known _ (List.getElem_mem _)).mem

theorem storeAnomalies_ensures {working : Database} {records : List TelemetryRecord}
    (untouched : working.anomalies = before.anomalies) (lengths : items.length = records.length)
    (stored : ∀ record ∈ records, record.id ∈ working.telemetry.map TelemetryRecord.id) :
    Ensures (fun state => state = ⟨before, working⟩)
      (createAnomalies failing draw receivedAt
        ((origins items records).map fun origin => (origin.1, origin.2.id)))
      (fun anomalies state => List.Forall₂ (fun origin anomaly =>
          anomaly = .ofFinding anomaly.id receivedAt origin.1 origin.2.id) (origins items records) anomalies ∧
        ∃ database, anomalies.foldlM Database.insertAnomaly working = some database ∧ state = ⟨before, database⟩)
      (fun _ state => state.committed = before ∧ (Disturbed failing items ∨ ¬draw.Fresh before items)) := by
  have length : (origins items records).length = (findings items).length := by
    rw [← origins_findings lengths, List.length_map]
  refine (create_ensures _ working).mono (fun _ same => same) ?_ ?_
  · rintro anomalies state ⟨database, rfl, inserted, same⟩
    exact ⟨forall₂_mapIdx _ fun i origin _ => rfl, database, inserted, same⟩
  · rintro error state ⟨same, ⟨i, bound, failed⟩ | rejected⟩
    · rw [List.length_mapIdx, List.length_map, length] at bound
      exact ⟨same, .inl ⟨.anomaly i, bound, failed⟩⟩
    · refine ⟨same, .inr fun drawn => absurd rejected (insertAnomaly_rows _ ?_ ?_)⟩
      · exact newKeys_drawn _ (fun _ _ => rfl) (by rw [List.length_map, length, untouched]; exact drawn.anomalies)
      · intro row member
        obtain ⟨i, bound, rfl⟩ := List.mem_mapIdx.mp member
        rw [List.getElem_map]
        exact stored _ (mem_origins (List.getElem_mem _))

theorem newTriggers {anomalies : List AnomalyRecord} {found : List (AnomalyFinding × TelemetryRecord)}
    (lengths : anomalies.length = found.length)
    (fresh : (anomalies.map AnomalyRecord.id).Nodup ∧
      ∀ anomaly ∈ anomalies, anomaly.id ∉ before.anomalies.map AnomalyRecord.id) :
    (before.incidents.map IncidentRecord.triggerAnomalyId ++
      (critical anomalies found).map fun entry => entry.1.id).Nodup := by
  have firsts : (anomalies.zip found).map (fun entry => entry.1.id) = anomalies.map AnomalyRecord.id := by
    have zipped : (anomalies.zip found).map Prod.fst = anomalies := List.map_fst_zip lengths.le
    calc (anomalies.zip found).map (fun entry => entry.1.id)
        = ((anomalies.zip found).map Prod.fst).map AnomalyRecord.id := by
          rw [List.map_map]
          rfl
      _ = anomalies.map AnomalyRecord.id := by
          rw [zipped]
  refine before.incidentTriggers.append ?_ fun trigger old new => ?_
  · exact (firsts ▸ fresh.1).sublist (List.filter_sublist.map _)
  · obtain ⟨entry, member, rfl⟩ := List.mem_map.mp new
    obtain ⟨incident, present, same⟩ := List.mem_map.mp old
    have known := before.incidentAnomalies incident present
    rw [same] at known
    exact fresh.2 entry.1 (List.of_mem_zip (List.mem_filter.mp member).1).1 known

theorem storeIncidents_ensures {working : Database} {records : List TelemetryRecord}
    {anomalies : List AnomalyRecord} {found : List (AnomalyFinding × TelemetryRecord)}
    (untouched : working.incidents = before.incidents) (lengths : anomalies.length = found.length)
    (count : (critical anomalies found).length = (criticalFindings items).length)
    (ids : (records.map TelemetryRecord.id).Nodup) (inside : ∀ origin ∈ found, origin.2 ∈ records)
    (services : ∀ record ∈ records, record.serviceId ∈ working.services.map MonitoredService.id)
    (stored : ∀ anomaly ∈ anomalies, anomaly.id ∈ working.anomalies.map AnomalyRecord.id)
    (fresh : (anomalies.map AnomalyRecord.id).Nodup ∧
      ∀ anomaly ∈ anomalies, anomaly.id ∉ before.anomalies.map AnomalyRecord.id) :
    Ensures (fun state => state = ⟨before, working⟩)
      (do
        let criticalAnomalies ←
          ((critical anomalies found).map fun entry => (entry.1, entry.2.1, entry.2.2.id)).mapM
            fun entry => do return (entry.1, ← serviceIdByTelemetryId records entry.2.2)
        createIncidents failing draw receivedAt criticalAnomalies)
      (fun incidents state => List.Forall₂ (fun entry incident =>
          incident = .ofAnomaly incident.id receivedAt entry.1 entry.2.2.serviceId)
          (critical anomalies found) incidents ∧
        ∃ database, incidents.foldlM Database.insertIncident working = some database ∧
          state = ⟨before, database⟩)
      (fun _ state => state.committed = before ∧ (Disturbed failing items ∨ ¬draw.Fresh before items)) := by
  have members : ∀ entry ∈ critical anomalies found, entry.1 ∈ anomalies ∧ entry.2.2 ∈ records := by
    intro entry member
    have pair := List.of_mem_zip (List.mem_filter.mp member).1
    exact ⟨pair.1, inside _ pair.2⟩
  have computes : runOn (((critical anomalies found).map fun entry =>
        (entry.1, entry.2.1, entry.2.2.id)).mapM fun entry =>
        (do return (entry.1, ← serviceIdByTelemetryId records entry.2.2) : Transaction (AnomalyRecord × Uuid)))
      ⟨before, working⟩ = (.ok ((critical anomalies found).map fun entry =>
        (entry.1, entry.2.2.serviceId)), ⟨before, working⟩) := by
    rw [List.mapM_map, runOn_mapM fun entry member => ?_]
    exact runOn_bind_ok (serviceIdByTelemetryId_of_mem ids (members entry member).2 _) _
  refine Ensures.bind (fun entries state => entries = (critical anomalies found).map (fun entry =>
    (entry.1, entry.2.2.serviceId)) ∧ state = ⟨before, working⟩)
    (Ensures.of_runOn computes ⟨rfl, rfl⟩) fun entries => Ensures.pointwise ?_
  rintro state ⟨rfl, rfl⟩
  refine (create_ensures _ working).mono (fun _ same => same) ?_ ?_
  · rintro incidents state ⟨database, rfl, inserted, same⟩
    refine ⟨?_, database, inserted, same⟩
    exact forall₂_mapIdx _ fun i entry _ => rfl
  · rintro error state ⟨same, ⟨i, bound, failed⟩ | rejected⟩
    · rw [List.length_mapIdx, List.length_map, count] at bound
      exact ⟨same, .inl ⟨.incident i, bound, failed⟩⟩
    · refine ⟨same, .inr fun drawn => ?_⟩
      refine absurd rejected (insertIncident_rows _ ?_ ?_ ?_ ?_)
      · exact newKeys_drawn _ (fun _ _ => rfl) (by rw [List.length_map, count, untouched]; exact drawn.incidents)
      · rw [NewKeys, List.map_append, @map_mapIdx _ _ _ _ IncidentRecord.triggerAnomalyId
          (fun entry => entry.1.id) _ fun _ _ => rfl, List.map_map, untouched]
        exact newTriggers lengths fresh
      · intro row member
        obtain ⟨i, bound, rfl⟩ := List.mem_mapIdx.mp member
        rw [List.getElem_map]
        exact services _ (members _ (List.getElem_mem _)).2
      · intro row member
        obtain ⟨i, bound, rfl⟩ := List.mem_mapIdx.mp member
        rw [List.getElem_map]
        exact stored _ (members _ (List.getElem_mem _)).1

theorem commit_ensures {α : Type} {response : α} {working : Database} :
    Ensures (fun state => state = ⟨before, working⟩) (do Transaction.commit failing; return response)
      (fun value state => value = response ∧ state = ⟨working, working⟩)
      (fun _ state => state.committed = before ∧ Disturbed failing items) := by
  refine Ensures.bind (fun _ state => state = ⟨working, working⟩) ?_ fun _ =>
    Ensures.pure fun _ same => ⟨rfl, same⟩
  unfold Transaction.commit
  refine Ensures.bind _ (call_ensures fun failed _ => ⟨rfl, .commit, trivial, failed⟩) fun _ => Ensures.modify ?_
  rintro state rfl
  rfl

theorem newRows {Row : Type} {key : Row → Uuid} {table rows whole : List Row} (added : whole = table ++ rows)
    (distinct : (whole.map key).Nodup) : (rows.map key).Nodup ∧ ∀ row ∈ rows, key row ∉ table.map key := by
  rw [added, List.map_append, List.nodup_append] at distinct
  exact ⟨distinct.2.1, fun row member old => distinct.2.2 _ old _ (List.mem_map_of_mem member) rfl⟩

theorem storeItems_ensures {resolved : List (TelemetryItem × Uuid)}
    (firsts : resolved.map Prod.fst = items) (known : ∀ entry ∈ resolved, Resolved before entry) :
    Ensures (fun state => state = ⟨before, before⟩) (storeItems failing draw receivedAt items resolved)
      (fun response state => ∃ after records anomalies incidents, state = ⟨after, after⟩ ∧
        Ingested before after items receivedAt response records anomalies incidents)
      (fun _ state => state.committed = before ∧ (Disturbed failing items ∨ ¬draw.Fresh before items)) := by
  unfold storeItems
  refine Ensures.bind _ (storeTelemetry_ensures firsts known) fun records => Ensures.pointwise ?_
  rintro state ⟨telemetry, first, inserted, rfl⟩
  have lengths := telemetry.length_eq
  obtain ⟨addedTelemetry, others⟩ := foldlM_insert (fun _ _ _ => insertTelemetry_eq) _ inserted
  rw [Prod.mk.injEq, Prod.mk.injEq] at others
  refine Ensures.bind (fun pairs state => pairs = items.zip records ∧ state = ⟨before, first⟩)
    (Ensures.of_runOn (zipStrict_runOn lengths _) ⟨rfl, rfl⟩) fun pairs => Ensures.pointwise ?_
  rintro state ⟨rfl, rfl⟩
  simp only [origins_ids]
  refine Ensures.bind _ (storeAnomalies_ensures others.2.1 lengths fun record member => ?_) fun anomalies =>
    Ensures.pointwise ?_
  · rw [addedTelemetry, List.map_append]
    exact List.mem_append_right _ (List.mem_map_of_mem member)
  rintro state ⟨detected, second, inserted', rfl⟩
  obtain ⟨addedAnomalies, others'⟩ := foldlM_insert (fun _ _ _ => insertAnomaly_eq) _ inserted'
  rw [Prod.mk.injEq, Prod.mk.injEq] at others'
  have found : anomalies.length = (origins items records).length := detected.length_eq.symm
  refine Ensures.bind (fun pairs state =>
    pairs = anomalies.zip ((origins items records).map fun origin => (origin.1, origin.2.id)) ∧
      state = ⟨before, second⟩)
    (Ensures.of_runOn (zipStrict_runOn (by rw [List.length_map, found]) _) ⟨rfl, rfl⟩) fun pairs =>
    Ensures.pointwise ?_
  rintro state ⟨rfl, rfl⟩
  rw [critical_entries detected, ← bind_assoc]
  refine Ensures.bind _ (storeIncidents_ensures (others'.2.2.trans others.2.2) found
    (critical_length lengths detected) (newRows addedTelemetry first.telemetryIds).1 (fun origin => mem_origins)
    ?_ ?_ (newRows (addedAnomalies.trans (by rw [others.2.1])) second.anomalyIds)) fun incidents =>
    Ensures.pointwise ?_
  · intro record member
    rw [others'.1]
    exact first.telemetryServices record (by simp [addedTelemetry, member])
  · intro anomaly member
    rw [addedAnomalies, List.map_append]
    exact List.mem_append_right _ (List.mem_map_of_mem member)
  rintro state ⟨raised, third, inserted'', rfl⟩
  obtain ⟨addedIncidents, others''⟩ := foldlM_insert (fun _ _ _ => insertIncident_eq) _ inserted''
  rw [Prod.mk.injEq, Prod.mk.injEq] at others''
  refine commit_ensures.mono (fun _ same => same) ?_ fun _ _ ends => ⟨ends.1, .inl ends.2⟩
  rintro response state ⟨rfl, rfl⟩
  refine ⟨third, records, anomalies, incidents, rfl, ?_⟩
  exact {
    services := (others''.1.trans others'.1).trans others.1
    addedTelemetry := by rw [others''.2.1, others'.2.1, addedTelemetry]
    addedAnomalies := by rw [others''.2.2, addedAnomalies, others.2.1]
    addedIncidents := by rw [addedIncidents, others'.2.2, others.2.2]
    telemetry := telemetry
    detected := detected
    raised := raised
    response := rfl }

theorem ingest_ensures (batch : TelemetryBatch) :
    Ensures (fun state => state = ⟨before, before⟩) (ingest failing draw receivedAt batch)
      (fun response state => ∃ after records anomalies incidents, state = ⟨after, after⟩ ∧
        Ingested before after batch.items receivedAt response records anomalies incidents)
      (fun _ state => state = ⟨before, before⟩ ∧ Excused failing draw before batch.items) := by
  refine Ensures.bind _ ((resolveItems_ensures batch.items 0 [] (by simp)).mono (fun _ same => same)
    (fun _ _ ends => ends) ?_) fun resolved => Ensures.pointwise ?_
  · rintro error state ⟨same, ⟨i, bound, failed⟩ | unregistered⟩
    · exact ⟨same, .inl ⟨.lookup i, by rwa [Nat.zero_add] at bound, failed⟩⟩
    · exact ⟨same, .inr (.inl unregistered)⟩
  rintro state ⟨rfl, firsts, known⟩
  refine Ensures.tryCatch _ (storeItems_ensures firsts known) fun error => Ensures.pointwise ?_
  rintro ⟨committed, working⟩ ⟨rfl, why⟩
  refine Ensures.bind (fun _ state => state = ⟨committed, committed⟩) (Ensures.modify ?_) fun _ =>
    Ensures.throw fun state same => ⟨same, ?_⟩
  · rintro state rfl
    rfl
  · rcases why with failed | drawn
    · exact .inl failed
    · exact .inr (.inr drawn)

def TelemetryRecord.content (record : TelemetryRecord) : TelemetryRecord :=
  { record with id := 0, receivedAt := 0 }

def AnomalyRecord.content (record : AnomalyRecord) : AnomalyRecord :=
  { record with id := 0, telemetryId := 0, detectedAt := 0 }

def IncidentRecord.content (record : IncidentRecord) : IncidentRecord :=
  { record with id := 0, triggerAnomalyId := 0, createdAt := 0 }

/-- A record with its anomalies and their incidents, all without their identifiers and times. -/
abbrev Links := TelemetryRecord × List (AnomalyRecord × List IncidentRecord)

namespace Database

def anomalyLinks (database : Database) (anomaly : AnomalyRecord) : AnomalyRecord × List IncidentRecord :=
  (anomaly.content, (database.incidents.filter fun incident =>
    incident.triggerAnomalyId = anomaly.id).map IncidentRecord.content)

def recordLinks (database : Database) (record : TelemetryRecord) : Links :=
  (record.content, (database.anomalies.filter fun anomaly =>
    anomaly.telemetryId = record.id).map database.anomalyLinks)

def links (database : Database) : List Links := database.telemetry.map database.recordLinks

end Database

/-- The incident of a finding of an item of the service, if it has one. -/
def findingLinks (serviceId : Uuid) (finding : AnomalyFinding) : AnomalyRecord × List IncidentRecord :=
  (.ofFinding 0 0 finding 0, if finding.severity = .critical then
    [.ofAnomaly 0 0 (.ofFinding 0 0 finding 0) serviceId] else [])

def itemLinks (database : Database) (item : TelemetryItem) : Links :=
  let serviceId := ((database.service item.identity).map MonitoredService.id).getD 0
  (.ofItem 0 0 (item, serviceId), (evaluate item).map (findingLinks serviceId))

namespace Ingested

variable {response : TelemetryIngestResponse} {records : List TelemetryRecord}
  {anomalies : List AnomalyRecord} {incidents : List IncidentRecord}

theorem recordIds (ingested : Ingested before after items receivedAt response records anomalies incidents) :
    (records.map TelemetryRecord.id).Nodup ∧
      ∀ record ∈ records, record.id ∉ before.telemetry.map TelemetryRecord.id :=
  newRows ingested.addedTelemetry after.telemetryIds

theorem anomalyIds (ingested : Ingested before after items receivedAt response records anomalies incidents) :
    (anomalies.map AnomalyRecord.id).Nodup ∧
      ∀ anomaly ∈ anomalies, anomaly.id ∉ before.anomalies.map AnomalyRecord.id :=
  newRows ingested.addedAnomalies after.anomalyIds

theorem anomaly_record (ingested : Ingested before after items receivedAt response records anomalies incidents)
    {anomaly : AnomalyRecord} (member : anomaly ∈ anomalies) :
    ∃ record ∈ records, anomaly.telemetryId = record.id := by
  obtain ⟨i, bound, rfl⟩ := List.getElem_of_mem member
  have length := ingested.detected.length_eq
  have made := ingested.detected.get (by omega) bound
  refine ⟨_, mem_origins (List.getElem_mem (by omega : i < (origins items records).length)), ?_⟩
  simp only [List.get_eq_getElem] at made
  rw [made]
  rfl

theorem incident_anomaly
    (ingested : Ingested before after items receivedAt response records anomalies incidents)
    {incident : IncidentRecord} (member : incident ∈ incidents) :
    ∃ anomaly ∈ anomalies, incident.triggerAnomalyId = anomaly.id := by
  obtain ⟨i, bound, rfl⟩ := List.getElem_of_mem member
  have length := ingested.raised.length_eq
  have made := ingested.raised.get (by omega) bound
  have entry := List.getElem_mem (by omega : i < (critical anomalies (origins items records)).length)
  refine ⟨_, (List.of_mem_zip (List.mem_filter.mp entry).1).1, ?_⟩
  simp only [List.get_eq_getElem] at made
  rw [made]
  rfl

theorem old_links (ingested : Ingested before after items receivedAt response records anomalies incidents)
    {record : TelemetryRecord} (member : record ∈ before.telemetry) :
    after.recordLinks record = before.recordLinks record := by
  have others : anomalies.filter (fun anomaly => anomaly.telemetryId = record.id) = [] := by
    refine List.filter_eq_nil_iff.mpr fun anomaly inside linked => ?_
    obtain ⟨new, present, same⟩ := ingested.anomaly_record inside
    have old := List.mem_map_of_mem (f := TelemetryRecord.id) member
    rw [← of_decide_eq_true linked, same] at old
    exact ingested.recordIds.2 new present old
  rw [Database.recordLinks, ingested.addedAnomalies, List.filter_append, others, List.append_nil]
  refine congrArg (Prod.mk _) (List.map_congr_left fun anomaly inside => ?_)
  have untouched : incidents.filter (fun incident => incident.triggerAnomalyId = anomaly.id) = [] := by
    refine List.filter_eq_nil_iff.mpr fun incident there linked => ?_
    obtain ⟨new, present, same⟩ := ingested.incident_anomaly there
    have old := List.mem_map_of_mem (f := AnomalyRecord.id) (List.mem_filter.mp inside).1
    rw [← of_decide_eq_true linked, same] at old
    exact ingested.anomalyIds.2 new present old
  rw [Database.anomalyLinks, ingested.addedIncidents, List.filter_append, untouched, List.append_nil]
  rfl

theorem new_anomalyLinks
    (ingested : Ingested before after items receivedAt response records anomalies incidents)
    {origin : AnomalyFinding × TelemetryRecord} {anomaly : AnomalyRecord}
    (made : anomaly = .ofFinding anomaly.id receivedAt origin.1 origin.2.id)
    (pair : (anomaly, origin) ∈ anomalies.zip (origins items records)) :
    after.anomalyLinks anomaly = findingLinks origin.2.serviceId origin.1 := by
  have member := (List.of_mem_zip pair).1
  have old : before.incidents.filter (fun incident => incident.triggerAnomalyId = anomaly.id) = [] := by
    refine List.filter_eq_nil_iff.mpr fun incident there linked => ?_
    have known := before.incidentAnomalies incident there
    rw [of_decide_eq_true linked] at known
    exact ingested.anomalyIds.2 anomaly member known
  have lengths := ingested.detected.length_eq
  have distinct : ((anomalies.zip (origins items records)).map fun entry => entry.1.id).Nodup := by
    rw [map_zip_fst lengths.ge]
    exact ingested.anomalyIds.1
  have chosen : (critical anomalies (origins items records)).filter
      (fun entry => entry.1.id = anomaly.id) =
        if anomaly.severity = .critical then [(anomaly, origin)] else [] := by
    rw [critical, List.filter_comm, filter_key distinct pair, List.filter_singleton]
    simp
  have linked : List.Forall₂ (fun entry incident =>
        incident = IncidentRecord.ofAnomaly incident.id receivedAt entry.1 entry.2.2.serviceId)
      (if anomaly.severity = .critical then [(anomaly, origin)] else [])
      (incidents.filter fun incident => incident.triggerAnomalyId = anomaly.id) := by
    rw [← chosen]
    refine List.rel_filter ?_ ingested.raised
    intro entry incident made
    have same : incident.triggerAnomalyId = entry.1.id := by
      rw [made]
      rfl
    simp only [same]
  have severity : anomaly.severity = origin.1.severity := by
    rw [made]
    rfl
  have content : anomaly.content = .ofFinding 0 0 origin.1 0 := by
    rw [made]
    rfl
  rw [Database.anomalyLinks, ingested.addedIncidents, List.filter_append, old, List.nil_append,
    findingLinks, content, ← severity]
  congr 1
  split at linked
  · next is_critical =>
    rw [if_pos is_critical]
    generalize incidents.filter _ = found at linked
    cases linked with
    | cons first rest =>
      cases rest
      rw [List.map_singleton, first]
      rw [made]
      rfl
  · next warning =>
    rw [if_neg warning]
    generalize incidents.filter _ = found at linked
    cases linked
    rfl

theorem new_links (ingested : Ingested before after items receivedAt response records anomalies incidents)
    {item : TelemetryItem} {record : TelemetryRecord} (pair : (item, record) ∈ items.zip records) :
    after.recordLinks record = itemLinks before item := by
  obtain ⟨⟨service, found, same⟩, made⟩ := List.forall₂_zip ingested.telemetry pair
  have member := (List.of_mem_zip pair).2
  have old : before.anomalies.filter (fun anomaly => anomaly.telemetryId = record.id) = [] := by
    refine List.filter_eq_nil_iff.mpr fun anomaly there linked => ?_
    have known := before.anomalyTelemetry anomaly there
    rw [of_decide_eq_true linked] at known
    exact ingested.recordIds.2 record member known
  have block : (origins items records).filter (fun origin => origin.2.id = record.id) =
      (evaluate item).map fun finding => (finding, record) := by
    have distinct : ((items.zip records).map fun pair => pair.2.id).Nodup := by
      rw [map_zip_snd ingested.telemetry.length_eq.ge]
      exact ingested.recordIds.1
    exact @filter_flatMap_key _ _ _ _ _ (fun origin : AnomalyFinding × TelemetryRecord => origin.2.id) _ _ _
      distinct (by simp) pair
  have linked : List.Forall₂ (fun origin anomaly =>
        anomaly = AnomalyRecord.ofFinding anomaly.id receivedAt origin.1 origin.2.id ∧
          (anomaly, origin) ∈ anomalies.zip (origins items records))
      ((evaluate item).map fun finding => (finding, record))
      (anomalies.filter fun anomaly => anomaly.telemetryId = record.id) := by
    rw [← block]
    refine List.rel_filter ?_ (forall₂_mem_zip ingested.detected)
    rintro origin anomaly ⟨made, -⟩
    have same : anomaly.telemetryId = origin.2.id := by
      rw [made]
      rfl
    simp only [same]
  have serviceId : ((before.service item.identity).map MonitoredService.id).getD 0 = record.serviceId := by
    rw [found]
    exact same
  rw [Database.recordLinks, ingested.addedAnomalies, List.filter_append, old, List.nil_append, itemLinks,
    serviceId]
  refine Prod.ext (by rw [made]; rfl) ?_
  have mapped := map_eq_of_forall₂ (f := fun origin => findingLinks origin.2.serviceId origin.1)
    (g := after.anomalyLinks) linked fun origin anomaly known =>
      (ingested.new_anomalyLinks known.1 known.2).symm
  rw [List.map_map] at mapped
  exact mapped.symm

theorem links (ingested : Ingested before after items receivedAt response records anomalies incidents) :
    after.links = before.links ++ items.map (itemLinks before) := by
  rw [Database.links, ingested.addedTelemetry, List.map_append]
  congr 1
  · exact List.map_congr_left fun record member => ingested.old_links member
  · refine (map_eq_of_forall₂ (forall₂_mem_zip ingested.telemetry) fun item record known => ?_).symm
    refine (ingested.new_links ?_).symm
    rw [← List.zip_swap]
    exact List.mem_map.mpr ⟨_, known.2, rfl⟩

end Ingested

/-- The items of a list ingested one by one, each in a batch of its own. -/
inductive IngestedSingly : Database → List TelemetryItem → Database → Prop
  | nil (database : Database) : IngestedSingly database [] database
  | cons {before middle after : Database} {item : TelemetryItem} {items : List TelemetryItem}
      {batch : TelemetryBatch} {failing : Call → Bool} {draw : Draw} {receivedAt : Time}
      {response : TelemetryIngestResponse} :
      batch.items = [item] →
      runOn (ingest failing draw receivedAt batch) ⟨before, before⟩ = (.ok response, ⟨middle, middle⟩) →
      IngestedSingly middle items after → IngestedSingly before (item :: items) after

theorem Ingested.of_runOn {batch : TelemetryBatch} {response : TelemetryIngestResponse} {state : Session}
    (returned : runOn (ingest failing draw receivedAt batch) ⟨before, before⟩ = (.ok response, state)) :
    ∃ after records anomalies incidents, state = ⟨after, after⟩ ∧
      Ingested before after batch.items receivedAt response records anomalies incidents := by
  have known := @ingest_ensures failing draw receivedAt before batch ⟨before, before⟩ rfl
  rwa [returned] at known

theorem itemLinks_congr {other : Database} (same : other.services = before.services) :
    itemLinks other = itemLinks before := by
  funext item
  simp only [itemLinks, Database.service, same]

theorem IngestedSingly.links (singly : IngestedSingly before items after) :
    after.links = before.links ++ items.map (itemLinks before) := by
  induction singly with
  | nil => simp
  | cons one returned _ ih =>
    obtain ⟨_, _, _, _, same, ingested⟩ := Ingested.of_runOn returned
    cases same
    rw [ih, ingested.links, one, itemLinks_congr ingested.services, List.append_assoc, ← List.map_append]
    rfl

def checkoutService : MonitoredService := ⟨7, "checkout", .production⟩

def checkoutDatabase : Database := (Database.empty.insertService checkoutService).getD .empty

def checkoutBase (timestamp : Time) : TelemetryBase := ⟨"checkout", .production, "host-1", timestamp, []⟩

def checkoutBatch : TelemetryBatch where
  items := [.metric ⟨checkoutBase 0, "cpu_usage", 95, some "percent"⟩, .event ⟨checkoutBase 1, "deployment", .error, none⟩]
  size := by decide

def countedDraw : Draw := ⟨fun i => .ofNat 128 i, fun i => .ofNat 128 i, fun i => .ofNat 128 i⟩

theorem checkoutBatch_unexcused : ¬Excused (fun _ => false) countedDraw checkoutDatabase checkoutBatch.items := by
  have registered : ∀ item ∈ checkoutBatch.items, checkoutDatabase.service item.identity ≠ none := by decide +kernel
  have fresh : countedDraw.Fresh checkoutDatabase checkoutBatch.items :=
    ⟨by decide +kernel, by decide +kernel, by decide +kernel⟩
  rintro (⟨call, -, failed⟩ | ⟨item, member, unregistered⟩ | drawn)
  · cases failed
  · exact registered item member unregistered
  · exact drawn fresh

end CareerProjects.Observability
