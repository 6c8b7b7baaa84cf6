import CareerProjects.Observability.IncidentLifecycle
import CareerProjects.Observability.Ingestion

/-! What happens on the platform beside analyses and traces: services are registered, telemetry is
ingested and incidents are handled. -/

namespace CareerProjects.Observability
open Library

theorem IncidentRequest.write_kept (request : IncidentRequest) (loaded current : IncidentRecord) :
    (request.write loaded current).id = current.id ∧
      (request.write loaded current).serviceId = current.serviceId ∧
      (request.write loaded current).triggerAnomalyId = current.triggerAnomalyId ∧
      (request.write loaded current).createdAt = current.createdAt := by
  cases request <;> exact ⟨rfl, rfl, rfl, rfl⟩

namespace Database

/-- The committed write of an acknowledgement or a resolution that had loaded the incident. -/
def writtenIncident (request : IncidentRequest) (loaded row : IncidentRecord) : IncidentRecord :=
  if row.id = request.incidentId then request.write loaded row else row

theorem writtenIncident_kept (request : IncidentRequest) (loaded row : IncidentRecord) :
    (writtenIncident request loaded row).id = row.id ∧
      (writtenIncident request loaded row).serviceId = row.serviceId ∧
      (writtenIncident request loaded row).triggerAnomalyId = row.triggerAnomalyId ∧
      (writtenIncident request loaded row).createdAt = row.createdAt := by
  unfold writtenIncident
  split
  · exact request.write_kept loaded row
  · exact ⟨rfl, rfl, rfl, rfl⟩

theorem map_writtenIncident {α : Type} {key : IncidentRecord → α} (request : IncidentRequest)
    (loaded : IncidentRecord) (rows : List IncidentRecord)
    (kept : ∀ row, key (writtenIncident request loaded row) = key row) :
    (rows.map (writtenIncident request loaded)).map key = rows.map key := by
  rw [List.map_map]
  exact List.map_congr_left fun row _ => kept row

def handleIncident (database : Database) (request : IncidentRequest) (loaded : IncidentRecord) : Database :=
  { database with
    incidents := database.incidents.map (writtenIncident request loaded)
    incidentIds := by
      rw [map_writtenIncident request loaded _ fun row => (writtenIncident_kept request loaded row).1]
      exact database.incidentIds
    incidentTriggers := by
      rw [map_writtenIncident request loaded _ fun row => (writtenIncident_kept request loaded row).2.2.1]
      exact database.incidentTriggers
    incidentServices := by
      refine List.forall_mem_map.mpr fun row member => ?_
      rw [(writtenIncident_kept request loaded row).2.1]
      exact database.incidentServices row member
    incidentAnomalies := by
      refine List.forall_mem_map.mpr fun row member => ?_
      rw [(writtenIncident_kept request loaded row).2.2.1]
      exact database.incidentAnomalies row member }

end Database

inductive PlatformEvent
  | register (service : MonitoredService)
  | ingest (failing : Call → Bool) (draw : Draw) (receivedAt : Time) (batch : TelemetryBatch)
  | handle (request : IncidentRequest) (loaded : IncidentRecord)

def happen (database : Database) : PlatformEvent → Option Database
  | .register service => database.insertService service
  | .ingest failing draw receivedAt batch =>
    some (runOn (ingest failing draw receivedAt batch) ⟨database, database⟩).2.committed
  | .handle request loaded => some (database.handleIncident request loaded)

/-- What no event takes back. -/
structure Database.Grows (old new : Database) : Prop where
  services : ∀ row ∈ old.services, row ∈ new.services
  incidents : ∀ row ∈ old.incidents, ∃ row' ∈ new.incidents, row'.id = row.id ∧
    row'.serviceId = row.serviceId ∧ row'.triggerAnomalyId = row.triggerAnomalyId ∧
    row'.createdAt = row.createdAt

variable {database database' : Database} {event : PlatformEvent}

theorem Database.Grows.refl (database : Database) : database.Grows database :=
  ⟨fun _ member => member, fun row member => ⟨row, member, rfl, rfl, rfl, rfl⟩⟩

theorem Database.Grows.trans {last : Database} (first : database.Grows database')
    (second : database'.Grows last) : database.Grows last where
  services row member := second.services row (first.services row member)
  incidents row member := by
    obtain ⟨middle, there, id, serviceId, trigger, createdAt⟩ := first.incidents row member
    obtain ⟨final, present, id', serviceId', trigger', createdAt'⟩ := second.incidents middle there
    exact ⟨final, present, id'.trans id, serviceId'.trans serviceId, trigger'.trans trigger,
      createdAt'.trans createdAt⟩

theorem happen_grows (happened : happen database event = some database') : database.Grows database' := by
  cases event with
  | register service =>
    simp only [happen, Database.insertService] at happened
    split at happened
    · cases happened
      exact ⟨fun _ member => List.mem_append_left _ member,
        fun row member => ⟨row, member, rfl, rfl, rfl, rfl⟩⟩
    · cases happened
  | ingest failing draw receivedAt batch =>
    have ends := @ingest_ensures failing draw receivedAt database batch ⟨database, database⟩ rfl
    simp only [happen, Option.some.injEq] at happened
    generalize runOn (ingest failing draw receivedAt batch) ⟨database, database⟩ = outcome at ends happened
    obtain ⟨error | response, state⟩ := outcome
    · obtain ⟨rfl, -⟩ := ends
      subst happened
      exact .refl database
    · obtain ⟨after, records, anomalies, incidents, rfl, ingested⟩ := ends
      subst happened
      refine ⟨fun row member => ingested.services ▸ member, fun row member => ?_⟩
      exact ⟨row, ingested.addedIncidents ▸ List.mem_append_left _ member, rfl, rfl, rfl, rfl⟩
  | handle request loaded =>
    cases happened
    refine ⟨fun _ member => member, fun row member => ?_⟩
    exact ⟨_, List.mem_map_of_mem member, Database.writtenIncident_kept request loaded row⟩

end CareerProjects.Observability
