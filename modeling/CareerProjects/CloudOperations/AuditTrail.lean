import CareerProjects.CloudOperations.Model

/-! The audit trail. The events about a resource, in the order of their commits, replay from its
first values to those of its row, as long as no request commits over values that moved since it
read them. -/

namespace CareerProjects.CloudOperations
open Library Library.Shared

namespace Operation

def resource : Operation → Resource
  | .createIncident id _ | .updateIncident id _ | .deleteIncident id => .incident id
  | .updateUserRole userId _ | .updateUserStatus userId _ => .user userId

/-- The row that an update compares with the requested values. -/
def loaded (operation : Operation) (actor : User) (reads : List (Option Record)) : Option Record :=
  match operation with
  | .createIncident .. => none
  | .updateIncident .. | .deleteIncident _ => reads.head?.join
  | .updateUserRole userId _ | .updateUserStatus userId _ => (loadedUser actor userId reads).map .user

def requested : Operation → List (AuditField × AuditValue)
  | .updateIncident _ data => data.requestedValues
  | .updateUserRole _ role => [(.role, .text role.value)]
  | .updateUserStatus _ isActive => [(.isActive, .flag isActive)]
  | _ => []

end Operation

variable {operation : Operation} {request : Request} {actor : User} {reads : List (Option Record)}
  {wanted : Write Resource Record}

theorem UserRole.value_injective : Function.Injective UserRole.value := by
  intro role other
  cases role <;> cases other <;> decide

theorem IncidentSeverity.value_injective : Function.Injective IncidentSeverity.value := by
  intro severity other
  cases severity <;> cases other <;> decide

theorem IncidentStatus.value_injective : Function.Injective IncidentStatus.value := by
  intro status other
  cases status <;> cases other <;> decide

theorem AuditValue.text_injective : Function.Injective AuditValue.text := fun _ _ => AuditValue.text.inj

theorem column_value {α : Type*} [DecidableEq α] {audited : α → AuditValue}
    (injective : Function.Injective audited) (loaded : α) (asked : Option α) (current : α) :
    audited (column loaded asked current) =
      match asked.map audited with
      | none => audited current
      | some new => if audited loaded = new then audited current else new := by
  cases asked with
  | none => rfl
  | some new =>
    by_cases same : new = loaded
    · simp [column, same]
    · simp [column, same, injective.eq_iff, Ne.symm same]

theorem IncidentUpdate.mem_requestedValues {data : IncidentUpdate} {field : AuditField}
    {value : AuditValue} :
    (field, value) ∈ data.requestedValues ↔ data.requested field = some value := by
  simp only [requestedValues, List.mem_filterMap, Option.map_eq_some_iff, Prod.mk.injEq]
  constructor
  · rintro ⟨field, -, value, asked, rfl, rfl⟩
    exact asked
  · intro asked
    refine ⟨field, ?_, value, asked, rfl, rfl⟩
    cases field <;> simp_all [requested]

theorem IncidentUpdate.requestedValues_distinct (data : IncidentUpdate) :
    (data.requestedValues.map Prod.fst).Nodup := by
  have fields : data.requestedValues.map Prod.fst =
      [.title, .description, .serviceName, .severity, .status].filter
        fun field => (data.requested field).isSome := by
    rw [requestedValues, List.map_filterMap, ← List.filterMap_eq_filter]
    refine List.filterMap_congr fun field _ => ?_
    cases asked : data.requested field <;> simp [Option.guard, asked]
  rw [fields]
  exact List.Nodup.filter _ (by decide)

theorem Operation.requested_distinct (operation : Operation) :
    (operation.requested.map Prod.fst).Nodup := by
  cases operation with
  | updateIncident id data => exact data.requestedValues_distinct
  | _ => simp [requested]

theorem IncidentUpdate.apply_value (data : IncidentUpdate) (loaded current : Incident)
    (field : AuditField) :
    (data.apply loaded current).value field =
      match data.requested field with
      | none => current.value field
      | some new => if loaded.value field = new then current.value field else new := by
  cases field with
  | title => exact column_value AuditValue.text_injective ..
  | description => exact column_value AuditValue.text_injective ..
  | serviceName => exact column_value AuditValue.text_injective ..
  | severity =>
    exact column_value (AuditValue.text_injective.comp IncidentSeverity.value_injective) ..
  | status => exact column_value (AuditValue.text_injective.comp IncidentStatus.value_injective) ..
  | role => rfl
  | isActive => rfl
  | deleted => rfl

/-- What an update makes of the current row, by the values it loaded and those it asks for. -/
structure Written (loaded : AuditField → AuditValue) (requested : List (AuditField × AuditValue))
    (current written : AuditField → AuditValue) : Prop where
  asked : ∀ entry ∈ requested,
    written entry.1 = if loaded entry.1 = entry.2 then current entry.1 else entry.2
  others : ∀ field, field ∉ requested.map Prod.fst → written field = current field

theorem IncidentUpdate.written (data : IncidentUpdate) (loaded current : Incident) :
    Written loaded.value data.requestedValues current.value (data.apply loaded current).value where
  asked entry member := by
    rw [data.apply_value, mem_requestedValues.mp member]
  others field outside := by
    have unasked : data.requested field = none := by
      by_contra asked
      obtain ⟨value, asked⟩ := Option.ne_none_iff_exists'.mp asked
      exact outside (List.mem_map.mpr ⟨_, mem_requestedValues.mpr asked, rfl⟩)
    rw [data.apply_value, unasked]

theorem updateUserRoleColumn_written (role : UserRole) (loaded current : User) :
    Written loaded.value [(.role, .text role.value)] current.value
      (updateUserRoleColumn role loaded current).value where
  asked entry member := by
    rw [List.mem_singleton.mp member]
    exact column_value (AuditValue.text_injective.comp UserRole.value_injective) loaded.role (some role) _
  others field outside := by
    cases field <;> simp_all [User.value, updateUserRoleColumn]

theorem updateUserStatusColumn_written (isActive : Bool) (loaded current : User) :
    Written loaded.value [(.isActive, .flag isActive)] current.value
      (updateUserStatusColumn isActive loaded current).value where
  asked entry member := by
    rw [List.mem_singleton.mp member]
    exact @column_value _ _ AuditValue.flag (fun _ _ => AuditValue.flag.inj) loaded.isActive
      (some isActive) _
  others field outside := by
    cases field <;> simp_all [User.value, updateUserStatusColumn]

theorem authorize_ok {first : Option Record} (allowed : authorize operation first = .ok actor) :
    first = some (.user actor) := by
  unfold authorize at allowed
  split at allowed
  · split at allowed
    · cases allowed
    · split at allowed
      · cases allowed
        rfl
      · cases allowed
  · cases allowed

theorem program_write (writes : program request reads = .write wanted) :
    (∃ id email fullName, request = .register id email fullName false ∧
        wanted = .insert (.user id) (.user (newUser id email fullName))) ∨
      ∃ caller operation actor later, request = .call caller operation ∧
        reads = some (.user actor) :: later ∧ authorize operation (some (.user actor)) = .ok actor ∧
        perform operation actor later = .write wanted := by
  unfold program at writes
  split at writes
  · next id email fullName taken =>
    cases taken with
    | true => cases writes
    | false =>
      cases writes
      exact .inl ⟨id, email, fullName, rfl, rfl⟩
  · cases writes
  · next caller operation first later =>
    split at writes
    · cases writes
    · next actor allowed =>
      obtain rfl := authorize_ok allowed
      exact .inr ⟨caller, operation, actor, later, rfl, rfl, allowed, writes⟩

/-- An update: it changes something, and says so in its event. -/
structure Updates (operation : Operation) (actor : User) (reads : List (Option Record))
    (loaded : Record) (patch : Record → Record) : Prop where
  loads : operation.loaded actor reads = some loaded
  changes : changeSet loaded.value operation.requested ≠ []
  kept : ∀ row, row.resource = operation.resource → (patch row).resource = operation.resource
  written : ∀ row, row.resource = operation.resource →
    Written loaded.value operation.requested row.value (patch row).value
  event : ∀ row, row.resource = operation.resource → ∃ event,
    operation.event actor reads (some (patch row)) = some event ∧
      event.resource = operation.resource ∧ event.action ≠ .incidentDeleted ∧
      event.changes = changeSet loaded.value operation.requested

theorem withIncident_write {id : Uuid} {next : Incident → Step}
    (writes : withIncident id reads next = .write wanted) :
    ∃ loaded later, reads = some (.incident loaded) :: later ∧ next loaded = .write wanted := by
  unfold withIncident at writes
  split at writes
  · cases writes
  · next loaded later => exact ⟨loaded, later, rfl, writes⟩
  · cases writes

theorem withUser_write {userId : Uuid} {next : User → Step}
    (writes : withUser actor userId reads next = .write wanted) :
    ∃ loaded, loadedUser actor userId reads = some loaded ∧ next loaded = .write wanted := by
  unfold withUser at writes
  unfold loadedUser
  split at writes
  · next own =>
    rw [if_pos own]
    exact ⟨actor, rfl, writes⟩
  · next other =>
    rw [if_neg other]
    split at writes
    · cases writes
    · next loaded later => exact ⟨loaded, rfl, writes⟩
    · cases writes

theorem updateResource_write {resource : Resource} {changes : List AuditChange}
    {write : Record → Record} (writes : updateResource resource changes write = .write wanted) :
    changes ≠ [] ∧ wanted = .update resource write := by
  unfold updateResource at writes
  split at writes
  · cases writes
  · next changed =>
    cases writes
    exact ⟨changed, rfl⟩

theorem Record.eq_incident {row : Record} {id : Uuid} (found : row.resource = .incident id) :
    ∃ stored, row = .incident stored ∧ stored.id = id := by
  cases row with
  | incident stored => exact ⟨stored, rfl, Resource.incident.inj found⟩
  | user stored => cases found

theorem Record.eq_user {row : Record} {id : Uuid} (found : row.resource = .user id) :
    ∃ stored, row = .user stored ∧ stored.id = id := by
  cases row with
  | incident stored => cases found
  | user stored => exact ⟨stored, rfl, Resource.user.inj found⟩

theorem perform_write (writes : perform operation actor reads = .write wanted) :
    (∃ id data, operation = .createIncident id data ∧
        wanted = .insert (.incident id) (.incident (data.incident id))) ∨
      (∃ id loaded later, operation = .deleteIncident id ∧
        reads = some (.incident loaded) :: later ∧ wanted = .delete (.incident id)) ∨
      ∃ loaded patch, wanted = .update operation.resource patch ∧
        Updates operation actor reads loaded patch := by
  cases operation with
  | createIncident id data =>
    cases writes
    exact .inl ⟨id, data, rfl, rfl⟩
  | deleteIncident id =>
    obtain ⟨loaded, later, found, writes⟩ := withIncident_write writes
    cases writes
    exact .inr (.inl ⟨id, loaded, later, rfl, found, rfl⟩)
  | updateIncident id data =>
    obtain ⟨loaded, later, rfl, writes⟩ := withIncident_write writes
    obtain ⟨changed, rfl⟩ := updateResource_write writes
    refine .inr (.inr ⟨.incident loaded, _, rfl, rfl, changed, ?_, ?_, ?_⟩)
    all_goals
      intro row found
      obtain ⟨stored, rfl, same⟩ := Record.eq_incident found
    · exact congrArg Resource.incident same
    · exact data.written loaded stored
    · exact ⟨_, rfl, congrArg Resource.incident same, by simp [recordAuditEvent], rfl⟩
  | updateUserRole userId role =>
    dsimp only [perform] at writes
    split at writes
    · cases writes
    · obtain ⟨loaded, loads, writes⟩ := withUser_write writes
      obtain ⟨changed, rfl⟩ := updateResource_write writes
      refine .inr (.inr ⟨.user loaded, _, rfl, by simp [Operation.loaded, loads], changed, ?_, ?_, ?_⟩)
      all_goals
        intro row found
        obtain ⟨stored, rfl, same⟩ := Record.eq_user found
      · exact congrArg Resource.user same
      · exact updateUserRoleColumn_written role loaded stored
      · exact ⟨_, congrArg (Option.map _) loads, congrArg Resource.user same,
          by simp [recordAuditEvent], rfl⟩
  | updateUserStatus userId isActive =>
    dsimp only [perform] at writes
    split at writes
    · cases writes
    · obtain ⟨loaded, loads, writes⟩ := withUser_write writes
      obtain ⟨changed, rfl⟩ := updateResource_write writes
      refine .inr (.inr ⟨.user loaded, _, rfl, by simp [Operation.loaded, loads], changed, ?_, ?_, ?_⟩)
      all_goals
        intro row found
        obtain ⟨stored, rfl, same⟩ := Record.eq_user found
      · exact congrArg Resource.user same
      · exact updateUserStatusColumn_written isActive loaded stored
      · exact ⟨_, congrArg (Option.map _) loads, congrArg Resource.user same,
          by simp [recordAuditEvent], rfl⟩

def trail (resource : Resource) (changes : List (Change Request Record)) : List AuditEvent :=
  (changes.filterMap auditEvent).filter fun event => event.resource = resource

/-- The audited values of an incident before it is created. -/
def unborn : AuditField → AuditValue
  | .deleted => .flag false
  | _ => .null

/-- The values of a resource at the start, or when it is created. -/
def firstValues (rows : Resource → Option Record) (resource : Resource) : AuditField → AuditValue :=
  match rows resource, resource with
  | some record, _ => record.value
  | none, .incident _ => unborn
  | none, .user id => (newUser id "" "").value

/-- The events of a resource replay to its row, and only the last one of a deleted incident says
that it was deleted. -/
structure Recorded (rows : Resource → Option Record) (resource : Resource) (row : Option Record)
    (events : List AuditEvent) : Prop where
  replayed : ∃ values, replay (firstValues rows resource) (events.flatMap AuditEvent.changes) = some values ∧
    ∀ record, row = some record → record.value = values
  present : row.isSome = true → ∀ event ∈ events, event.action ≠ .incidentDeleted
  absent : row = none → (rows resource = none ∧ events = []) ∨
    ∃ id before last, resource = .incident id ∧ events = before ++ [last] ∧
      last.action = .incidentDeleted ∧ ∀ event ∈ before, event.action ≠ .incidentDeleted

/-- What the rows and the committed changes keep. -/
structure Trail (rows committed : Resource → Option Record) (changes : List (Change Request Record)) :
    Prop where
  placed : ∀ resource record, committed resource = some record → record.resource = resource
  recorded : ∀ resource, Recorded rows resource (committed resource) (trail resource changes)
  effective : ∀ change ∈ changes, (auditEvent change).isSome = true → change.before ≠ change.after

variable {rows committed : Resource → Option Record} {changes : List (Change Request Record)}
  {change : Change Request Record} {resource : Resource} {result : Option Record}

theorem trail_append : trail resource (changes ++ [change]) =
    trail resource changes ++ (auditEvent change).toList.filter fun event => event.resource = resource := by
  rw [trail, List.filterMap_append, List.filter_append]
  cases event : auditEvent change <;> simp [trail, event]

theorem Trail.initial (placed : ∀ resource record, rows resource = some record → record.resource = resource) :
    Trail rows rows [] where
  placed := placed
  recorded resource := by
    refine ⟨⟨_, rfl, fun record present => ?_⟩, by simp [trail], fun absent => .inl ⟨absent, rfl⟩⟩
    simp only [firstValues, present]
  effective := by simp

theorem Trail.extend (known : Trail rows committed changes)
    (placed : ∀ record, result = some record → record.resource = resource)
    (about : ∀ event, auditEvent change = some event → event.resource = resource)
    (recorded : Recorded rows resource result (trail resource changes ++ (auditEvent change).toList))
    (effective : (auditEvent change).isSome = true → change.before ≠ change.after) :
    Trail rows (Function.update committed resource result) (changes ++ [change]) where
  placed other record present := by
    by_cases same : other = resource
    · subst same
      rw [Function.update_self] at present
      exact placed record present
    · rw [Function.update_of_ne same] at present
      exact known.placed other record present
  recorded other := by
    rw [trail_append]
    by_cases same : other = resource
    · subst same
      rw [Function.update_self, List.filter_eq_self.mpr fun event inside => ?_]
      · exact recorded
      · simpa using about event (Option.mem_toList.mp inside)
    · rw [Function.update_of_ne same, List.filter_eq_nil_iff.mpr fun event inside => ?_, List.append_nil]
      · exact known.recorded other
      · have here := about event (Option.mem_toList.mp inside)
        simp [here, Ne.symm same]
  effective other inside := by
    rw [List.mem_append, List.mem_singleton] at inside
    rcases inside with old | rfl
    · exact known.effective other old
    · exact effective

namespace Recorded

variable {events : List AuditEvent} {event : AuditEvent} {current next : Record}

theorem registered {id : Uuid} {email fullName : String} (known : Recorded rows (.user id) none events) :
    Recorded rows (.user id) (some (.user (newUser id email fullName))) events := by
  obtain ⟨new, rfl⟩ | ⟨other, _, _, impossible, _⟩ := known.absent rfl
  · refine ⟨⟨_, rfl, fun record same => ?_⟩, by simp, by simp⟩
    cases same
    funext field
    simp only [firstValues, new]
    cases field <;> rfl
  · cases impossible

theorem created {id : Uuid} {row : Incident} (known : Recorded rows (.incident id) none events)
    (new : events = []) (actor : User) :
    Recorded rows (.incident id) (some (.incident row)) (events ++ [recordAuditEvent actor
      .incidentCreated (.incident id) row.title (changeSet (fun _ => .null) (createdValues row))]) := by
  subst new
  obtain ⟨unstored, -⟩ | ⟨_, before, last, _, impossible, _⟩ := known.absent rfl
  · have replayed : replay unborn (changeSet (fun _ => .null) (createdValues row)) = some row.value := by
      refine replay_changeSet ?_ ?_ ?_ ?_
      · simp [createdValues]
      · intro entry member _
        simp only [createdValues, List.map_cons, List.map_nil, List.mem_cons, List.not_mem_nil,
          or_false] at member
        rcases member with rfl | rfl | rfl | rfl | rfl <;> rfl
      · intro entry member
        simp only [createdValues, List.map_cons, List.map_nil, List.mem_cons, List.not_mem_nil,
          or_false] at member
        rcases member with rfl | rfl | rfl | rfl | rfl <;> simp [Incident.value]
      · intro field outside
        cases field <;> simp_all [createdValues, Incident.value, unborn]
    refine ⟨⟨row.value, ?_, fun record same => ?_⟩, ?_, by simp⟩
    · simpa [firstValues, unstored, recordAuditEvent] using replayed
    · cases same
      rfl
    · simp [recordAuditEvent]
  · simp at impossible

theorem updated {requested : List (AuditField × AuditValue)} {loaded : AuditField → AuditValue}
    (known : Recorded rows resource (some current) events)
    (distinct : (requested.map Prod.fst).Nodup)
    (still : ∀ entry ∈ requested, loaded entry.1 ≠ entry.2 → current.value entry.1 = loaded entry.1)
    (written : Written loaded requested current.value next.value)
    (alive : event.action ≠ .incidentDeleted) (change : event.changes = changeSet loaded requested) :
    Recorded rows resource (some next) (events ++ [event]) := by
  obtain ⟨values, replayed, same⟩ := known.replayed
  refine ⟨⟨next.value, ?_, fun record found => (by cases found; rfl)⟩, fun _ other inside => ?_, by simp⟩
  · rw [List.flatMap_append, replay_append, replayed, Option.bind_some, List.flatMap_singleton, change,
      ← same current rfl]
    exact replay_changeSet distinct still written.asked written.others
  · rw [List.mem_append, List.mem_singleton] at inside
    rcases inside with old | rfl
    · exact known.present rfl other old
    · exact alive

theorem deleted {id : Uuid} {stored : Incident}
    (known : Recorded rows (.incident id) (some (.incident stored)) events)
    (last : event.action = .incidentDeleted) (change : event.changes = [⟨.deleted, .flag false, .flag true⟩]) :
    Recorded rows (.incident id) none (events ++ [event]) := by
  obtain ⟨values, replayed, same⟩ := known.replayed
  refine ⟨⟨Function.update values .deleted (.flag true), ?_, by simp⟩, by simp, fun _ => ?_⟩
  · have flag : values .deleted = .flag false := by
      rw [← same _ rfl]
      rfl
    rw [List.flatMap_append, replay_append, replayed, Option.bind_some, List.flatMap_singleton, change,
      replay, FieldChange.apply, if_pos flag]
    rfl
  · exact .inr ⟨id, events, event, rfl, rfl, last, known.present rfl⟩

end Recorded

/-- The commit is over the values that the request read: a new incident's id is new, the statement
of a deletion has found its row, and the fields that an update changes are still as it loaded them. -/
structure StillCurrent (state : Backend) (id : ℕ) (client : Client Request Record Answer)
    (_ : Write Resource Record) : Prop where
  created : ∀ caller incidentId data, client.request = .call caller (.createIncident incidentId data) →
    trail (.incident incidentId) state.changes = []
  deleted : ∀ caller incidentId, client.request = .call caller (.deleteIncident incidentId) →
    state.store.holder (.incident incidentId) = some id ∧
      (state.store.committed (.incident incidentId)).isSome = true
  updated : ∀ caller operation actor reads loaded current, client.request = .call caller operation →
    client.reads = some (.user actor) :: reads → operation.loaded actor reads = some loaded →
    state.store.committed operation.resource = some current →
    ∀ entry ∈ operation.requested, loaded.value entry.1 ≠ entry.2 →
      current.value entry.1 = loaded.value entry.1

variable {state : Backend} {id : ℕ} {client : Client Request Record Answer}

theorem auditEvent_call {caller : Uuid} (asked : change.request = .call caller operation)
    (loads : change.reads = some (.user actor) :: reads) :
    auditEvent change = operation.event actor reads change.after := by
  rw [auditEvent, asked, loads]

theorem Recorded.after_deletion {events : List AuditEvent} {event : AuditEvent} {record : Record}
    (known : Recorded rows resource result events) (missing : result = none)
    (reborn : Recorded rows resource (some record) (events ++ [event])) : events = [] := by
  obtain ⟨-, empty⟩ | ⟨_, before, last, -, split, deletion, -⟩ := known.absent missing
  · exact empty
  · exact absurd deletion (reborn.present rfl last (by simp [split]))

theorem insert_result {row : Record} (sound : Sound program state)
    (commits : Commits program state id client (.insert resource row)) :
    state.store.committed resource = none ∧ state.result id (.insert resource row) = some row := by
  obtain ⟨made, free⟩ | ⟨-, impossible, -⟩ := commits.result_cases sound
  · exact ⟨Option.isNone_iff_eq_none.mp free, made⟩
  · cases impossible

theorem update_result {patch : Record → Record} (sound : Sound program state)
    (commits : Commits program state id client (.update resource patch)) :
    ∃ current, state.store.committed resource = some current ∧
      state.result id (.update resource patch) = some (patch current) := by
  obtain ⟨made, found⟩ | ⟨-, -, impossible⟩ := commits.result_cases sound
  · obtain ⟨current, stored⟩ := Option.isSome_iff_exists.mp found
    refine ⟨current, stored, made.trans ?_⟩
    exact congrArg (Option.map patch) stored
  · cases impossible

theorem deletion_loads {caller incidentId : Uuid} {loaded : Incident}
    (readBy : ReadBy program (fun resource record => record.resource = resource) client)
    (asked : client.request = .call caller (.deleteIncident incidentId))
    (loads : client.reads = some (.user actor) :: some (.incident loaded) :: reads)
    (active : authorize (.deleteIncident incidentId) (some (.user actor)) = .ok actor) :
    loaded.id = incidentId := by
  obtain ⟨key, next, placed⟩ := readBy [some (.user actor)] (.incident loaded) reads loads
  rw [asked, program, active] at next
  cases next
  exact Resource.incident.inj placed

theorem commit_cases (sound : Sound program state)
    (readBy : ReadBy program (fun resource record => record.resource = resource) client)
    (commits : Commits program state id client wanted) :
    (∃ userId email fullName, client.request = .register userId email fullName false ∧
        wanted.key = .user userId ∧ state.store.committed (.user userId) = none ∧
        state.result id wanted = some (.user (newUser userId email fullName))) ∨
      ∃ caller operation actor later, client.request = .call caller operation ∧
        client.reads = some (.user actor) :: later ∧ wanted.key = operation.resource ∧
        ((∃ incidentId data, operation = .createIncident incidentId data ∧
            state.store.committed (.incident incidentId) = none ∧
            state.result id wanted = some (.incident (data.incident incidentId))) ∨
          (∃ loaded rest, operation = .deleteIncident loaded.id ∧ later = some (.incident loaded) :: rest ∧
            state.result id wanted = if state.store.holder (.incident loaded.id) = some id then none
              else state.store.committed (.incident loaded.id)) ∨
          ∃ loaded patch current, Updates operation actor later loaded patch ∧
            state.store.committed operation.resource = some current ∧
            state.result id wanted = some (patch current)) := by
  obtain ⟨userId, email, fullName, asked, rfl⟩ |
    ⟨caller, operation, actor, later, asked, loads, active, writes⟩ := program_write commits.writes
  · obtain ⟨free, made⟩ := insert_result sound commits
    exact .inl ⟨userId, email, fullName, asked, rfl, free, made⟩
  · refine .inr ⟨caller, operation, actor, later, asked, loads, ?_⟩
    obtain ⟨incidentId, data, rfl, rfl⟩ | ⟨incidentId, loaded, rest, rfl, rfl, rfl⟩ |
      ⟨loaded, patch, rfl, updates⟩ := perform_write writes
    · obtain ⟨free, made⟩ := insert_result sound commits
      exact ⟨rfl, .inl ⟨incidentId, data, rfl, free, made⟩⟩
    · obtain rfl := deletion_loads readBy asked loads active
      exact ⟨rfl, .inr (.inl ⟨loaded, rest, rfl, rfl, rfl⟩)⟩
    · obtain ⟨current, stored, made⟩ := update_result sound commits
      exact ⟨rfl, .inr (.inr ⟨loaded, patch, current, updates, stored, made⟩)⟩

theorem Updates.effective {loaded current : Record} {patch : Record → Record}
    (updates : Updates operation actor reads loaded patch) (stored : current.resource = operation.resource)
    (still : ∀ entry ∈ operation.requested, loaded.value entry.1 ≠ entry.2 →
      current.value entry.1 = loaded.value entry.1) : current ≠ patch current := by
  intro same
  obtain ⟨change, inside⟩ := List.exists_mem_of_ne_nil _ updates.changes
  obtain ⟨member, old, differs⟩ := mem_changeSet.mp inside
  rw [old] at differs
  have asked := (updates.written current stored).asked _ member
  rw [if_neg differs, ← same, still _ member differs] at asked
  exact differs asked

theorem Trail.commit (known : Trail rows state.store.committed state.changes)
    (sound : Sound program state)
    (readBy : ReadBy program (fun resource record => record.resource = resource) client)
    (commits : Commits program state id client wanted) (still : StillCurrent state id client wanted) :
    Trail rows (state.commit id client wanted).store.committed (state.commit id client wanted).changes := by
  dsimp only [Shared.commit]
  obtain ⟨userId, email, fullName, asked, key, free, made⟩ |
    ⟨caller, operation, actor, later, asked, loads, key, cases⟩ := commit_cases sound readBy commits
  · rw [key, made, free]
    have silent : auditEvent ⟨id, client.request, client.reads, none,
        some (.user (newUser userId email fullName))⟩ = none := by
      rw [auditEvent, asked]
    refine known.extend (fun record same => (by cases same; rfl)) (by simp [silent]) ?_ (by simp [silent])
    rw [silent, Option.toList_none, List.append_nil]
    exact Recorded.registered (free ▸ known.recorded (.user userId))
  · obtain ⟨incidentId, data, rfl, free, made⟩ | ⟨loaded, rest, rfl, rfl, made⟩ |
      ⟨loaded, patch, current, updates, stored, made⟩ := cases
    · have event : ∀ before, auditEvent ⟨id, client.request, client.reads, before,
          some (.incident (data.incident incidentId))⟩ = some (recordAuditEvent actor .incidentCreated
            (.incident incidentId) data.title
            (changeSet (fun _ => .null) (createdValues (data.incident incidentId)))) := fun before =>
        (auditEvent_call asked loads).trans rfl
      rw [key, made]
      refine known.extend (fun record same => (by cases same; rfl)) ?_ ?_ ?_
      · intro other found
        rw [event] at found
        cases found
        rfl
      · rw [event]
        exact Recorded.created (free ▸ known.recorded (.incident incidentId))
          (still.created caller incidentId data asked) actor
      · intro _
        simp [Operation.resource, free]
    · obtain ⟨locked, found⟩ := still.deleted caller loaded.id asked
      obtain ⟨stored, present⟩ := Option.isSome_iff_exists.mp found
      obtain ⟨incident, rfl, -⟩ := Record.eq_incident (known.placed _ _ present)
      have event : ∀ before after, auditEvent ⟨id, client.request, client.reads, before, after⟩ =
          some (recordAuditEvent actor .incidentDeleted (.incident loaded.id) loaded.title
            [⟨.deleted, .flag false, .flag true⟩]) := fun before after =>
        (auditEvent_call asked loads).trans rfl
      rw [key, made, if_pos locked]
      refine known.extend (by simp) ?_ ?_ ?_
      · intro other found
        rw [event] at found
        cases found
        rfl
      · rw [event]
        have alive := known.recorded (.incident loaded.id)
        rw [present] at alive
        exact alive.deleted rfl rfl
      · intro _
        simp [Operation.resource, present]
    · have placed := known.placed _ _ stored
      have same := still.updated caller operation actor later loaded current asked loads updates.loads stored
      obtain ⟨event, made_event, about, alive, changed⟩ := updates.event current placed
      have recorded : ∀ before, auditEvent ⟨id, client.request, client.reads, before,
          some (patch current)⟩ = some event := fun before => (auditEvent_call asked loads).trans made_event
      rw [key, made]
      refine known.extend ?_ ?_ ?_ ?_
      · intro record is_patched
        cases is_patched
        exact updates.kept current placed
      · intro other found
        rw [recorded] at found
        cases found
        exact about
      · rw [recorded]
        have current_trail := known.recorded operation.resource
        rw [stored] at current_trail
        exact current_trail.updated operation.requested_distinct same (updates.written current placed) alive
          changed
      · intro _
        rw [stored]
        exact fun equal => updates.effective placed same (Option.some.inj equal)

/-- The audit trail replays to the current state. -/
structure TrailHolds (rows : Resource → Option Record) (state : Backend) : Prop where
  recorded : ∀ resource,
    Recorded rows resource (state.store.committed resource) (trail resource state.changes)
  effective : ∀ change ∈ state.changes, (auditEvent change).isSome = true → change.before ≠ change.after
  silent : ∀ id client, state.clients id = some client → (∀ row, client.progress ≠ .committed row) →
    ∀ change ∈ state.changes, change.client ≠ id

theorem Trail.holds (known : Trail rows state.store.committed state.changes)
    (sound : Sound program state) : TrailHolds rows state where
  recorded := known.recorded
  effective := known.effective
  silent id client present uncommitted change member owned := by
    obtain ⟨row, committed⟩ := (sound.clients id client present).recorded.mp ⟨change, member, owned⟩
    exact uncommitted row committed

theorem Trail.broken (known : Trail rows state.store.committed state.changes)
    (sound : Sound program state)
    (readBy : ReadBy program (fun resource record => record.resource = resource) client)
    (commits : Commits program state id client wanted) (late : ¬StillCurrent state id client wanted) :
    ¬TrailHolds rows (state.commit id client wanted) := by
  intro holds
  have recorded := holds.recorded wanted.key
  have effective := holds.effective _ (List.mem_append_right _ List.mem_cons_self)
  dsimp only [Shared.commit] at recorded effective
  rw [trail_append, Function.update_self] at recorded
  obtain ⟨userId, email, fullName, asked, -⟩ | ⟨caller, operation, actor, later, asked, loads, key, cases⟩ :=
    commit_cases sound readBy commits
  · exact late ⟨by simp [asked], by simp [asked], by simp [asked]⟩
  · obtain ⟨incidentId, data, rfl, free, made⟩ | ⟨loaded, rest, rfl, rfl, made⟩ |
      ⟨loaded, patch, current, updates, stored, made⟩ := cases
    · rw [auditEvent_call asked loads, key, made] at recorded
      have reborn : Recorded rows (.incident incidentId) (some (.incident (data.incident incidentId)))
          (trail (.incident incidentId) state.changes ++ [recordAuditEvent actor .incidentCreated
            (.incident incidentId) data.title
            (changeSet (fun _ => .null) (createdValues (data.incident incidentId)))]) := by
        simpa [Operation.event, IncidentCreate.incident, recordAuditEvent, Operation.resource] using recorded
      have new := Recorded.after_deletion (known.recorded _) free reborn
      refine late ⟨fun _ other _ same => ?_, by simp [asked], ?_⟩
      · rw [asked] at same
        cases same
        exact new
      · intro _ other _ _ _ _ same _ _ _ entry member
        rw [asked] at same
        cases same
        cases member
    · have matched : state.store.holder (.incident loaded.id) = some id ∧
          (state.store.committed (.incident loaded.id)).isSome = true := by
        rw [auditEvent_call asked loads, key, made] at effective
        by_contra missed
        refine effective rfl ?_
        by_cases locked : state.store.holder (.incident loaded.id) = some id
        · rw [if_pos locked]
          simpa [locked, Operation.resource] using missed
        · rw [if_neg locked]
          rfl
      refine late ⟨by simp [asked], fun _ other same => ?_, ?_⟩
      · rw [asked] at same
        cases same
        exact matched
      · intro _ other _ _ _ _ same _ _ _ entry member
        rw [asked] at same
        cases same
        cases member
    · have placed := known.placed _ _ stored
      obtain ⟨event, made_event, about, alive, changed⟩ := updates.event current placed
      rw [auditEvent_call asked loads, key, made, made_event] at recorded
      obtain ⟨values, replayed, same⟩ := (known.recorded operation.resource).replayed
      obtain ⟨final, whole, -⟩ := recorded.replayed
      rw [List.flatMap_append, replay_append, replayed, Option.bind_some, ← same current stored] at whole
      simp only [Option.toList_some, about, decide_true, List.filter_cons_of_pos, List.filter_nil,
        List.flatMap_singleton, changed] at whole
      have unmoved : ∀ entry ∈ operation.requested, loaded.value entry.1 ≠ entry.2 →
          current.value entry.1 = loaded.value entry.1 := by
        intro entry member differs
        by_contra moved
        rw [replay_changeSet_none operation.requested_distinct member differs moved] at whole
        cases whole
      refine late ⟨fun _ other _ created => ?_, fun _ other deleted => ?_, ?_⟩
      · rw [asked] at created
        cases created
        cases updates.loads
      · rw [asked] at deleted
        cases deleted
        exact absurd rfl updates.changes
      · intro _ other _ _ _ _ same_request same_reads same_loaded same_row
        rw [asked] at same_request
        cases same_request
        rw [loads] at same_reads
        cases same_reads
        cases updates.loads.symm.trans same_loaded
        cases stored.symm.trans same_row
        exact unmoved

/-- In every run of registrations and incident, role and status requests, whatever the order of their
statements: the audit trail replays to the current state in every state exactly if each request
commits over the values that it has read. -/
theorem audit_trail_replays (rows : Resource → Option Record)
    (placed : ∀ resource record, rows resource = some record → record.resource = resource)
    (labels : List (Action Request)) (state : Backend)
    (run : Run (fun a action b => a.step program action = some b) (initial rows) labels state) :
    (∀ before later middle, labels = before ++ later →
        Run (fun a action b => a.step program action = some b) (initial rows) before middle →
        TrailHolds rows middle) ↔
      Run (fun a action b => a.step program action = some b ∧ Permits program StillCurrent a action)
        (initial rows) labels state := by
  refine @Run.guarded_iff _ _ _ _ _ (fun state action => state.step program action)
    (fun state => Sound program state ∧ Trail rows state.store.committed state.changes ∧
      ReadsFrom program (fun resource record => record.resource = resource) state) (TrailHolds rows)
    (Permits program StillCurrent) ⟨.initial rows, .initial placed, .initial rows⟩ ?_ ?_ ?_ run
  · rintro state action after ⟨sound, known, reads⟩ moved permitted
    refine ⟨sound.step moved, ?_, reads.step known.placed moved⟩
    rcases step_cases moved with ⟨id, client, wanted, executed, commits, rfl⟩ | ⟨same, unchanged⟩
    · exact known.commit sound (reads id client commits.present) commits
        (permitted id client wanted executed commits)
    · rwa [same, unchanged]
  · exact fun state known => known.2.1.holds known.1
  · rintro state action after ⟨sound, known, reads⟩ moved late
    obtain ⟨id, client, wanted, commits, refused, rfl⟩ := unpermitted moved late
    exact known.broken sound (reads id client commits.present) commits refused

def operations : Resource → Option Record := fun resource =>
  if resource = .user 1 then some (.user ⟨1, "admin@example.com", "Admin", .admin, true⟩) else none

theorem operations_placed : ∀ resource record, operations resource = some record →
    record.resource = resource := by
  intro resource record present
  unfold operations at present
  split at present
  · next user =>
    cases present
    exact user.symm
  · cases present

def statusUpdate (status : IncidentStatus) : IncidentUpdate := ⟨none, none, none, none, some status⟩

def staleActions : List (Action Request) :=
  [.start 0 (.call 1 (.createIncident 5 ⟨"Checkout latency", "Slow", "checkout", .high⟩)), .execute 0,
    .execute 0, .execute 0, .start 1 (.call 1 (.updateIncident 5 (statusUpdate .investigating))),
    .start 2 (.call 1 (.updateIncident 5 (statusUpdate .resolved))), .execute 1, .execute 1,
    .execute 2, .execute 2, .execute 1, .execute 1, .execute 2, .execute 2]

theorem stale_reached : ∃ state : Backend,
    Run (fun a action b => a.step program action = some b) (initial operations) staleActions state ∧
    replay (firstValues operations (.incident 5))
      ((trail (.incident 5) state.changes).flatMap AuditEvent.changes) = none := by
  have ending : ((staleActions.foldlM (Shared.step program) (initial operations)).map fun state =>
      (replay (firstValues operations (.incident 5))
        ((trail (.incident 5) state.changes).flatMap AuditEvent.changes)).isNone) = some true := by
    decide +kernel
  obtain ⟨state, found, failed⟩ := Option.map_eq_some_iff.mp ending
  exact ⟨state, .of_foldlM found, Option.isNone_iff_eq_none.mp failed⟩

theorem TrailHolds.replays (holds : TrailHolds rows state) (resource : Resource) :
    replay (firstValues rows resource)
      ((trail resource state.changes).flatMap AuditEvent.changes) ≠ none := by
  obtain ⟨values, replayed, -⟩ := (holds.recorded resource).replayed
  simp [replayed]

theorem stale_update_not_replayed : ∃ state : Backend,
    Run (fun a action b => a.step program action = some b) (initial operations) staleActions state ∧
    ¬TrailHolds operations state := by
  obtain ⟨state, run, failed⟩ := stale_reached
  exact ⟨state, run, fun holds => holds.replays (.incident 5) failed⟩

theorem audit_trail_replays_stale : ∃ state : Backend,
    Run (fun a action b => a.step program action = some b) (initial operations) staleActions state ∧
    ¬Run (fun a action b => a.step program action = some b ∧ Permits program StillCurrent a action)
      (initial operations) staleActions state := by
  obtain ⟨state, run, failed⟩ := stale_reached
  refine ⟨state, run, fun guarded => ?_⟩
  have everywhere := (audit_trail_replays operations operations_placed staleActions state run).mpr guarded
  exact (everywhere staleActions [] state (by simp) run).replays (.incident 5) failed

end CareerProjects.CloudOperations
