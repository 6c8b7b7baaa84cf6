import CareerProjects.Library.Replay
import CareerProjects.Library.Unlocked

/-! The cloud operations backend: user accounts, incidents and the audit events about both. A
request loads its caller, checks the caller's status and role, loads the resource it is about, and
writes the changed columns and an audit event in one transaction; no read locks a row. -/

namespace CareerProjects.CloudOperations
open Library

abbrev Uuid := BitVec 128

inductive UserRole
  | viewer | operator | admin
  deriving DecidableEq, Repr

inductive IncidentSeverity
  | low | medium | high | critical
  deriving DecidableEq, Repr

inductive IncidentStatus
  | openStatus | investigating | resolved | closed
  deriving DecidableEq, Repr

def UserRole.value : UserRole → String
  | .viewer => "viewer"
  | .operator => "operator"
  | .admin => "admin"

def IncidentSeverity.value : IncidentSeverity → String
  | .low => "low"
  | .medium => "medium"
  | .high => "high"
  | .critical => "critical"

def IncidentStatus.value : IncidentStatus → String
  | .openStatus => "open"
  | .investigating => "investigating"
  | .resolved => "resolved"
  | .closed => "closed"

structure User where
  id : Uuid
  email : String
  fullName : String
  role : UserRole
  isActive : Bool
  deriving DecidableEq

structure Incident where
  id : Uuid
  title : String
  description : String
  serviceName : String
  severity : IncidentSeverity
  status : IncidentStatus
  deriving DecidableEq

/-- The type and the identifier of an audited resource. -/
inductive Resource
  | incident (id : Uuid)
  | user (id : Uuid)
  deriving DecidableEq

inductive Record
  | incident (incident : Incident)
  | user (user : User)
  deriving DecidableEq

def Record.resource : Record → Resource
  | .incident row => .incident row.id
  | .user row => .user row.id

inductive AuditField
  | title | description | serviceName | severity | status | role | isActive | deleted
  deriving DecidableEq

/-- The values of audited fields after `normalize_audit_value`. -/
inductive AuditValue
  | null
  | text (text : String)
  | flag (flag : Bool)
  deriving DecidableEq

inductive AuditAction
  | incidentCreated | incidentUpdated | incidentDeleted | userRoleChanged | userStatusChanged
  deriving DecidableEq

abbrev AuditChange := FieldChange AuditField AuditValue

structure AuditEvent where
  actorUserId : Uuid
  actorEmail : String
  actorRole : UserRole
  action : AuditAction
  resource : Resource
  resourceLabel : String
  changes : List AuditChange
  deriving DecidableEq

def Incident.value (incident : Incident) : AuditField → AuditValue
  | .title => .text incident.title
  | .description => .text incident.description
  | .serviceName => .text incident.serviceName
  | .severity => .text incident.severity.value
  | .status => .text incident.status.value
  | .deleted => .flag false
  | .role | .isActive => .null

def User.value (user : User) : AuditField → AuditValue
  | .role => .text user.role.value
  | .isActive => .flag user.isActive
  | _ => .null

def Record.value : Record → AuditField → AuditValue
  | .incident row => row.value
  | .user row => row.value

def recordAuditEvent (actor : User) (action : AuditAction) (resource : Resource)
    (resourceLabel : String) (changes : List AuditChange) : AuditEvent :=
  ⟨actor.id, actor.email, actor.role, action, resource, resourceLabel, changes⟩

structure IncidentCreate where
  title : String
  description : String
  serviceName : String
  severity : IncidentSeverity
  deriving DecidableEq

structure IncidentUpdate where
  title : Option String
  description : Option String
  serviceName : Option String
  severity : Option IncidentSeverity
  status : Option IncidentStatus
  deriving DecidableEq

inductive Operation
  | createIncident (id : Uuid) (data : IncidentCreate)
  | updateIncident (id : Uuid) (data : IncidentUpdate)
  | deleteIncident (id : Uuid)
  | updateUserRole (userId : Uuid) (role : UserRole)
  | updateUserStatus (userId : Uuid) (isActive : Bool)
  deriving DecidableEq

/-- A registration draws an id and finds its email taken or not; any other request has a caller. -/
inductive Request
  | register (id : Uuid) (email fullName : String) (taken : Bool)
  | call (caller : Uuid) (operation : Operation)
  deriving DecidableEq

inductive Answer
  | couldNotValidateCredentials
  | accountDisabled
  | insufficientPermissions
  | cannotRemoveOwnAdminRole
  | cannotDisableOwnAccount
  | incidentNotFound (id : Uuid)
  | userNotFound (id : Uuid)
  | emailAlreadyRegistered
  | unchanged
  deriving DecidableEq

abbrev Step := Statement Resource Record Answer

def Operation.allowedRoles : Operation → List UserRole
  | .createIncident .. | .updateIncident .. => [.operator, .admin]
  | _ => [.admin]

def authorize (operation : Operation) : Option Record → Except Answer User
  | some (.user user) =>
    if !user.isActive then .error .accountDisabled
    else if operation.allowedRoles.contains user.role then .ok user
    else .error .insufficientPermissions
  | _ => .error .couldNotValidateCredentials

/-- The new value of a column, written only where it is requested and differs from the loaded one. -/
def column {α : Type*} [DecidableEq α] (loaded : α) (requested : Option α) (current : α) : α :=
  match requested with
  | none => current
  | some new => if new = loaded then current else new

def IncidentCreate.incident (data : IncidentCreate) (id : Uuid) : Incident :=
  ⟨id, data.title, data.description, data.serviceName, data.severity, .openStatus⟩

def createdValues (incident : Incident) : List (AuditField × AuditValue) :=
  [.title, .description, .serviceName, .severity, .status].map fun field =>
    (field, incident.value field)

namespace IncidentUpdate

def requested (data : IncidentUpdate) : AuditField → Option AuditValue
  | .title => data.title.map .text
  | .description => data.description.map .text
  | .serviceName => data.serviceName.map .text
  | .severity => data.severity.map fun severity => .text severity.value
  | .status => data.status.map fun status => .text status.value
  | _ => none

def requestedValues (data : IncidentUpdate) : List (AuditField × AuditValue) :=
  [.title, .description, .serviceName, .severity, .status].filterMap fun field =>
    (data.requested field).map fun value => (field, value)

def apply (data : IncidentUpdate) (loaded current : Incident) : Incident :=
  { current with
    title := column loaded.title data.title current.title
    description := column loaded.description data.description current.description
    serviceName := column loaded.serviceName data.serviceName current.serviceName
    severity := column loaded.severity data.severity current.severity
    status := column loaded.status data.status current.status }

end IncidentUpdate

def updateUserRoleColumn (role : UserRole) (loaded current : User) : User :=
  { current with role := column loaded.role (some role) current.role }

def updateUserStatusColumn (isActive : Bool) (loaded current : User) : User :=
  { current with isActive := column loaded.isActive (some isActive) current.isActive }

def onIncident (write : Incident → Incident) : Record → Record
  | .incident incident => .incident (write incident)
  | .user user => .user user

def onUser (write : User → User) : Record → Record
  | .incident incident => .incident incident
  | .user user => .user (write user)

/-- Write a resource unless the change set of the request is empty. -/
def updateResource (resource : Resource) (changes : List AuditChange) (write : Record → Record) : Step :=
  if changes = [] then .finish .unchanged else .write (.update resource write)

def incidentChanges (data : IncidentUpdate) (loaded : Incident) : List AuditChange :=
  changeSet loaded.value data.requestedValues

def roleChanges (role : UserRole) (loaded : User) : List AuditChange :=
  changeSet loaded.value [(.role, .text role.value)]

def statusChanges (isActive : Bool) (loaded : User) : List AuditChange :=
  changeSet loaded.value [(.isActive, .flag isActive)]

def updateIncident (id : Uuid) (data : IncidentUpdate) (loaded : Incident) : Step :=
  updateResource (.incident id) (incidentChanges data loaded) (onIncident (data.apply loaded))

def changeUserRole (userId : Uuid) (role : UserRole) (loaded : User) : Step :=
  updateResource (.user userId) (roleChanges role loaded) (onUser (updateUserRoleColumn role loaded))

def changeUserStatus (userId : Uuid) (isActive : Bool) (loaded : User) : Step :=
  updateResource (.user userId) (statusChanges isActive loaded)
    (onUser (updateUserStatusColumn isActive loaded))

def withIncident (id : Uuid) (reads : List (Option Record)) (next : Incident → Step) : Step :=
  match reads with
  | [] => .read (.incident id)
  | some (.incident loaded) :: _ => next loaded
  | _ => .finish (.incidentNotFound id)

/-- Load a user and go on with it; the session has the caller already. -/
def withUser (actor : User) (userId : Uuid) (reads : List (Option Record)) (next : User → Step) : Step :=
  if userId = actor.id then next actor
  else
    match reads with
    | [] => .read (.user userId)
    | some (.user loaded) :: _ => next loaded
    | _ => .finish (.userNotFound userId)

/-- What a request does after its caller is authorized. -/
def perform (operation : Operation) (actor : User) (reads : List (Option Record)) : Step :=
  match operation with
  | .createIncident id data => .write (.insert (.incident id) (.incident (data.incident id)))
  | .updateIncident id data => withIncident id reads (updateIncident id data)
  | .deleteIncident id => withIncident id reads fun _ => .write (.delete (.incident id))
  | .updateUserRole userId role =>
    if userId = actor.id ∧ role ≠ .admin then .finish .cannotRemoveOwnAdminRole
    else withUser actor userId reads (changeUserRole userId role)
  | .updateUserStatus userId isActive =>
    if userId = actor.id ∧ isActive = false then .finish .cannotDisableOwnAccount
    else withUser actor userId reads (changeUserStatus userId isActive)

def newUser (id : Uuid) (email fullName : String) : User := ⟨id, email, fullName, .viewer, true⟩

def program : Program Request Resource Record Answer
  | .register id email fullName taken, _ =>
    if taken then .finish .emailAlreadyRegistered
    else .write (.insert (.user id) (.user (newUser id email fullName)))
  | .call caller _, [] => .read (.user caller)
  | .call _ operation, first :: reads =>
    match authorize operation first with
    | .error answer => .finish answer
    | .ok actor => perform operation actor reads

abbrev Backend := Shared Request Resource Record Answer

/-- The user a role or status change is about, as it was loaded. -/
def loadedUser (actor : User) (userId : Uuid) (reads : List (Option Record)) : Option User :=
  if userId = actor.id then some actor
  else
    match reads with
    | some (.user loaded) :: _ => some loaded
    | _ => none

/-- The audit event of an operation, from the rows it loaded and the row it wrote. -/
def Operation.event (operation : Operation) (actor : User) (reads : List (Option Record))
    (written : Option Record) : Option AuditEvent :=
  match operation, reads, written with
  | .createIncident _ _, _, some (.incident row) =>
    some (recordAuditEvent actor .incidentCreated (.incident row.id) row.title
      (changeSet (fun _ => .null) (createdValues row)))
  | .updateIncident _ data, some (.incident loaded) :: _, some (.incident row) =>
    some (recordAuditEvent actor .incidentUpdated (.incident row.id) row.title
      (incidentChanges data loaded))
  | .deleteIncident _, some (.incident loaded) :: _, _ =>
    some (recordAuditEvent actor .incidentDeleted (.incident loaded.id) loaded.title
      [⟨.deleted, .flag false, .flag true⟩])
  | .updateUserRole userId role, _, some (.user row) =>
    (loadedUser actor userId reads).map fun loaded =>
      recordAuditEvent actor .userRoleChanged (.user row.id) row.email (roleChanges role loaded)
  | .updateUserStatus userId isActive, _, some (.user row) =>
    (loadedUser actor userId reads).map fun loaded =>
      recordAuditEvent actor .userStatusChanged (.user row.id) row.email (statusChanges isActive loaded)
  | _, _, _ => none

def auditEvent (change : Change Request Record) : Option AuditEvent :=
  match change.request, change.reads with
  | .call _ operation, some (.user actor) :: reads => operation.event actor reads change.after
  | _, _ => none

end CareerProjects.CloudOperations
