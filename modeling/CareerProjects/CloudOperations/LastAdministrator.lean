import CareerProjects.CloudOperations.AuditTrail

/-! The last administrator. A role or status request checks its caller's own row before it writes,
so that an administrator remains as long as the caller still is one when the request commits. -/

namespace CareerProjects.CloudOperations
open Library Library.Shared

def User.isAdministrator (user : User) : Bool := user.role = .admin && user.isActive

def IsAdministrator (rows : Resource → Option Record) (id : Uuid) : Prop :=
  ∃ user, rows (.user id) = some (.user user) ∧ user.isAdministrator = true

/-- The caller of a role or status request is an active administrator when the request commits. -/
structure CallerRemains (state : Backend) (_ : ℕ) (client : Client Request Record Answer)
    (_ : Write Resource Record) : Prop where
  role : ∀ caller userId role, client.request = .call caller (.updateUserRole userId role) →
    IsAdministrator state.store.committed caller
  status : ∀ caller userId isActive, client.request = .call caller (.updateUserStatus userId isActive) →
    IsAdministrator state.store.committed caller

structure Administered (rows : Resource → Option Record) : Prop where
  placed : ∀ resource record, rows resource = some record → record.resource = resource
  administrator : ∃ id, IsAdministrator rows id

variable {state : Backend} {id : ℕ} {client : Client Request Record Answer}
  {wanted : Write Resource Record} {rows : Resource → Option Record} {resource : Resource}
  {result : Option Record} {operation : Operation} {actor : User} {reads : List (Option Record)}

/-- An administrator whose row is not written, or stays one, remains. -/
theorem IsAdministrator.update {administrator : Uuid} (now : IsAdministrator rows administrator)
    (own : resource = .user administrator → IsAdministrator (fun _ => result) administrator) :
    IsAdministrator (Function.update rows resource result) administrator := by
  obtain ⟨user, stored, active⟩ := now
  by_cases same : resource = .user administrator
  · obtain ⟨written, found, still⟩ := own same
    subst same
    exact ⟨written, (Function.update_self ..).trans found, still⟩
  · exact ⟨user, (Function.update_of_ne (Ne.symm same) ..).trans stored, active⟩

theorem caller_loads {caller : Uuid}
    (readBy : ReadBy program (fun resource record => record.resource = resource) client)
    (asked : client.request = .call caller operation)
    (loads : client.reads = some (.user actor) :: reads) : actor.id = caller := by
  obtain ⟨key, next, placed⟩ := readBy [] (.user actor) reads loads
  rw [asked] at next
  cases next
  exact Resource.user.inj placed

theorem Written.unchanged {loaded current written : AuditField → AuditValue}
    {requested : List (AuditField × AuditValue)} (update : Written loaded requested current written)
    (asks : ∀ entry ∈ requested, entry.2 = current entry.1) : written = current := by
  ext field
  by_cases asked : field ∈ requested.map Prod.fst
  · obtain ⟨entry, member, rfl⟩ := List.mem_map.mp asked
    rw [update.asked entry member, asks entry member, ite_self]
  · exact update.others field asked

theorem isAdministrator_iff {administrator : Uuid} {row : Record} (user : row.resource = .user administrator) :
    IsAdministrator (fun _ => some row) administrator ↔
      row.value .role = .text UserRole.admin.value ∧ row.value .isActive = .flag true := by
  obtain ⟨stored, rfl, -⟩ := Record.eq_user user
  simp [IsAdministrator, User.isAdministrator, Record.value, User.value, UserRole.value_injective.eq_iff]

theorem updateUserRole_self {userId : Uuid} {role : UserRole}
    (writes : perform (.updateUserRole userId role) actor reads = .write wanted)
    (self : userId = actor.id) : role = .admin := by
  by_contra demoted
  simp [perform, self, demoted] at writes

theorem updateUserStatus_self {userId : Uuid} {isActive : Bool}
    (writes : perform (.updateUserStatus userId isActive) actor reads = .write wanted)
    (self : userId = actor.id) : isActive = true := by
  cases isActive with
  | true => rfl
  | false => simp [perform, self] at writes

/-- What an administrator asks for about the own account is what it has. -/
theorem own_update {current : Record}
    (writes : perform operation actor reads = .write wanted) (self : operation.resource = .user actor.id)
    (administrator : current.value .role = .text UserRole.admin.value ∧
      current.value .isActive = .flag true) :
    ∀ entry ∈ operation.requested, entry.2 = current.value entry.1 := by
  intro entry member
  cases operation with
  | updateUserRole userId role =>
    have admin := updateUserRole_self writes (Resource.user.inj self)
    rw [List.mem_singleton.mp member, admin]
    exact administrator.1.symm
  | updateUserStatus userId isActive =>
    have active := updateUserStatus_self writes (Resource.user.inj self)
    rw [List.mem_singleton.mp member, active]
    exact administrator.2.symm
  | createIncident => cases self
  | updateIncident => cases self
  | deleteIncident => cases self

theorem CallerRemains.caller {caller userId : Uuid} (remains : CallerRemains state id client wanted)
    (asked : client.request = .call caller operation) (user : operation.resource = .user userId) :
    IsAdministrator state.store.committed caller := by
  cases operation with
  | updateUserRole userId role => exact remains.role caller userId role asked
  | updateUserStatus userId isActive => exact remains.status caller userId isActive asked
  | createIncident => cases user
  | updateIncident => cases user
  | deleteIncident => cases user

theorem perform_of_commits {caller : Uuid} (commits : Commits program state id client wanted)
    (asked : client.request = .call caller operation)
    (loads : client.reads = some (.user actor) :: reads) :
    perform operation actor reads = .write wanted := by
  obtain ⟨_, _, _, registers, -⟩ | ⟨_, _, _, _, asked', loads', -, writes⟩ := program_write commits.writes
  · rw [asked] at registers
    cases registers
  · rw [asked] at asked'
    cases asked'
    rw [loads] at loads'
    cases loads'
    exact writes

theorem Updates.administrator {loaded current : Record} {patch : Record → Record}
    (updates : Updates operation actor reads loaded patch)
    (writes : perform operation actor reads = .write wanted) (self : operation.resource = .user actor.id)
    (placed : current.resource = operation.resource)
    (now : IsAdministrator (fun _ => some current) actor.id) :
    IsAdministrator (fun _ => some (patch current)) actor.id := by
  have administers := (isAdministrator_iff (placed.trans self)).mp now
  have same := (updates.written current placed).unchanged (own_update writes self administers)
  rw [isAdministrator_iff ((updates.kept current placed).trans self), same]
  exact administers

theorem Administered.commit (known : Administered state.store.committed)
    (sound : Sound program state)
    (readBy : ReadBy program (fun resource record => record.resource = resource) client)
    (commits : Commits program state id client wanted) (remains : CallerRemains state id client wanted) :
    ∃ administrator, IsAdministrator (state.commit id client wanted).store.committed administrator := by
  dsimp only [Shared.commit]
  obtain ⟨administrator, now⟩ := known.administrator
  obtain ⟨userId, email, fullName, asked, key, free, made⟩ |
    ⟨caller, operation, actor, later, asked, loads, key, cases⟩ := commit_cases sound readBy commits
  · refine ⟨administrator, now.update fun same => ?_⟩
    obtain ⟨user, stored, -⟩ := now
    rw [← same, key, free] at stored
    cases stored
  · obtain ⟨incidentId, data, rfl, -⟩ | ⟨loaded, rest, rfl, -⟩ |
      ⟨loaded, patch, current, updates, stored, made⟩ := cases
    · exact ⟨administrator, now.update fun same => by cases key.symm.trans same⟩
    · exact ⟨administrator, now.update fun same => by cases key.symm.trans same⟩
    · by_cases user : ∃ userId, operation.resource = .user userId
      · obtain ⟨userId, about⟩ := user
        obtain rfl := caller_loads readBy asked loads
        have still := remains.caller asked about
        refine ⟨actor.id, still.update fun same => ?_⟩
        have self := key.symm.trans same
        rw [made]
        refine updates.administrator (perform_of_commits commits asked loads) self
          (known.placed _ _ stored) ?_
        obtain ⟨row, found, active⟩ := still
        rw [← self, stored] at found
        exact ⟨row, found, active⟩
      · refine ⟨administrator, now.update fun same => ?_⟩
        exact absurd ⟨administrator, key.symm.trans same⟩ user

theorem placed_commit (placed : ∀ resource record, state.store.committed resource = some record →
      record.resource = resource) (sound : Sound program state)
    (readBy : ReadBy program (fun resource record => record.resource = resource) client)
    (commits : Commits program state id client wanted) :
    ∀ resource record, (state.commit id client wanted).store.committed resource = some record →
      record.resource = resource := by
  intro resource record found
  dsimp only [Shared.commit] at found
  by_cases same : resource = wanted.key
  · subst same
    rw [Function.update_self] at found
    obtain ⟨userId, email, fullName, asked, key, free, made⟩ |
      ⟨caller, operation, actor, later, asked, loads, key, cases⟩ := commit_cases sound readBy commits
    · rw [made] at found
      cases found
      exact key.symm
    · rw [key]
      obtain ⟨incidentId, data, rfl, -, made⟩ | ⟨loaded, rest, rfl, -, made⟩ |
        ⟨loaded, patch, current, updates, stored, made⟩ := cases
      · rw [made] at found
        cases found
        rfl
      · rw [made] at found
        split at found
        · cases found
        · exact placed _ _ found
      · rw [made] at found
        cases found
        exact updates.kept current (placed _ _ stored)
  · rw [Function.update_of_ne same] at found
    exact placed resource record found

/-- Starting from any rows with an active administrator: in every run of role and status requests,
registrations and incident requests, whatever the order of their statements, an active administrator
remains in every state, if the caller of each role or status request is still one when it commits. -/
theorem administrator_remains (rows : Resource → Option Record) (administered : Administered rows)
    (state : Backend)
    (reached : Reached (fun a action b => a.step program action = some b ∧
      Permits program CallerRemains a action) (initial rows) state) :
    ∃ administrator, IsAdministrator state.store.committed administrator := by
  have kept := invariant_of_commits (I := fun rows _ => Administered rows)
    (P := fun resource record => record.resource = resource) reached administered
    (fun _ _ known => known.placed)
    fun shared id client wanted sound known readBy commits remains =>
      ⟨placed_commit known.placed sound readBy commits, known.commit sound readBy commits remains⟩
  exact kept.2.administrator

def administrators : Resource → Option Record := fun resource =>
  if resource = .user 1 then some (.user ⟨1, "first@example.com", "First", .admin, true⟩)
  else if resource = .user 2 then some (.user ⟨2, "second@example.com", "Second", .admin, true⟩)
  else none

theorem administrators_administered : Administered administrators where
  placed resource record present := by
    unfold administrators at present
    split at present
    · next user =>
      cases present
      exact user.symm
    · split at present
      · next user =>
        cases present
        exact user.symm
      · cases present
  administrator := ⟨1, ⟨1, "first@example.com", "First", .admin, true⟩, rfl, rfl⟩

def demotions : List (Action Request) :=
  [.start 0 (.call 1 (.updateUserRole 2 .viewer)), .start 1 (.call 2 (.updateUserRole 1 .viewer)),
    .execute 0, .execute 0, .execute 1, .execute 1, .execute 0, .execute 0, .execute 1, .execute 1]

def demoted : Resource → Option Record :=
  Function.update (Function.update administrators
    (.user 2) (some (.user ⟨2, "second@example.com", "Second", .viewer, true⟩)))
    (.user 1) (some (.user ⟨1, "first@example.com", "First", .viewer, true⟩))

theorem no_administrator_left : ∃ state : Backend,
    Run (fun a action b => a.step program action = some b) (initial administrators) demotions state ∧
    ¬∃ administrator, IsAdministrator state.store.committed administrator := by
  have ending : ((demotions.foldlM (Shared.step program) (initial administrators)).map
      fun state => state.store.committed) = some demoted := rfl
  obtain ⟨state, found, rows⟩ := Option.map_eq_some_iff.mp ending
  refine ⟨state, .of_foldlM found, ?_⟩
  rintro ⟨administrator, user, stored, active⟩
  rw [rows, demoted] at stored
  simp only [Function.update_apply, administrators] at stored
  split at stored
  · cases stored
    cases active
  · split at stored
    · cases stored
      cases active
    · cases stored

theorem demotion_permitted
    (request : (state.clients 0).map Client.request = some (.call 1 (.updateUserRole 2 .viewer)))
    (still : IsAdministrator state.store.committed 1) :
    Permits program CallerRemains state (.execute 0) := by
  intro id client wanted executed commits
  cases executed
  rw [commits.present, Option.map_some, Option.some.injEq] at request
  refine ⟨fun caller userId role asked => ?_, fun caller userId isActive asked => ?_⟩
  · rw [request] at asked
    cases asked
    exact still
  · rw [request] at asked
    cases asked

theorem administrator_remains_alone : ∃ state : Backend,
    Reached (fun a action b => a.step program action = some b ∧ Permits program CallerRemains a action)
      (initial administrators) state ∧
    state.store.committed = Function.update administrators (.user 2)
      (some (.user ⟨2, "second@example.com", "Second", .viewer, true⟩)) ∧
    ∃ administrator, IsAdministrator state.store.committed administrator := by
  have first : IsAdministrator administrators 1 :=
    ⟨⟨1, "first@example.com", "First", .admin, true⟩, rfl, rfl⟩
  have start : (initial administrators).step program
      (.start 0 (.call 1 (.updateUserRole 2 .viewer))) = some _ := rfl
  have run : Reached (fun a action b => a.step program action = some b ∧
      Permits program CallerRemains a action) (initial administrators) _ :=
    (((((Reached.refl _).tail ⟨start, by simp [Permits]⟩).tail ⟨rfl, demotion_permitted rfl first⟩).tail
      ⟨rfl, demotion_permitted rfl first⟩).tail ⟨rfl, demotion_permitted rfl first⟩).tail
      ⟨rfl, demotion_permitted rfl first⟩
  exact ⟨_, run, rfl, administrator_remains administrators administrators_administered _ run⟩

end CareerProjects.CloudOperations
