import CareerProjects.Warehouse.Reservations
import CareerProjects.Warehouse.Transactions

/-! Every commit is an atomic operation. A session that gets as far as writing holds
all the rows it loaded, so no other session has written them since, and nobody else
has added a movement to its balances since it summed them. -/

namespace CareerProjects.Warehouse

open Library

namespace Database

@[simp] theorem goto_products (database : Database) (id : SessionId) (session : Session)
    (phase : Phase) : (database.goto id session phase).products = database.products := rfl

@[simp] theorem goto_balances (database : Database) (id : SessionId) (session : Session)
    (phase : Phase) : (database.goto id session phase).balances = database.balances := rfl

@[simp] theorem goto_movements (database : Database) (id : SessionId) (session : Session)
    (phase : Phase) : (database.goto id session phase).movements = database.movements := rfl

@[simp] theorem goto_sessions_self (database : Database) (id : SessionId) (session : Session)
    (phase : Phase) : (database.goto id session phase).sessions id =
      some { session with phase := phase } :=
  Function.update_self ..

theorem goto_sessions_of_ne (database : Database) {id other : SessionId} (session : Session)
    (phase : Phase) (different : other ≠ id) :
    (database.goto id session phase).sessions other = database.sessions other :=
  Function.update_of_ne different ..

/-- What the other sessions keep when session `id` takes a step. -/
structure Frame (id : SessionId) (database database' : Database) : Prop where
  products : database'.products = database.products
  sessions : ∀ other, other ≠ id → database'.sessions other = database.sessions other
  holder : ∀ other, other ≠ id → ∀ key,
    database'.balances.holder key = some other ↔ database.balances.holder key = some other
  committed : ∀ key, database.balances.holder key ≠ some id →
    database'.balances.committed key = database.balances.committed key
  present : ∀ key, (database.balances.committed key).isSome →
    (database'.balances.committed key).isSome
  movements : ∃ more, database'.movements = database.movements ++ more ∧
    ∀ movement ∈ more, database.balances.holder movement.key = some id

/-- The three ways in which a statement touches the balance rows without committing. -/
inductive Statement (id : SessionId) (operation : StockOperation)
    (store : RowStore SessionId BalanceKey InventoryBalance) :
    RowStore SessionId BalanceKey InventoryBalance → Prop
  | read : Statement id operation store store
  | insert {key store'} (inserts : operation.insertsIfMissing = some key)
      (done : store.insertIfMissing id key = some store') : Statement id operation store store'
  | lock {key store'} (done : store.lock id key = some store') :
      Statement id operation store store'
  | rollback : Statement id operation store (store.rollback id)

theorem Statement.committed {id : SessionId} {operation : StockOperation}
    {store store' : RowStore SessionId BalanceKey InventoryBalance}
    (h : Statement id operation store store') : store'.committed = store.committed := by
  cases h with
  | read => rfl
  | insert _ done => exact RowStore.insertIfMissing_committed done
  | lock done => exact RowStore.lock_committed done
  | rollback => rfl

theorem Statement.holder_of_ne {id other : SessionId} {operation : StockOperation}
    {store store' : RowStore SessionId BalanceKey InventoryBalance}
    (h : Statement id operation store store') (different : other ≠ id) (key : BalanceKey) :
    store'.holder key = some other ↔ store.holder key = some other := by
  cases h with
  | read => rfl
  | insert _ done => exact RowStore.insertIfMissing_holder_of_ne done different
  | lock done => exact RowStore.lock_holder_of_ne done different
  | rollback => exact RowStore.rollback_holder_of_ne different

theorem Frame.of_statement {database : Database} {id : SessionId} {session : Session}
    {store : RowStore SessionId BalanceKey InventoryBalance} {operation : StockOperation}
    (h : Statement id operation database.balances store) (phase : Phase) :
    Frame id database ({ database with balances := store }.goto id session phase) where
  products := rfl
  sessions other different := goto_sessions_of_ne _ session phase different
  holder other different key := h.holder_of_ne different key
  committed key _ := congrFun h.committed key
  present key := by
    rw [goto_balances, h.committed]
    exact fun old => old
  movements := ⟨[], by simp⟩

/-- The statements a session executes before its commit, by the phase they lead to. -/
inductive Executes (id : SessionId) (session : Session) (database : Database) :
    RowStore SessionId BalanceKey InventoryBalance → Phase → Prop
  | productNotFound (phase : session.phase = .lookup)
      (missing : database.products session.request.operation.productId = none) :
      Executes id session database (database.balances.rollback id)
        (.raised (.productNotFound session.request.operation.productId))
  | productFound (phase : session.phase = .lookup)
      (found : (database.products session.request.operation.productId).isSome) :
      Executes id session database database.balances .insert
  | nothingToInsert (phase : session.phase = .insert)
      (inserts : session.request.operation.insertsIfMissing = none) :
      Executes id session database database.balances .select
  | inserted {key store} (phase : session.phase = .insert)
      (inserts : session.request.operation.insertsIfMissing = some key)
      (done : database.balances.insertIfMissing id key = some store) :
      Executes id session database store .select
  | selected {found} (phase : session.phase = .select)
      (rows : found = session.request.operation.locks.filter (database.balances.visible id)) :
      Executes id session database database.balances (.lock found found)
  | locked {found key waiting store} (phase : session.phase = .lock found (key :: waiting))
      (done : database.balances.lock id key = some store) :
      Executes id session database store (.lock found waiting)
  | loadedAll {found} (phase : session.phase = .lock found []) :
      Executes id session database database.balances (.aggregate found)
  | aggregated {found} (phase : session.phase = .aggregate found) :
      Executes id session database database.balances
        (.commit found (session.request.operation.sums database.movements))
  | refreshed {waiting refreshed after} (phase : session.phase = .refresh waiting refreshed)
      (ends : (∃ more done, after = .refresh more done) ∨ after.finished = true) :
      Executes id session database database.balances after

theorem execute_cases {database database' : Database} {id : SessionId}
    (h : database.execute id = some database') :
    ∃ session store phase, database.sessions id = some session ∧
      Executes id session database store phase ∧
      database' = { database with balances := store }.goto id session phase := by
  simp only [execute, Option.bind_eq_some_iff] at h
  obtain ⟨session, present, h⟩ := h
  refine ⟨session, ?_⟩
  cases at_phase : session.phase with
  | lookup =>
    simp only [at_phase] at h
    cases found : database.products session.request.operation.productId with
    | none =>
      simp only [found, Option.some.injEq] at h
      exact ⟨_, _, present, .productNotFound at_phase found, h.symm⟩
    | some product =>
      simp only [found, Option.some.injEq] at h
      exact ⟨_, _, present, .productFound at_phase (by simp [found]), h.symm⟩
  | insert =>
    simp only [at_phase] at h
    cases inserts : session.request.operation.insertsIfMissing with
    | none =>
      simp only [inserts, Option.some.injEq] at h
      exact ⟨_, _, present, .nothingToInsert at_phase inserts, h.symm⟩
    | some key =>
      simp only [inserts, Option.map_eq_some_iff] at h
      obtain ⟨store, done, rfl⟩ := h
      exact ⟨_, _, present, .inserted at_phase inserts done, rfl⟩
  | select =>
    simp only [at_phase, Option.some.injEq] at h
    exact ⟨_, _, present, .selected at_phase rfl, h.symm⟩
  | lock found waiting =>
    cases waiting with
    | nil =>
      simp only [at_phase, Option.some.injEq] at h
      exact ⟨_, _, present, .loadedAll at_phase, h.symm⟩
    | cons key waiting =>
      simp only [at_phase, Option.map_eq_some_iff] at h
      obtain ⟨store, done, rfl⟩ := h
      exact ⟨_, _, present, .locked at_phase done, rfl⟩
  | aggregate found =>
    simp only [at_phase, Option.some.injEq] at h
    exact ⟨_, _, present, .aggregated at_phase, h.symm⟩
  | commit found reserved => simp [at_phase] at h
  | refresh waiting refreshed =>
    cases waiting with
    | nil =>
      simp only [at_phase, Option.some.injEq] at h
      exact ⟨_, _, present, .refreshed at_phase (.inr rfl), h.symm⟩
    | cons posting waiting =>
      simp only [at_phase] at h
      cases row : database.balances.committed posting.key with
      | none =>
        simp only [row, Option.some.injEq] at h
        exact ⟨_, _, present, .refreshed at_phase (.inr rfl), h.symm⟩
      | some balance =>
        simp only [row, Option.some.injEq] at h
        exact ⟨_, _, present, .refreshed at_phase (.inl ⟨_, _, rfl⟩), h.symm⟩
  | returned result => simp [at_phase] at h
  | raised error => simp [at_phase] at h

theorem Executes.statement {id : SessionId} {session : Session} {database : Database}
    {store : RowStore SessionId BalanceKey InventoryBalance} {phase : Phase}
    (h : Executes id session database store phase) :
    Statement id session.request.operation database.balances store := by
  cases h with
  | productNotFound => exact .rollback
  | inserted _ inserts done => exact .insert inserts done
  | locked _ done => exact .lock done
  | _ => exact .read

/-- A session's decision: it raises and rolls back, or it writes and commits. -/
theorem commit_cases {database database' : Database} {id : SessionId} {draw : Draw}
    (h : database.commit id draw = some database') :
    ∃ session found reserved, database.sessions id = some session ∧
      session.phase = .commit found reserved ∧
      ((∃ error, session.request.operation.change draw session.startedAt
          (database.loaded id found) reserved = .error error ∧
        database' = database.rollback id session error) ∨
      ∃ postings, session.request.operation.change draw session.startedAt
          (database.loaded id found) reserved = .ok postings ∧
        draw.Fresh database.movements ∧
        database' = { database with
          balances := database.balances.commit .empty id (writtenBalance postings)
          movements := database.movements ++ postings.map Posting.movement }.goto id session
            (.refresh postings [])) := by
  simp only [commit, Option.bind_eq_some_iff] at h
  obtain ⟨session, present, h⟩ := h
  split at h
  · next found reserved phase =>
    refine ⟨session, found, reserved, present, phase, ?_⟩
    split at h
    · next error change =>
      exact .inl ⟨error, change, (Option.some.inj h).symm⟩
    · next postings change =>
      split at h
      · next fresh => exact .inr ⟨postings, change, fresh, (Option.some.inj h).symm⟩
      · cases h
  · cases h

theorem loaded_eq_some {database : Database} {id : SessionId} {found : List BalanceKey}
    {key : BalanceKey} {row : InventoryBalance} (h : database.loaded id found key = some row) :
    database.balances.holder key = some id ∧
      row = (database.balances.committed key).getD .empty := by
  rw [loaded] at h
  split at h
  · obtain ⟨held, value⟩ := RowStore.own_eq_some.mp h
    exact ⟨held, value.symm⟩
  · cases h

theorem posted_holder {database : Database} {id : SessionId} {session : Session}
    {found : List BalanceKey} {reserved : Int} {draw : Draw} {postings : List Posting}
    (change : session.request.operation.change draw session.startedAt
      (database.loaded id found) reserved = .ok postings) :
    ∀ posting ∈ postings, database.balances.holder posting.key = some id ∧
      posting.movement.key = posting.key := by
  intro posting member
  obtain ⟨row, load, posts, -⟩ := (StockRequest.posted change).posts posting member
  exact ⟨(loaded_eq_some load).1, posts.key⟩

theorem Frame.of_step {database database' : Database} {action : Action}
    (h : database.step action = some database') :
    Frame action.session database database' := by
  cases action with
  | start id request startedAt =>
    simp only [step, start] at h
    split at h
    · cases h
    · cases h
      exact .of_statement (@Statement.read id request.operation _) _
  | execute id =>
    obtain ⟨session, store, phase, -, executes, rfl⟩ := execute_cases h
    exact .of_statement executes.statement phase
  | commit id draw =>
    obtain ⟨session, found, reserved, -, -, ⟨error, -, rfl⟩ | ⟨postings, change, -, rfl⟩⟩ :=
      commit_cases h
    · exact .of_statement (@Statement.rollback id session.request.operation _) _
    · refine ⟨rfl, fun other different => goto_sessions_of_ne _ session _ different,
        fun other different key => RowStore.commit_holder_of_ne different,
        fun key unheld => RowStore.commit_committed_of_not_held unheld, fun key old => ?_,
        _, rfl, ?_⟩
      · by_cases held : database.balances.holder key = some id
        · simp [RowStore.commit_committed_of_held held]
        · rw [goto_balances, RowStore.commit_committed_of_not_held held]
          exact old
      · intro movement member
        obtain ⟨posting, written, rfl⟩ := List.mem_map.mp member
        obtain ⟨held, key⟩ := posted_holder change posting written
        rw [key]
        exact held
  | fail id =>
    simp only [step, fail, Option.bind_eq_some_iff] at h
    obtain ⟨session, -, h⟩ := h
    split at h
    · cases h
    · cases h
      exact .of_statement (@Statement.rollback id session.request.operation _) _

theorem insertsIfMissing_mem_locks {request : StockRequest} {key : BalanceKey}
    (h : request.operation.insertsIfMissing = some key) : key ∈ request.operation.locks := by
  cases request with
  | receipt => simpa [StockRequest.operation, receiveStock, eq_comm] using h
  | transfer request =>
    simp only [StockRequest.operation, transferStock, Option.some.injEq] at h ⊢
    split <;> simp [h]
  | issue | reservation | release => cases h

theorem sumsReference_mem_locks {request : StockRequest} {key : BalanceKey} {referenceId : String}
    (h : request.operation.sumsReference = some (key, referenceId)) :
    key ∈ request.operation.locks := by
  cases request with
  | reservation | release =>
    simp only [StockRequest.operation, reserveStock, releaseStock, Option.some.injEq,
      Prod.mk.injEq] at h ⊢
    simp [h.1]
  | receipt | issue | transfer => cases h

theorem sums_append {request : StockRequest} {movements more : List StockMovement}
    (others : ∀ movement ∈ more, movement.key ∉ request.operation.locks) :
    request.operation.sums (movements ++ more) = request.operation.sums movements := by
  rw [StockOperation.sums, StockOperation.sums]
  split
  · rfl
  · next key referenceId sums =>
    rw [referenceReservedQuantity_append]
    have locked := sumsReference_mem_locks sums
    have nothing : referenceReservedQuantity more key referenceId = 0 := by
      refine sumWhere_eq_zero fun movement member chosen => ?_
      simp only [Bool.and_eq_true, beq_iff_eq] at chosen
      exact absurd (chosen.1.1 ▸ locked) (others movement member)
    rw [nothing, add_zero]

/-- What the completed statements of a session guarantee. -/
def Knows (database : Database) (id : SessionId) (request : StockRequest) : Phase → Prop
  | .insert | .select =>
    (database.products request.operation.productId).isSome
  | .lock found waiting =>
    (database.products request.operation.productId).isSome ∧
      (∀ key ∈ waiting, key ∈ request.operation.locks ∧
        ((database.balances.committed key).isSome ∨ database.balances.holder key = some id)) ∧
      ∀ key ∈ found, key ∈ waiting ∨ database.balances.holder key = some id
  | .aggregate found =>
    (database.products request.operation.productId).isSome ∧
      ∀ key ∈ found, database.balances.holder key = some id
  | .commit found reserved =>
    (database.products request.operation.productId).isSome ∧
      ((∀ key ∈ request.operation.locks, database.balances.holder key = some id) →
        reserved = request.operation.sums database.movements) ∧
      ∀ key ∈ found, database.balances.holder key = some id
  | .lookup | .refresh _ _ | .returned _ | .raised _ => True

structure SessionSound (database : Database) (id : SessionId) (session : Session) : Prop where
  held : ∀ key, database.balances.holder key = some id → key ∈ session.request.operation.locks ∧
    (database.balances.committed key = none →
      session.request.operation.insertsIfMissing = some key)
  knows : database.Knows id session.request session.phase

structure Isolated (database : Database) : Prop where
  sessions : ∀ id session, database.sessions id = some session → SessionSound database id session
  holders : ∀ key id, database.balances.holder key = some id → (database.sessions id).isSome

theorem Isolated.initial (products : Uuid → Option Product) : Isolated (initial products) where
  sessions id session present := by cases present
  holders key id held := by cases held

theorem Frame.committed_none {id : SessionId} {database database' : Database}
    (frame : Frame id database database') {key : BalanceKey}
    (h : database'.balances.committed key = none) : database.balances.committed key = none := by
  cases before : database.balances.committed key with
  | none => rfl
  | some row =>
    have present := frame.present key (by simp [before])
    simp [h] at present

theorem SessionSound.of_frame {id other : SessionId} {database database' : Database}
    {session : Session} (h : SessionSound database other session)
    (frame : Frame id database database') (different : other ≠ id) :
    SessionSound database' other session where
  held key holds := by
    obtain ⟨locked, inserted⟩ := h.held key ((frame.holder other different key).mp holds)
    exact ⟨locked, fun missing => inserted (frame.committed_none missing)⟩
  knows := by
    have knows := h.knows
    cases phase : session.phase with
    | insert | select =>
      simp only [phase, Knows] at knows ⊢
      rw [frame.products]
      exact knows
    | aggregate found =>
      simp only [phase, Knows] at knows ⊢
      rw [frame.products]
      exact ⟨knows.1, fun key member => (frame.holder other different key).mpr (knows.2 key member)⟩
    | lock found waiting =>
      simp only [phase, Knows] at knows ⊢
      rw [frame.products]
      refine ⟨knows.1, fun key member => ⟨(knows.2.1 key member).1, ?_⟩, fun key member => ?_⟩
      · refine (knows.2.1 key member).2.imp (frame.present key) fun holds => ?_
        exact (frame.holder other different key).mpr holds
      · exact (knows.2.2 key member).imp_right (frame.holder other different key).mpr
    | commit found reserved =>
      simp only [phase, Knows] at knows ⊢
      rw [frame.products]
      refine ⟨knows.1, fun holds => ?_, fun key member =>
        (frame.holder other different key).mpr (knows.2.2 key member)⟩
      have held : ∀ key ∈ session.request.operation.locks,
          database.balances.holder key = some other :=
        fun key locked => (frame.holder other different key).mp (holds key locked)
      obtain ⟨more, movements, writer⟩ := frame.movements
      rw [movements, sums_append, knows.2.1 held]
      intro movement member locked
      have two := (held movement.key locked).symm.trans (writer movement member)
      exact different (Option.some.inj two)
    | lookup | refresh | returned | raised => trivial

theorem Executes.held {id : SessionId} {session : Session} {database : Database}
    {store : RowStore SessionId BalanceKey InventoryBalance} {phase : Phase}
    (executes : Executes id session database store phase)
    (h : SessionSound database id session) (key : BalanceKey) (holds : store.holder key = some id) :
    key ∈ session.request.operation.locks ∧ (database.balances.committed key = none →
      session.request.operation.insertsIfMissing = some key) := by
  cases executes with
  | productNotFound => exact h.held key (RowStore.release_eq_some holds).1
  | inserted _ inserts done =>
    rcases RowStore.insertIfMissing_holder done holds with before | ⟨rfl, -⟩
    · exact h.held key before
    · exact ⟨insertsIfMissing_mem_locks inserts, fun _ => inserts⟩
  | locked at_phase done =>
    rw [RowStore.lock_holder done] at holds
    split at holds
    · next same =>
      subst same
      have knows := h.knows
      rw [at_phase] at knows
      obtain ⟨locked, present | before⟩ := knows.2.1 key List.mem_cons_self
      · exact ⟨locked, fun missing => by simp [missing] at present⟩
      · exact h.held key before
    · exact h.held key holds
  | _ => exact h.held key holds

theorem Executes.knows {id : SessionId} {session : Session} {database : Database}
    {store : RowStore SessionId BalanceKey InventoryBalance} {phase : Phase}
    (executes : Executes id session database store phase)
    (h : SessionSound database id session) :
    ({ database with balances := store }.goto id session phase).Knows id
      session.request phase := by
  have knows := h.knows
  cases executes with
  | productNotFound => trivial
  | productFound _ found => exact found
  | nothingToInsert at_phase => rwa [at_phase] at knows
  | inserted at_phase => rwa [at_phase] at knows
  | selected at_phase rows =>
    rw [at_phase] at knows
    refine ⟨knows, fun key member => ?_, fun key member => .inl member⟩
    rw [rows, List.mem_filter] at member
    simpa [RowStore.visible] using member
  | locked at_phase done =>
    rw [at_phase] at knows
    have kept : ∀ {key}, database.balances.holder key = some id → store.holder key = some id := by
      intro key before
      rw [RowStore.lock_holder done]
      simp [before]
    refine ⟨knows.1, fun key member => ?_, fun key member => ?_⟩
    · obtain ⟨locked, visible⟩ := knows.2.1 key (List.mem_cons_of_mem _ member)
      refine ⟨locked, visible.imp (fun present => ?_) kept⟩
      rwa [goto_balances, RowStore.lock_committed done]
    · rcases knows.2.2 key member with waits | before
      · rcases List.mem_cons.mp waits with rfl | waits
        · refine .inr ?_
          rw [goto_balances, RowStore.lock_holder done, if_pos rfl]
        · exact .inl waits
      · exact .inr (kept before)
  | loadedAll at_phase =>
    rw [at_phase] at knows
    refine ⟨knows.1, fun key member => ?_⟩
    simpa using knows.2.2 key member
  | aggregated at_phase =>
    rw [at_phase] at knows
    exact ⟨knows.1, fun _ => rfl, knows.2⟩
  | refreshed _ ends =>
    rcases ends with ⟨more, done, rfl⟩ | finished
    · trivial
    · cases phase <;> trivial

theorem SessionSound.released {database : Database} {id : SessionId} {session : Session}
    (unheld : ∀ key, database.balances.holder key ≠ some id)
    (knows : database.Knows id session.request session.phase) : SessionSound database id session :=
  ⟨fun key held => absurd held (unheld key), knows⟩

theorem release_ne (store : RowStore SessionId BalanceKey InventoryBalance) (id : SessionId)
    (key : BalanceKey) : store.release id key ≠ some id :=
  fun held => (RowStore.release_eq_some held).2 rfl

theorem Isolated.step {database database' : Database} (h : Isolated database) {action : Action}
    (step : database.step action = some database') : Isolated database' := by
  have frame := Frame.of_step step
  -- the session that moved is re-established; the others are framed
  suffices own : ∃ session, database'.sessions action.session = some session ∧
      SessionSound database' action.session session by
    obtain ⟨session, present, sound⟩ := own
    refine ⟨fun other found found_other => ?_, fun key other held => ?_⟩
    · by_cases same : other = action.session
      · subst same
        rw [present, Option.some.injEq] at found_other
        exact found_other ▸ sound
      · rw [frame.sessions other same] at found_other
        exact (h.sessions other found found_other).of_frame frame same
    · by_cases same : other = action.session
      · simp [same, present]
      · rw [frame.sessions other same]
        exact h.holders key other ((frame.holder other same key).mp held)
  cases action with
  | start id request startedAt =>
    simp only [Database.step, start] at step
    split at step
    · cases step
    · next absent =>
      cases step
      refine ⟨_, goto_sessions_self .., .released (fun key held => ?_) trivial⟩
      have someone := h.holders key id held
      simp [absent] at someone
  | execute id =>
    obtain ⟨session, store, phase, present, executes, rfl⟩ := execute_cases step
    have sound := h.sessions id session present
    refine ⟨_, goto_sessions_self .., fun key held => ?_, executes.knows sound⟩
    obtain ⟨locked, inserts⟩ := executes.held sound key held
    exact ⟨locked, fun missing => inserts (frame.committed_none missing)⟩
  | commit id draw =>
    obtain ⟨session, found, reserved, -, -, ⟨error, -, rfl⟩ | ⟨postings, -, -, rfl⟩⟩ :=
      commit_cases step
    · exact ⟨_, goto_sessions_self .., .released (release_ne _ id) trivial⟩
    · exact ⟨_, goto_sessions_self .., .released (release_ne _ id) trivial⟩
  | fail id =>
    simp only [Database.step, fail, Option.bind_eq_some_iff] at step
    obtain ⟨session, -, step⟩ := step
    split at step
    · cases step
    · cases step
      exact ⟨_, goto_sessions_self .., .released (release_ne _ id) trivial⟩

theorem Isolated.of_reachable {products : Uuid → Option Product} {database : Database}
    (h : Reachable products database) : Isolated database :=
  h.invariant (.initial products) fun _ _ _ inv step => inv.step step

theorem writtenBalance_cons (posting : Posting) (postings : List Posting) (key : BalanceKey) :
    writtenBalance (posting :: postings) key =
      if posting.key = key then some posting.balance else writtenBalance postings key := by
  by_cases same : posting.key = key <;> simp [writtenBalance, same]

theorem writtenBalance_eq_none {postings : List Posting} {key : BalanceKey} :
    writtenBalance postings key = none ↔ key ∉ postings.map Posting.key := by
  induction postings with
  | nil => simp [writtenBalance]
  | cons posting postings ih =>
    rw [writtenBalance_cons]
    by_cases same : posting.key = key
    · simp [same]
    · simp [same, ih, Ne.symm same]

theorem post_balances (inventory : Inventory) {postings : List Posting}
    (distinct : (postings.map Posting.key).Nodup) (key : BalanceKey) :
    (inventory.post postings).balances key =
      (writtenBalance postings key).or (inventory.balances key) := by
  induction postings generalizing inventory with
  | nil => simp [Inventory.post, writtenBalance]
  | cons posting postings ih =>
    rw [List.map_cons, List.nodup_cons] at distinct
    have rest := ih (inventory.record posting) distinct.2
    rw [Inventory.record_balances] at rest
    rw [writtenBalance_cons]
    by_cases same : key = posting.key
    · subst same
      have unwritten := writtenBalance_eq_none.mpr distinct.1
      simpa [Inventory.post, unwritten] using rest
    · simpa [Inventory.post, same, Ne.symm same] using rest

theorem loads_eq_loaded {database : Database} {id : SessionId} {session : Session}
    (sound : SessionSound database id session) {found : List BalanceKey}
    (all : ∀ key ∈ session.request.operation.locks,
      ∃ row, database.loaded id found key = some row) :
    session.request.operation.loads database.inventory = database.loaded id found := by
  funext key
  rw [StockOperation.loads]
  by_cases locked : key ∈ session.request.operation.locks
  · obtain ⟨row, load⟩ := all key locked
    obtain ⟨held, rfl⟩ := loaded_eq_some load
    rw [load, if_neg (not_not.mpr locked)]
    by_cases inserts : session.request.operation.insertsIfMissing = some key
    · rw [if_pos inserts]
      rfl
    · rw [if_neg inserts]
      cases row : database.balances.committed key with
      | none => exact absurd ((sound.held key held).2 row) inserts
      | some balance => simp [inventory, row]
  · rw [if_pos locked]
    cases load : database.loaded id found key with
    | none => rfl
    | some row => exact absurd (sound.held key (loaded_eq_some load).1).1 locked

theorem commit_inventory {database : Database} {id : SessionId} {session : Session}
    (sound : SessionSound database id session) {found : List BalanceKey} {reserved : Int}
    (phase : session.phase = .commit found reserved) {draw : Draw} {postings : List Posting}
    (change : session.request.operation.change draw session.startedAt
      (database.loaded id found) reserved = .ok postings) :
    session.request.operation.run draw session.startedAt database.inventory = .ok (postings,
      ⟨database.products, (database.balances.commit .empty id (writtenBalance postings)).committed,
        database.movements ++ postings.map Posting.movement⟩) := by
  have posted := StockRequest.posted change
  have all : ∀ key ∈ session.request.operation.locks,
      ∃ row, database.loaded id found key = some row := by
    intro key locked
    obtain ⟨posting, member, rfl⟩ := List.mem_map.mp ((posted.locked key).mpr locked)
    obtain ⟨row, load, -⟩ := posted.posts posting member
    exact ⟨row, load⟩
  have knows := sound.knows
  rw [phase] at knows
  have summed : reserved = session.request.operation.sums database.movements :=
    knows.2.1 fun key locked => (loaded_eq_some (all key locked).choose_spec).1
  rw [Inventory.run_ok]
  refine ⟨knows.1, ?_, ?_⟩
  · rw [loads_eq_loaded sound all, ← change, summed]
    rfl
  · rw [Inventory.ext_iff]
    refine ⟨(Inventory.post_products database.inventory postings).symm, ?_,
      (Inventory.post_movements database.inventory postings).symm⟩
    funext key
    rw [post_balances _ posted.distinct]
    dsimp only
    by_cases held : database.balances.holder key = some id
    · rw [RowStore.commit_committed_of_held held]
      cases written : writtenBalance postings key with
      | none =>
        have locked := (posted.locked key).mpr (sound.held key held).1
        exact absurd locked (writtenBalance_eq_none.mp written)
      | some balance => simp
    · rw [RowStore.commit_committed_of_not_held held]
      have unwritten : writtenBalance postings key = none := by
        refine writtenBalance_eq_none.mpr fun member => held ?_
        obtain ⟨posting, written, rfl⟩ := List.mem_map.mp member
        exact (posted_holder change posting written).1
      simp [unwritten, inventory]

/-- A step commits one operation of its session atomically, or it changes nothing that
other transactions see. -/
theorem step_inventory {database database' : Database} (h : Isolated database) {action : Action}
    (step : database.step action = some database') :
    database'.inventory = database.inventory ∨
    ∃ draw session postings, action = .commit action.session draw ∧
      database.sessions action.session = some session ∧
      database'.sessions action.session = some { session with phase := .refresh postings [] } ∧
      draw.Fresh database.movements ∧
      session.request.operation.run draw session.startedAt database.inventory =
        .ok (postings, database'.inventory) := by
  cases action with
  | start id request startedAt =>
    simp only [Database.step, start] at step
    split at step
    · cases step
    · cases step
      exact .inl rfl
  | execute id =>
    obtain ⟨session, store, phase, -, executes, rfl⟩ := execute_cases step
    refine .inl ?_
    simp only [inventory, goto_products, goto_balances, goto_movements,
      executes.statement.committed]
  | commit id draw =>
    obtain ⟨session, found, reserved, present, phase,
      ⟨error, -, rfl⟩ | ⟨postings, change, fresh, rfl⟩⟩ := commit_cases step
    · exact .inl rfl
    · refine .inr ⟨draw, session, postings, rfl, present, goto_sessions_self .., fresh, ?_⟩
      exact commit_inventory (h.sessions id session present) phase change
  | fail id =>
    simp only [Database.step, fail, Option.bind_eq_some_iff] at step
    obtain ⟨session, -, step⟩ := step
    split at step
    · cases step
    · cases step
      exact .inl rfl

end Database

/-- The inventories that a sequence of atomic operations reaches from empty tables. -/
def Inventory.Reachable (products : Uuid → Option Product) (inventory : Inventory) : Prop :=
  Reached (fun a request b => a.Commits request b) (empty products) inventory

theorem Inventory.Reachable.sound {products : Uuid → Option Product} {inventory : Inventory}
    (h : inventory.Reachable products) : Sound inventory :=
  h.invariant (.empty products) fun _ _ _ sound commits => sound.commits commits

theorem Database.Reachable.inventory {products : Uuid → Option Product} {database : Database}
    (h : Database.Reachable products database) : database.inventory.Reachable products := by
  obtain ⟨labels, run⟩ := h
  have matched : ∀ a action b inventory, Isolated a ∧ a.inventory = inventory →
      a.step action = some b → ∃ inventory',
        Reached (fun c request d => Inventory.Commits c request d) inventory inventory' ∧
          Isolated b ∧ b.inventory = inventory' := by
    rintro a action b inventory ⟨isolated, rfl⟩ step
    have isolated' := isolated.step step
    rcases step_inventory isolated step with quiet |
      ⟨draw, session, postings, -, -, -, fresh, atomic⟩
    · exact ⟨_, .refl _, isolated', quiet⟩
    · exact ⟨_, .tail (.refl _) ⟨draw, session.startedAt, postings, fresh, atomic⟩,
        isolated', rfl⟩
  obtain ⟨inventory, reached, -, same⟩ := run.simulate ⟨Isolated.initial products, rfl⟩ matched
  rw [Inventory.Reachable, same]
  exact reached

end CareerProjects.Warehouse
