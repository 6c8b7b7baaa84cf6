import CareerProjects.Warehouse.Isolation

/-! Stock transactions never wait for each other in a circle. Whoever waits for an insert holds nothing yet,
and whoever waits for a row already holds only rows of smaller warehouses, and the row it inserted itself,
which no select has seen. -/

namespace CareerProjects.Warehouse

open Library

namespace Database

def idle (inventory : Inventory) : Database :=
  ⟨inventory.products, ⟨inventory.balances, fun _ => none⟩, inventory.movements, fun _ => none⟩

/-- The databases that some interleaving of stock operations reaches from an inventory. -/
def ReachableFrom (inventory : Inventory) (database : Database) : Prop :=
  Reached (fun a action b => a.step action = some b) (idle inventory) database

def Unfinished (database : Database) (id : SessionId) : Prop :=
  ∃ session, database.sessions id = some session ∧ session.phase.finished = false

def Blocked (database : Database) (id : SessionId) : Prop :=
  ∃ session, database.sessions id = some session ∧ session.phase.finished = false ∧
    (∀ found reserved, session.phase ≠ .commit found reserved) ∧ database.execute id = none

/-- A transaction holds nothing before its insert and after its commit. Between its select and its last lock it
holds the rows that it has locked, in the order of the select, and one that nobody else has seen. -/
def Holds (database : Database) (id : SessionId) (request : StockRequest) : Phase → Prop
  | .select => ∀ key, database.balances.holder key = some id → database.balances.committed key = none
  | .lock _ waiting => ∃ done, (done ++ waiting).Sublist request.operation.locks ∧
      ∀ key, database.balances.holder key = some id → database.balances.committed key = none ∨ key ∈ done
  | .aggregate _ | .commit _ _ => True
  | .lookup | .insert | .refresh _ _ | .returned _ | .raised _ =>
    ∀ key, database.balances.holder key ≠ some id

structure Ordered (database : Database) : Prop where
  isolated : Isolated database
  holds : ∀ id session, database.sessions id = some session → database.Holds id session.request session.phase

theorem Holds.of_frame {id other : SessionId} {database database' : Database} {request : StockRequest} {phase : Phase}
    (holds : database.Holds other request phase) (frame : Frame id database database') (different : other ≠ id) :
    database'.Holds other request phase := by
  have same (key : BalanceKey) : database'.balances.holder key = some other ↔
      database.balances.holder key = some other := frame.holder other different key
  have committed (key : BalanceKey) (held : database.balances.holder key = some other) :
      database'.balances.committed key = database.balances.committed key :=
    frame.committed key (by simp [held, different])
  cases phase with
  | select =>
    intro key held
    rw [committed key ((same key).mp held)]
    exact holds key ((same key).mp held)
  | lock found waiting =>
    obtain ⟨done, order, locked⟩ := holds
    refine ⟨done, order, fun key held => ?_⟩
    rw [committed key ((same key).mp held)]
    exact locked key ((same key).mp held)
  | aggregate | commit => trivial
  | lookup | insert | refresh | returned | raised =>
    intro key held
    exact holds key ((same key).mp held)

theorem Executes.holds {id : SessionId} {session : Session} {database : Database}
    {store : RowStore SessionId BalanceKey InventoryBalance} {phase : Phase}
    (executes : Executes id session database store phase)
    (holds : database.Holds id session.request session.phase) :
    ({ database with balances := store }.goto id session phase).Holds id session.request phase := by
  cases executes with
  | productNotFound => exact release_ne _ id
  | productFound at_phase =>
    rw [at_phase] at holds
    exact holds
  | nothingToInsert at_phase =>
    rw [at_phase] at holds
    exact fun key held => absurd held (holds key)
  | @inserted inserted store at_phase _ done =>
    rw [at_phase] at holds
    intro key held
    rw [goto_balances] at held ⊢
    rw [RowStore.insertIfMissing_committed done]
    by_cases present : (database.balances.committed inserted).isSome = true
    · rw [RowStore.insertIfMissing, if_pos present, Option.some.injEq] at done
      rw [← done] at held
      exact absurd held (holds key)
    · rcases RowStore.insertIfMissing_holder done held with before | ⟨rfl, -⟩
      · exact absurd before (holds key)
      · simpa using present
  | selected at_phase rows =>
    rw [at_phase] at holds
    refine ⟨[], ?_, fun key held => .inl (holds key held)⟩
    rw [List.nil_append, rows]
    exact List.filter_sublist
  | @locked found locked waiting store at_phase done =>
    rw [at_phase] at holds
    obtain ⟨before, order, held⟩ := holds
    refine ⟨before ++ [locked], by simpa using order, fun key holder => ?_⟩
    rw [goto_balances, RowStore.lock_holder done] at holder
    rw [goto_balances, RowStore.lock_committed done, List.mem_append, List.mem_singleton]
    by_cases same : key = locked
    · exact .inr (.inr same)
    · rw [if_neg same] at holder
      exact (held key holder).imp_right .inl
  | loadedAll => trivial
  | aggregated => trivial
  | refreshed at_phase ends =>
    rw [at_phase] at holds
    rcases ends with ⟨more, done, rfl⟩ | finished
    · exact holds
    · cases phase with
      | returned | raised => exact holds
      | _ => cases finished

theorem Ordered.idle (inventory : Inventory) : Ordered (idle inventory) where
  isolated := ⟨fun id session present => (by cases present), fun key id held => (by cases held)⟩
  holds id session present := by cases present

theorem Ordered.step {database database' : Database} (ordered : Ordered database) {action : Action}
    (step : database.step action = some database') : Ordered database' := by
  have frame := Frame.of_step step
  refine ⟨ordered.isolated.step step, fun other session present => ?_⟩
  by_cases same : other = action.session
  · subst same
    cases action with
    | start id request startedAt =>
      simp only [Database.step, start] at step
      split at step
      · cases step
      · next absent =>
        cases step
        rw [Action.session, goto_sessions_self, Option.some.injEq] at present
        subst present
        intro key held
        have someone := ordered.isolated.holders key id held
        simp [absent] at someone
    | execute id =>
      obtain ⟨session', store, phase, before, executes, rfl⟩ := execute_cases step
      rw [Action.session, goto_sessions_self, Option.some.injEq] at present
      subst present
      exact executes.holds (ordered.holds id session' before)
    | commit id draw =>
      obtain ⟨session', found, reserved, -, -, ⟨error, -, rfl⟩ | ⟨postings, -, -, rfl⟩⟩ := commit_cases step
      · rw [Action.session, rollback, goto_sessions_self, Option.some.injEq] at present
        subst present
        exact release_ne _ id
      · rw [Action.session, goto_sessions_self, Option.some.injEq] at present
        subst present
        exact release_ne _ id
    | fail id =>
      simp only [Database.step, fail, Option.bind_eq_some_iff] at step
      obtain ⟨session', -, step⟩ := step
      split at step
      · cases step
      · cases step
        rw [Action.session, rollback, goto_sessions_self, Option.some.injEq] at present
        subst present
        exact release_ne _ id
  · rw [frame.sessions other same] at present
    exact (ordered.holds other session present).of_frame frame same

theorem ReachableFrom.ordered {inventory : Inventory} {database : Database}
    (reachable : ReachableFrom inventory database) : Ordered database :=
  reachable.invariant (.idle inventory) fun _ _ _ known step => known.step step

theorem blocked_cases {database : Database} {id : SessionId} (blocked : database.Blocked id) :
    ∃ session key other, database.sessions id = some session ∧ other ≠ id ∧
      database.balances.holder key = some other ∧
      (session.phase = .insert ∨ ∃ found waiting, session.phase = .lock found (key :: waiting)) := by
  obtain ⟨session, present, unfinished, undecided, waits⟩ := blocked
  simp only [execute, present, Option.bind_some] at waits
  cases at_phase : session.phase with
  | lookup =>
    simp only [at_phase] at waits
    split at waits <;> cases waits
  | insert =>
    simp only [at_phase] at waits
    cases inserts : session.request.operation.insertsIfMissing with
    | none => simp [inserts] at waits
    | some key =>
      simp only [inserts, Option.map_eq_none_iff] at waits
      obtain ⟨other, different, held⟩ := RowStore.lock_eq_none (RowStore.lock_of_insertIfMissing_eq_none waits)
      exact ⟨session, key, other, present, different, held, .inl at_phase⟩
  | select => simp [at_phase] at waits
  | lock found waiting =>
    cases waiting with
    | nil => simp [at_phase] at waits
    | cons key waiting =>
      simp only [at_phase, Option.map_eq_none_iff] at waits
      obtain ⟨other, different, held⟩ := RowStore.lock_eq_none waits
      exact ⟨session, key, other, present, different, held, .inr ⟨found, waiting, at_phase⟩⟩
  | aggregate found => simp [at_phase] at waits
  | commit found reserved => exact absurd at_phase (undecided found reserved)
  | refresh waiting refreshed =>
    cases waiting with
    | nil => simp [at_phase] at waits
    | cons posting waiting =>
      simp only [at_phase] at waits
      split at waits <;> cases waits
  | returned | raised => simp [at_phase, Phase.finished] at unfinished

theorem locks_ascending (request : StockRequest) :
    request.operation.locks.Pairwise fun a b => a.warehouseId < b.warehouseId := by
  cases request with
  | receipt | issue | reservation | release => exact List.pairwise_singleton _ _
  | transfer request =>
    have different := request.differentWarehouses
    simp only [StockRequest.operation, transferStock]
    by_cases order : request.sourceWarehouseId ≤ request.destinationWarehouseId
    · rw [if_pos order, List.pairwise_pair]
      exact BitVec.lt_of_le_ne order different
    · rw [if_neg order, List.pairwise_pair]
      exact BitVec.not_le.mp order

/-- The warehouse of the row that a transaction is about to lock; its insert comes before all of them. -/
def rank (database : Database) (id : SessionId) : ℕ :=
  match (database.sessions id).map Session.phase with
  | some (.lock _ (key :: _)) => key.warehouseId.toNat + 1
  | _ => 0

theorem rank_le (database : Database) (id : SessionId) : database.rank id ≤ 2 ^ 128 := by
  unfold rank
  split
  · next key _ _ => exact key.warehouseId.isLt
  · exact Nat.zero_le _

theorem Holds.unfinished {database : Database} {id : SessionId} {session : Session} {key : BalanceKey}
    (holds : database.Holds id session.request session.phase) (held : database.balances.holder key = some id) :
    session.phase.finished = false := by
  cases at_phase : session.phase with
  | returned | raised =>
    rw [at_phase] at holds
    exact absurd held (holds key)
  | _ => rfl

theorem Ordered.waits {database : Database} (ordered : Ordered database) {id : SessionId}
    (blocked : database.Blocked id) :
    ∃ other, database.Unfinished other ∧ (database.Blocked other → database.rank id < database.rank other) := by
  obtain ⟨session, key, other, present, different, held, waits⟩ := blocked_cases blocked
  obtain ⟨holder, holding⟩ := Option.isSome_iff_exists.mp (ordered.isolated.holders key other held)
  have holds := ordered.holds other holder holding
  refine ⟨other, ⟨holder, holding, holds.unfinished held⟩, fun waitsToo => ?_⟩
  obtain ⟨holder', key', third, holding', -, -, position⟩ := blocked_cases waitsToo
  obtain rfl : holder = holder' := Option.some.inj (holding.symm.trans holding')
  rcases position with at_insert | ⟨found', waiting', at_lock⟩
  · rw [at_insert] at holds
    exact absurd held (holds key)
  · rw [at_lock] at holds
    obtain ⟨done, order, locked⟩ := holds
    have rankOther : database.rank other = key'.warehouseId.toNat + 1 := by simp [rank, holding, at_lock]
    rcases waits with at_insert | ⟨found, waiting, at_phase⟩
    · have rankOwn : database.rank id = 0 := by simp [rank, present, at_insert]
      omega
    · have rankOwn : database.rank id = key.warehouseId.toNat + 1 := by simp [rank, present, at_phase]
      -- the row was visible to the select of the waiting transaction, so it is not a new one
      have knows := (ordered.isolated.sessions id session present).knows
      rw [at_phase] at knows
      have visible := (knows.2.1 key List.mem_cons_self).2
      have mine : database.balances.holder key ≠ some id := by simp [held, different]
      have stored : database.balances.committed key ≠ none := by
        simpa [mine, Option.isSome_iff_ne_none] using visible
      have before : key ∈ done := (locked key held).resolve_left stored
      have ascending := (locks_ascending holder.request).sublist order
      have less := (List.pairwise_append.mp ascending).2.2 key before key' List.mem_cons_self
      have lessNat : key.warehouseId.toNat < key'.warehouseId.toNat := less
      omega

end Database

/-- While some stock transaction is unfinished, one of the unfinished ones is not blocked. -/
theorem never_deadlocked {inventory : Inventory} {database : Database}
    (reachable : Database.ReachableFrom inventory database) (unfinished : ∃ id, database.Unfinished id) :
    ∃ id, database.Unfinished id ∧ ¬database.Blocked id := by
  obtain ⟨id, active⟩ := unfinished
  exact exists_ready database.rank_le (fun _ _ blocked => reachable.ordered.waits blocked) active

def twoWarehouses : Inventory where
  products := oneProduct
  balances key := if key = ⟨1, 2⟩ ∨ key = ⟨1, 3⟩ then some ⟨10, 0⟩ else none
  movements := []

def oppositeTransfers : List Database.Action :=
  [.start 0 (.transfer { transferOfThree with quantity := 4, quantityPositive := by decide }) 0,
    .start 1 (.transfer
      ⟨1, 3, 2, 5, none, none, fiveUnits.quantityPositive, fiveUnits.referenceLength, fiveUnits.reasonLength,
        by decide⟩) 0] ++
  List.replicate 4 (.execute 0) ++ List.replicate 3 (.execute 1)

theorem never_deadlocked_opposite : ∃ database, Database.ReachableFrom twoWarehouses database ∧
    (∃ id, database.Unfinished id) ∧ database.Blocked 1 ∧ ∃ id, database.Unfinished id ∧ ¬database.Blocked id := by
  have facts : (oppositeTransfers.foldlM Database.step (Database.idle twoWarehouses)).any (fun database =>
      (database.sessions 1).any (fun session => session.phase == .lock [⟨1, 2⟩, ⟨1, 3⟩] [⟨1, 2⟩, ⟨1, 3⟩]) &&
        (database.execute 1).isNone) = true := by
    decide +kernel
  simp only [Option.any_eq_true, Bool.and_eq_true, beq_iff_eq, Option.isNone_iff_eq_none] at facts
  obtain ⟨database, run, ⟨session, present, phase⟩, waits⟩ := facts
  have reachable : Database.ReachableFrom twoWarehouses database := Reached.of_foldlM run
  have active : session.phase.finished = false := by rw [phase]; rfl
  have blocked : database.Blocked 1 := ⟨session, present, active, by simp [phase], waits⟩
  have unfinished : ∃ id, database.Unfinished id := ⟨1, session, present, active⟩
  exact ⟨database, reachable, unfinished, blocked, never_deadlocked reachable unfinished⟩

end CareerProjects.Warehouse
