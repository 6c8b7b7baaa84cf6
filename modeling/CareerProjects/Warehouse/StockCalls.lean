import CareerProjects.Library.Keyed
import CareerProjects.Library.Throwing
import CareerProjects.Warehouse.Isolation
import CareerProjects.Warehouse.OrderCalls

/-! The stock operations call by call, where one database call may raise. Whatever fails up to the commit
leaves no trace. A refresh that fails after the commit raises as well, and the change stays. -/

namespace CareerProjects.Warehouse

open Library

inductive DatabaseCall
  | getProduct
  | insertBalance
  | selectBalances
  | sumReservations
  | flush
  | commit
  | refreshBalance (key : BalanceKey)
  | refreshMovement (id : Uuid)
  deriving DecidableEq

/-- A database session: the committed tables, the empty row it inserted and the changes it has not committed. -/
structure StockSession where
  inventory : Inventory
  inserted : Option BalanceKey := none
  pending : List Posting := []

namespace StockSession

def balances (session : StockSession) (key : BalanceKey) : Option InventoryBalance :=
  if session.inserted = some key then some .empty else session.inventory.balances key

def commit (session : StockSession) : StockSession where
  inventory := { session.inventory with balances := session.balances }.post session.pending

def rollback (session : StockSession) : StockSession where
  inventory := session.inventory

end StockSession

abbrev StockCode := ExceptT StockError (StateM StockSession)

section calls

variable {α : Type} (raises : Option DatabaseCall)

def DatabaseCall.run (call : DatabaseCall) (effect : StockCode α) : StockCode α :=
  if raises = some call then throw .databaseError else effect

def ensureProductExists (productId : Uuid) : StockCode Unit :=
  DatabaseCall.getProduct.run raises do
    let session ← get
    match session.inventory.products productId with
    | none => throw (.productNotFound productId)
    | some _ => pure ()

def insertEmptyBalanceIfMissing : Option BalanceKey → StockCode Unit
  | none => pure ()
  | some key => DatabaseCall.insertBalance.run raises (modify fun session =>
      if (session.inventory.balances key).isSome then session else { session with inserted := some key })

def getBalancesForUpdate (locks : List BalanceKey) : StockCode (BalanceKey → Option InventoryBalance) :=
  DatabaseCall.selectBalances.run raises do
    let session ← get
    pure fun key => if key ∈ locks then session.balances key else none

def StockOperation.getReferenceReservedQuantity (operation : StockOperation) : StockCode Int :=
  match operation.sumsReference with
  | none => pure 0
  | some _ => DatabaseCall.sumReservations.run raises do
    let session ← get
    pure (operation.sums session.inventory.movements)

def Unused (ids : List Uuid) (movements : List StockMovement) : Prop :=
  ids.Nodup ∧ ∀ movement ∈ movements, movement.id ∉ ids

instance (ids : List Uuid) (movements : List StockMovement) : Decidable (Unused ids movements) :=
  decidable_of_iff (ids.Nodup ∧ movements.all (fun movement => !ids.contains movement.id) = true) (by simp [Unused])

def StockSession.flushAndCommit : StockCode Unit := do
  DatabaseCall.flush.run raises do
    let session ← get
    if Unused (session.pending.map fun posting => posting.movement.id) session.inventory.movements then pure ()
    else throw .databaseError
  DatabaseCall.commit.run raises (modify StockSession.commit)

def refreshBalance (posting : Posting) : StockCode InventoryBalance :=
  (DatabaseCall.refreshBalance posting.key).run raises do
    let session ← get
    match session.inventory.balances posting.key with
    | none => throw .databaseError
    | some balance => pure balance

def refreshMovement (posting : Posting) : StockCode StockMovement :=
  (DatabaseCall.refreshMovement posting.movement.id).run raises do
    let session ← get
    match session.inventory.movements.find? (·.id = posting.movement.id) with
    | none => throw .databaseError
    | some movement => pure movement

/-- The balances and movements of a result, in the order in which they are refreshed. -/
structure StockResult where
  balances : List InventoryBalance
  movements : List StockMovement
  deriving DecidableEq

def StockOperation.save (operation : StockOperation) (draw : Draw) (now : Time) : StockCode (List Posting) := do
  ensureProductExists raises operation.productId
  insertEmptyBalanceIfMissing raises operation.insertsIfMissing
  let loaded ← getBalancesForUpdate raises operation.locks
  let reservedForReference ← operation.getReferenceReservedQuantity raises
  match operation.change draw now loaded reservedForReference with
  | .error error => throw error
  | .ok postings =>
    modify fun session => { session with pending := postings }
    StockSession.flushAndCommit raises
    pure postings

def refresh (postings : List Posting) : StockCode StockResult := do
  let balances ← postings.mapM (refreshBalance raises)
  let movements ← postings.mapM (refreshMovement raises)
  pure ⟨balances, movements⟩

/-- The body of the five functions, between `try` and `except Exception`. -/
def StockOperation.perform (operation : StockOperation) (draw : Draw) (now : Time) : StockCode StockResult :=
  tryCatch (do refresh raises (← operation.save raises draw now)) fun error => do
    modify StockSession.rollback
    throw error

/-- The operation raises without a trace, or it returns what it committed, the change with its movements
once. -/
def StockRequest.AllOrNothing (request : StockRequest) (inventory : Inventory) (draw : Draw) (now : Time) : Prop :=
  match runOn (request.operation.perform raises draw now) { inventory := inventory } with
  | (.error _, session) => session.inventory = inventory
  | (.ok result, session) => ∃ postings,
    request.operation.run draw now inventory = .ok (postings, session.inventory) ∧
      result = ⟨postings.map Posting.balance, postings.map Posting.movement⟩

end calls

namespace StockRequest

def writes : StockRequest → List BalanceKey
  | .receipt request | .issue request => [request.key]
  | .reservation request | .release request => [request.key]
  | .transfer request => [request.source, request.destination]

def movementIds (draw : Draw) : StockRequest → List Uuid
  | .transfer _ => [draw.movementId, draw.inboundMovementId]
  | _ => [draw.movementId]

def refreshes (draw : Draw) (request : StockRequest) : List DatabaseCall :=
  request.writes.map .refreshBalance ++ (request.movementIds draw).map .refreshMovement

/-- The stock suffices, and what else the operations check. -/
def Accepted (inventory : Inventory) (request : StockRequest) : Prop :=
  (inventory.products request.operation.productId).isSome ∧
    match request with
    | .receipt _ => True
    | .issue request => ∃ row, inventory.balances request.key = some row ∧
        request.quantity ≤ row.quantityOnHand - row.quantityReserved
    | .reservation request => inventory.outstanding request.key request.referenceId ≤ 0 ∧
        ∃ row, inventory.balances request.key = some row ∧
          request.quantity ≤ row.quantityOnHand - row.quantityReserved
    | .release request => ∃ row, inventory.balances request.key = some row ∧
        request.quantity ≤ min (inventory.outstanding request.key request.referenceId) row.quantityReserved
    | .transfer request => ∃ row, inventory.balances request.source = some row ∧
        request.quantity ≤ row.quantityOnHand - row.quantityReserved

variable {inventory : Inventory} {request : StockRequest} {draw : Draw} {now : Time} {postings : List Posting}
  {loaded : BalanceKey → Option InventoryBalance} {reserved : Int}

theorem written (change : request.operation.change draw now loaded reserved = .ok postings) :
    postings.map Posting.key = request.writes ∧
      (postings.map fun posting => posting.movement.id) = request.movementIds draw := by
  obtain ⟨rows, rfl⟩ := change_postings change
  cases request <;> exact ⟨rfl, rfl⟩

theorem mem_refreshes (change : request.operation.change draw now loaded reserved = .ok postings)
    {call : DatabaseCall} : call ∈ request.refreshes draw ↔
      ∃ posting ∈ postings, call = .refreshBalance posting.key ∨ call = .refreshMovement posting.movement.id := by
  unfold refreshes
  rw [← (written change).1, ← (written change).2]
  simp only [List.mem_append, List.mem_map, exists_exists_and_eq_and]
  grind

theorem accepted_iff : request.Accepted inventory ↔
    (inventory.products request.operation.productId).isSome ∧ ∃ postings,
      request.operation.change draw now (request.operation.loads inventory)
        (request.operation.sums inventory.movements) = .ok postings := by
  have own {key : BalanceKey} (operation : StockOperation) (locks : operation.locks = [key])
      (inserts : operation.insertsIfMissing = none) : operation.loads inventory key = inventory.balances key :=
    Inventory.loads_own locks inserts
  refine and_congr_right fun _ => ?_
  cases request with
  | receipt request => simp [operation, StockOperation.loads, receiveStock]
  | issue request =>
    simp only [operation, issueStock_ok, own (issueStock request) rfl rfl]
    grind
  | reservation request =>
    have sums : (reserveStock request).sums inventory.movements =
        inventory.outstanding request.key request.referenceId := rfl
    simp only [operation, reserveStock_ok, sums, own (reserveStock request) rfl rfl]
    grind
  | release request =>
    have sums : (releaseStock request).sums inventory.movements =
        inventory.outstanding request.key request.referenceId := rfl
    simp only [operation, releaseStock_ok, sums, own (releaseStock request) rfl rfl]
    grind
  | transfer request =>
    have destination : (transferStock request).loads inventory request.destination =
        some (inventory.balance request.destination) := by
      unfold StockOperation.loads transferStock
      split <;> simp
    have source : (transferStock request).loads inventory request.source =
        inventory.balances request.source := by
      have different := request.source_ne_destination.symm
      unfold StockOperation.loads transferStock
      split <;> simp [different]
    simp only [operation, transferStock_ok, destination, source]
    grind

end StockRequest

section save

variable {α β : Type} {raises : Option DatabaseCall} {call : DatabaseCall} {effect : StockCode α}
  {before : StockSession → Prop} {returned : α → StockSession → Prop} {thrown : StockError → StockSession → Prop}

theorem DatabaseCall.ensures (done : Ensures before effect returned thrown)
    (raised : raises = some call → ∀ session, before session → thrown .databaseError session) :
    Ensures before (call.run raises effect) returned thrown := by
  unfold DatabaseCall.run
  exact .ite (fun fault => .throw (raised fault)) fun _ => done

variable {inventory : Inventory} {request : StockRequest} {draw : Draw} {now : Time} {postings : List Posting}

/-- The request is refused, or a call before the refreshes raises. -/
def Refused (raises : Option DatabaseCall) (inventory : Inventory) (draw : Draw) (request : StockRequest) : Prop :=
  ¬(request.Accepted inventory ∧ Unused (request.movementIds draw) inventory.movements) ∨
    ∃ call, raises = some call ∧ call ∉ request.refreshes draw

def StockSession.opened (inventory : Inventory) (operation : StockOperation) : StockSession where
  inventory := inventory
  inserted := operation.insertsIfMissing.filter fun key => (inventory.balances key).isNone

theorem opened_loads (inventory : Inventory) (operation : StockOperation) :
    (fun key => if key ∈ operation.locks then (StockSession.opened inventory operation).balances key else none) =
      operation.loads inventory := by
  funext key
  unfold StockSession.balances StockSession.opened StockOperation.loads
  cases operation.insertsIfMissing with
  | none => simp
  | some inserts =>
    by_cases same : inserts = key
    · subst same
      cases row : inventory.balances inserts <;> simp [row, Inventory.balance]
    · cases row : inventory.balances inserts <;> simp [same]

theorem opened_commit (change : request.operation.change draw now (request.operation.loads inventory)
      (request.operation.sums inventory.movements) = .ok postings) :
    { StockSession.opened inventory request.operation with pending := postings }.commit =
      { inventory := inventory.post postings } := by
  have posted := StockRequest.posted change
  unfold StockSession.commit
  congr 1
  rw [Inventory.ext_iff]
  refine ⟨by simp [StockSession.opened], ?_, by simp [StockSession.opened]⟩
  funext key
  rw [Database.post_balances _ posted.distinct, Database.post_balances _ posted.distinct]
  by_cases inserted : (StockSession.opened inventory request.operation).inserted = some key
  · have inserts : request.operation.insertsIfMissing = some key := by
      unfold StockSession.opened at inserted
      exact (Option.filter_eq_some_iff.mp inserted).1
    have written := (posted.locked key).mpr (Database.insertsIfMissing_mem_locks inserts)
    cases found : Database.writtenBalance postings key with
    | none => exact absurd written (Database.writtenBalance_eq_none.mp found)
    | some balance => rfl
  · have same : (StockSession.opened inventory request.operation).balances key = inventory.balances key :=
      if_neg inserted
    exact congrArg _ same

theorem flushAndCommit_ensures (raises : Option DatabaseCall)
    (change : request.operation.change draw now (request.operation.loads inventory)
      (request.operation.sums inventory.movements) = .ok postings) :
    Ensures (fun session => session = { StockSession.opened inventory request.operation with pending := postings })
      (StockSession.flushAndCommit raises)
      (fun _ session => Unused (request.movementIds draw) inventory.movements ∧
        session = { inventory := inventory.post postings })
      (fun _ session => session.inventory = inventory ∧ Refused raises inventory draw request) := by
  refine .bind (fun _ session => Unused (request.movementIds draw) inventory.movements ∧
    session = { StockSession.opened inventory request.operation with pending := postings }) ?_ fun _ => ?_
  · refine DatabaseCall.ensures ?_ fun fault session known =>
      ⟨by rw [known]; rfl, .inr ⟨_, fault, by simp [StockRequest.refreshes]⟩⟩
    rintro session rfl
    rw [runOn_bind_ok (runOn_get _)]
    have ids : Unused (postings.map fun posting => posting.movement.id) inventory.movements ↔
        Unused (request.movementIds draw) inventory.movements := by rw [(StockRequest.written change).2]
    by_cases unused : Unused (postings.map fun posting => posting.movement.id) inventory.movements
    · rw [if_pos (by exact unused)]
      exact ⟨ids.mp unused, rfl⟩
    · rw [if_neg (by exact unused)]
      exact ⟨rfl, .inl fun accepted => unused (ids.mpr accepted.2)⟩
  · refine DatabaseCall.ensures (.modify fun session known => ⟨known.1, ?_⟩) fun fault session known =>
      ⟨by rw [known.2]; rfl, .inr ⟨_, fault, by simp [StockRequest.refreshes]⟩⟩
    rw [known.2]
    exact opened_commit change

theorem save_ensures (raises : Option DatabaseCall) (request : StockRequest) (inventory : Inventory) (draw : Draw)
    (now : Time) : Ensures (fun session => session = { inventory := inventory })
      (request.operation.save raises draw now)
      (fun postings session => request.Accepted inventory ∧ Unused (request.movementIds draw) inventory.movements ∧
        request.operation.run draw now inventory = .ok (postings, inventory.post postings) ∧
        session = { inventory := inventory.post postings })
      (fun _ session => session.inventory = inventory ∧ Refused raises inventory draw request) := by
  have faulty {call : DatabaseCall} (early : call ∉ request.refreshes draw) (fault : raises = some call) :
      Refused raises inventory draw request := .inr ⟨call, fault, early⟩
  unfold StockOperation.save
  refine .bind (fun _ session => (inventory.products request.operation.productId).isSome ∧
    session = { inventory := inventory }) ?_ fun _ => ?_
  · refine DatabaseCall.ensures ?_ fun fault session same =>
      ⟨by rw [same], faulty (by simp [StockRequest.refreshes]) fault⟩
    rintro session rfl
    rw [runOn_bind_ok (runOn_get _)]
    cases product : inventory.products request.operation.productId with
    | none => simp [product, Refused, StockRequest.Accepted]
    | some product => simp
  refine .bind (fun _ session => (inventory.products request.operation.productId).isSome ∧
    session = .opened inventory request.operation) ?_ fun _ => ?_
  · unfold insertEmptyBalanceIfMissing
    cases inserts : request.operation.insertsIfMissing with
    | none =>
      refine .pure fun session known => ⟨known.1, ?_⟩
      simp [known.2, StockSession.opened, inserts]
    | some key =>
      refine DatabaseCall.ensures (.modify fun session known => ⟨known.1, ?_⟩) fun fault session known =>
        ⟨by rw [known.2], faulty (by simp [StockRequest.refreshes]) fault⟩
      cases row : inventory.balances key <;>
        simp [known.2, StockSession.opened, inserts, row, Option.filter_some]
  refine .bind (fun loaded session => (inventory.products request.operation.productId).isSome ∧
    loaded = request.operation.loads inventory ∧ session = .opened inventory request.operation) ?_ fun loaded => ?_
  · refine DatabaseCall.ensures ?_ fun fault session known =>
      ⟨by rw [known.2]; rfl, faulty (by simp [StockRequest.refreshes]) fault⟩
    rintro session ⟨product, rfl⟩
    rw [runOn_bind_ok (runOn_get _)]
    exact ⟨product, opened_loads inventory request.operation, rfl⟩
  refine .bind (fun reserved session => (inventory.products request.operation.productId).isSome ∧
    loaded = request.operation.loads inventory ∧ reserved = request.operation.sums inventory.movements ∧
    session = .opened inventory request.operation) ?_ fun reserved => ?_
  · unfold StockOperation.getReferenceReservedQuantity
    cases sums : request.operation.sumsReference with
    | none =>
      refine .pure fun session known => ⟨known.1, known.2.1, ?_, known.2.2⟩
      simp [StockOperation.sums, sums]
    | some reference =>
      refine DatabaseCall.ensures ?_ fun fault session known =>
        ⟨by rw [known.2.2]; rfl, faulty (by simp [StockRequest.refreshes]) fault⟩
      rintro session ⟨product, loads, rfl⟩
      rw [runOn_bind_ok (runOn_get _)]
      exact ⟨product, loads, rfl, rfl⟩
  rintro session ⟨product, rfl, rfl, rfl⟩
  cases change : request.operation.change draw now (request.operation.loads inventory)
      (request.operation.sums inventory.movements) with
  | error error =>
    refine ⟨rfl, .inl fun accepted => ?_⟩
    obtain ⟨-, postings, changes⟩ := StockRequest.accepted_iff.mp accepted.1
    rw [change] at changes
    cases changes
  | ok postings =>
    have accepted : request.Accepted inventory := StockRequest.accepted_iff.mpr ⟨product, postings, change⟩
    have run : request.operation.run draw now inventory = .ok (postings, inventory.post postings) :=
      Inventory.run_ok.mpr ⟨product, change, rfl⟩
    have committed := flushAndCommit_ensures raises change
    refine Ensures.bind _ committed (fun _ => .pure fun session known => ?_) _ rfl
    exact ⟨accepted, known.1, run, known.2⟩

theorem DatabaseCall.run_of_ne (other : raises ≠ some call) : call.run raises effect = effect := if_neg other

theorem runOn_raised (fault : raises = some call) (session : StockSession) :
    runOn (call.run raises effect) session = (.error .databaseError, session) := by
  rw [DatabaseCall.run, if_pos fault, runOn_throw]

theorem refreshBalance_quiet (raises : Option DatabaseCall) (session : StockSession) (posting : Posting) :
    (runOn (refreshBalance raises posting) session).2 = session := by
  unfold refreshBalance DatabaseCall.run
  split
  · rfl
  · rw [runOn_bind_ok (runOn_get _)]
    split <;> rfl

theorem refreshMovement_quiet (raises : Option DatabaseCall) (session : StockSession) (posting : Posting) :
    (runOn (refreshMovement raises posting) session).2 = session := by
  unfold refreshMovement DatabaseCall.run
  split
  · rfl
  · rw [runOn_bind_ok (runOn_get _)]
    split <;> rfl

theorem runOn_refreshBalance (inventory : Inventory) {posting : Posting} (distinct : (postings.map Posting.key).Nodup)
    (member : posting ∈ postings) (calm : raises ≠ some (.refreshBalance posting.key)) :
    runOn (refreshBalance raises posting) { inventory := inventory.post postings } =
      (.ok posting.balance, { inventory := inventory.post postings }) := by
  unfold refreshBalance
  have row : (inventory.post postings).balances posting.key = some posting.balance := by
    have found : postings.find? (fun other => other.key == posting.key) = some posting := find?_key distinct member
    rw [Database.post_balances _ distinct, Database.writtenBalance, found]
    rfl
  rw [DatabaseCall.run_of_ne calm, runOn_bind_ok (runOn_get _)]
  simp only [row, runOn_pure]

theorem runOn_refreshMovement {posting : Posting}
    (unused : Unused (postings.map fun posting => posting.movement.id) inventory.movements)
    (member : posting ∈ postings) (calm : raises ≠ some (.refreshMovement posting.movement.id)) :
    runOn (refreshMovement raises posting) { inventory := inventory.post postings } =
      (.ok posting.movement, { inventory := inventory.post postings }) := by
  unfold refreshMovement
  have row : (inventory.post postings).movements.find? (·.id = posting.movement.id) = some posting.movement := by
    have old : inventory.movements.find? (·.id = posting.movement.id) = none := by
      refine List.find?_eq_none.mpr fun movement stored same => unused.2 movement stored ?_
      rw [of_decide_eq_true same]
      exact List.mem_map_of_mem member
    have distinct : ((postings.map Posting.movement).map StockMovement.id).Nodup := by
      rw [List.map_map]
      exact unused.1
    rw [Inventory.post_movements, List.find?_append, old]
    exact find?_key distinct (List.mem_map_of_mem member)
  rw [DatabaseCall.run_of_ne calm, runOn_bind_ok (runOn_get _)]
  simp only [row, runOn_pure]

theorem runOn_refresh (raises : Option DatabaseCall) (distinct : (postings.map Posting.key).Nodup)
    (unused : Unused (postings.map fun posting => posting.movement.id) inventory.movements) :
    (∀ posting ∈ postings, raises ≠ some (.refreshBalance posting.key) ∧
        raises ≠ some (.refreshMovement posting.movement.id)) ∧
      runOn (refresh raises postings) { inventory := inventory.post postings } =
        (.ok ⟨postings.map Posting.balance, postings.map Posting.movement⟩, { inventory := inventory.post postings }) ∨
    (∃ posting ∈ postings, raises = some (.refreshBalance posting.key) ∨
        raises = some (.refreshMovement posting.movement.id)) ∧
      ∃ error, runOn (refresh raises postings) { inventory := inventory.post postings } =
        (.error error, { inventory := inventory.post postings }) := by
  unfold refresh
  by_cases balances : ∃ posting ∈ postings, raises = some (.refreshBalance posting.key)
  · obtain ⟨posting, member, fault⟩ := balances
    refine .inr ⟨⟨posting, member, .inl fault⟩, ?_⟩
    obtain ⟨first, raised⟩ := runOn_mapM_error (refreshBalance_quiet raises _) member (runOn_raised fault _)
    exact ⟨first, runOn_bind_error raised _⟩
  have read := runOn_mapM fun posting member =>
    runOn_refreshBalance inventory distinct member fun fault => balances ⟨posting, member, fault⟩
  by_cases movements : ∃ posting ∈ postings, raises = some (.refreshMovement posting.movement.id)
  · obtain ⟨posting, member, fault⟩ := movements
    refine .inr ⟨⟨posting, member, .inr fault⟩, ?_⟩
    obtain ⟨first, raised⟩ := runOn_mapM_error (refreshMovement_quiet raises _) member (runOn_raised fault _)
    exact ⟨first, by rw [runOn_bind_ok read, runOn_bind_error raised]⟩
  · have readMovements := runOn_mapM fun posting member =>
      runOn_refreshMovement unused member fun fault => movements ⟨posting, member, fault⟩
    refine .inl ⟨fun posting member => ⟨fun fault => balances ⟨posting, member, fault⟩,
      fun fault => movements ⟨posting, member, fault⟩⟩, ?_⟩
    rw [runOn_bind_ok read, runOn_bind_ok readMovements, runOn_pure]

end save

/-- What raises leaves no trace, exactly where no refresh is what raises. -/
theorem StockRequest.allOrNothing_iff (raises : Option DatabaseCall) (request : StockRequest) (inventory : Inventory)
    (draw : Draw) (now : Time) : request.AllOrNothing raises inventory draw now ↔
      ¬(request.Accepted inventory ∧ Unused (request.movementIds draw) inventory.movements ∧
        ∃ call ∈ request.refreshes draw, raises = some call) := by
  have saves := save_ensures raises request inventory draw now { inventory := inventory } rfl
  unfold AllOrNothing StockOperation.perform
  rw [runOn_tryCatch, runOn_bind]
  generalize runOn (request.operation.save raises draw now) { inventory := inventory } = saved at saves ⊢
  obtain ⟨error | postings, session⟩ := saved
  · obtain ⟨same, refused⟩ := saves
    refine iff_of_true same ?_
    rintro ⟨accepted, unused, call, late, fault⟩
    rcases refused with refused | ⟨other, early, before⟩
    · exact refused ⟨accepted, unused⟩
    · rw [fault] at early
      cases early
      exact before late
  · obtain ⟨accepted, unused, run, rfl⟩ := saves
    obtain ⟨-, change, -⟩ := Inventory.run_ok.mp run
    obtain ⟨keys, ids⟩ := written change
    have posted := StockRequest.posted change
    have unusedIds := unused
    rw [← ids] at unusedIds
    rcases runOn_refresh raises posted.distinct unusedIds with
      ⟨calm, returned⟩ | ⟨⟨posting, member, fault⟩, error, raised⟩
    · simp only [returned]
      refine iff_of_true ⟨postings, run, rfl⟩ ?_
      rintro ⟨-, -, call, late, rfl⟩
      obtain ⟨posting, member, same⟩ := (mem_refreshes change).mp late
      have quiet := calm posting member
      simp only [ne_eq, Option.some.injEq] at quiet
      exact same.elim quiet.1 quiet.2
    · simp only [raised]
      refine iff_of_false (fun same => ?_) (not_not.mpr ⟨accepted, unused, ?_⟩)
      · -- the history has grown by the movement of the posting
        have movements : (inventory.post postings).movements = inventory.movements := congrArg Inventory.movements same
        have nothing : postings = [] := by simpa using movements
        simp [nothing] at member
      · rcases fault with fault | fault
        · exact ⟨_, (mem_refreshes change).mpr ⟨posting, member, .inl rfl⟩, fault⟩
        · exact ⟨_, (mem_refreshes change).mpr ⟨posting, member, .inr rfl⟩, fault⟩

def receiptOfFive : StockRequest := .receipt fiveUnits

/-- The refresh of the balance raises after the receipt is committed. -/
theorem refresh_fails_after_commit :
    ¬receiptOfFive.AllOrNothing (some (.refreshBalance ⟨1, 2⟩)) (.empty oneProduct) ⟨1, 2, 3⟩ 0 := by
  have facts : match runOn (receiptOfFive.operation.perform (some (.refreshBalance ⟨1, 2⟩)) ⟨1, 2, 3⟩ 0)
      { inventory := .empty oneProduct } with
    | (result, session) => result = .error .databaseError ∧ session.inventory.movements.length = 1 := by
    decide +kernel
  unfold StockRequest.AllOrNothing
  generalize runOn _ _ = outcome at facts ⊢
  obtain ⟨result, session⟩ := outcome
  obtain ⟨rfl, grown⟩ := facts
  intro same
  have empty : session.inventory = Inventory.empty oneProduct := same
  simp [empty, Inventory.empty] at grown

end CareerProjects.Warehouse
