import CareerProjects.Warehouse.Stock

/-! What one committed stock operation does to balances and history. Every balance is
the total of its movements, every movement records the totals after itself, and the
movements of one transfer come as a pair. -/

namespace CareerProjects.Warehouse

open Library

/-- What a request posts to the rows that it loaded. -/
def StockRequest.postings (rows : BalanceKey → InventoryBalance) (draw : Draw) (now : Time) :
    StockRequest → List Posting
  | .receipt request =>
    [postMovement request.key (rows request.key) .receipt request.quantity 0
      request.referenceId request.reason none draw.movementId now]
  | .issue request =>
    [postMovement request.key (rows request.key) .issue (-request.quantity) 0
      request.referenceId request.reason none draw.movementId now]
  | .reservation request =>
    [postMovement request.key (rows request.key) .reservation 0 request.quantity
      (some request.referenceId) request.reason none draw.movementId now]
  | .release request =>
    [postMovement request.key (rows request.key) .release 0 (-request.quantity)
      (some request.referenceId) request.reason none draw.movementId now]
  | .transfer request =>
    [postMovement request.source (rows request.source) .transferOut (-request.quantity) 0
        request.referenceId request.reason (some draw.transferId) draw.movementId now,
      postMovement request.destination (rows request.destination) .transferIn request.quantity 0
        request.referenceId request.reason (some draw.transferId) draw.inboundMovementId now]

section changes

variable {draw : Draw} {now : Time} {loaded : BalanceKey → Option InventoryBalance}
  {reservedForReference : Int} {postings : List Posting}

theorem receiveStock_ok {request : StockReceiptRequest} :
    (receiveStock request).change draw now loaded reservedForReference = .ok postings ↔
      ∃ row, loaded request.key = some row ∧
        postings = [postMovement request.key row .receipt request.quantity 0
          request.referenceId request.reason none draw.movementId now] := by
  simp only [receiveStock]
  cases loaded request.key with
  | none => simp
  | some row => simp [eq_comm]

theorem issueStock_ok {request : StockIssueRequest} :
    (issueStock request).change draw now loaded reservedForReference = .ok postings ↔
      ∃ row, loaded request.key = some row ∧
        request.quantity ≤ row.quantityOnHand - row.quantityReserved ∧
        postings = [postMovement request.key row .issue (-request.quantity) 0
          request.referenceId request.reason none draw.movementId now] := by
  simp only [issueStock]
  cases loaded request.key with
  | none => simp
  | some row =>
    by_cases short : request.quantity > row.quantityOnHand - row.quantityReserved
    · simp [short]
    · simp [short, Int.not_lt.mp short, eq_comm]

theorem reserveStock_ok {request : StockReservationRequest} :
    (reserveStock request).change draw now loaded reservedForReference = .ok postings ↔
      reservedForReference ≤ 0 ∧ ∃ row, loaded request.key = some row ∧
        request.quantity ≤ row.quantityOnHand - row.quantityReserved ∧
        postings = [postMovement request.key row .reservation 0 request.quantity
          (some request.referenceId) request.reason none draw.movementId now] := by
  simp only [reserveStock]
  by_cases taken : reservedForReference > 0
  · simp [taken]
  · cases loaded request.key with
    | none => simp [taken]
    | some row =>
      by_cases short : request.quantity > row.quantityOnHand - row.quantityReserved
      · simp [taken, short]
      · simp [taken, short, Int.not_lt.mp taken, Int.not_lt.mp short, eq_comm]

theorem releaseStock_ok {request : StockReleaseRequest} :
    (releaseStock request).change draw now loaded reservedForReference = .ok postings ↔
      ∃ row, loaded request.key = some row ∧
        request.quantity ≤ min reservedForReference row.quantityReserved ∧
        postings = [postMovement request.key row .release 0 (-request.quantity)
          (some request.referenceId) request.reason none draw.movementId now] := by
  simp only [releaseStock]
  cases loaded request.key with
  | none => simp
  | some row =>
    by_cases short : request.quantity > min reservedForReference row.quantityReserved
    · simp only [short, if_true, reduceCtorEq, Option.some.injEq, exists_eq_left', false_iff]
      omega
    · have enough := Int.not_lt.mp short
      simp only [short, if_false, Except.ok.injEq, Option.some.injEq, exists_eq_left', enough,
        true_and]
      exact eq_comm

theorem transferStock_ok {request : StockTransferRequest} :
    (transferStock request).change draw now loaded reservedForReference = .ok postings ↔
      ∃ destinationRow sourceRow, loaded request.destination = some destinationRow ∧
        loaded request.source = some sourceRow ∧
        request.quantity ≤ sourceRow.quantityOnHand - sourceRow.quantityReserved ∧
        postings = [
          postMovement request.source sourceRow .transferOut (-request.quantity) 0
            request.referenceId request.reason (some draw.transferId) draw.movementId now,
          postMovement request.destination destinationRow .transferIn request.quantity 0
            request.referenceId request.reason (some draw.transferId)
            draw.inboundMovementId now] := by
  simp only [transferStock]
  cases loaded request.destination with
  | none => simp
  | some destinationRow =>
    cases loaded request.source with
    | none => simp
    | some sourceRow =>
      by_cases short : request.quantity > sourceRow.quantityOnHand - sourceRow.quantityReserved
      · simp [short]
      · simp [short, Int.not_lt.mp short, eq_comm]

theorem StockRequest.change_postings {request : StockRequest}
    (change : request.operation.change draw now loaded reservedForReference = .ok postings) :
    ∃ rows, postings = request.postings rows draw now := by
  refine ⟨fun key => (loaded key).getD .empty, ?_⟩
  cases request with
  | receipt request =>
    obtain ⟨row, found, rfl⟩ := receiveStock_ok.mp change
    simp [StockRequest.postings, found]
  | issue request =>
    obtain ⟨row, found, -, rfl⟩ := issueStock_ok.mp change
    simp [StockRequest.postings, found]
  | reservation request =>
    obtain ⟨-, row, found, -, rfl⟩ := reserveStock_ok.mp change
    simp [StockRequest.postings, found]
  | release request =>
    obtain ⟨row, found, -, rfl⟩ := releaseStock_ok.mp change
    simp [StockRequest.postings, found]
  | transfer request =>
    obtain ⟨destinationRow, sourceRow, destination, source, -, rfl⟩ := transferStock_ok.mp change
    simp [StockRequest.postings, destination, source]

end changes

/-- The posting adds its movement's deltas to `row` and documents the result. -/
structure Posting.Posts (posting : Posting) (row : InventoryBalance) : Prop where
  key : posting.movement.key = posting.key
  onHand : posting.balance.quantityOnHand =
    row.quantityOnHand + posting.movement.onHandDelta
  reserved : posting.balance.quantityReserved =
    row.quantityReserved + posting.movement.reservedDelta
  onHandAfter : posting.movement.onHandBalanceAfter = posting.balance.quantityOnHand
  reservedAfter : posting.movement.reservedBalanceAfter = posting.balance.quantityReserved

theorem postMovement_posts (key : BalanceKey) (row : InventoryBalance) (type : MovementType)
    (onHandDelta reservedDelta : Int) (referenceId reason : Option String)
    (transferId : Option Uuid) (id : Uuid) (now : Time) :
    (postMovement key row type onHandDelta reservedDelta referenceId reason transferId id
      now).Posts row :=
  ⟨rfl, rfl, rfl, rfl, rfl⟩

/-- The postings an operation may make from the rows it loaded: one for each locked
row, each extending that row and keeping the check constraints. -/
structure Posted (operation : StockOperation) (loaded : BalanceKey → Option InventoryBalance)
    (postings : List Posting) : Prop where
  distinct : (postings.map Posting.key).Nodup
  locked : ∀ key, key ∈ postings.map Posting.key ↔ key ∈ operation.locks
  posts : ∀ posting ∈ postings, ∃ row, loaded posting.key = some row ∧ posting.Posts row ∧
    (row.Valid → posting.balance.Valid)

theorem StockRequest.posted {request : StockRequest} {draw : Draw} {now : Time}
    {loaded : BalanceKey → Option InventoryBalance} {reservedForReference : Int}
    {postings : List Posting}
    (h : request.operation.change draw now loaded reservedForReference = .ok postings) :
    Posted request.operation loaded postings := by
  cases request with
  | receipt request =>
    obtain ⟨row, found, rfl⟩ := receiveStock_ok.mp h
    have positive := request.quantityPositive
    refine ⟨by simp, by simp [operation, receiveStock, postMovement], ?_⟩
    simp only [List.mem_singleton, forall_eq]
    refine ⟨row, found, postMovement_posts .., fun valid => ?_⟩
    simp only [InventoryBalance.Valid, postMovement] at valid ⊢
    omega
  | issue request =>
    obtain ⟨row, found, enough, rfl⟩ := issueStock_ok.mp h
    refine ⟨by simp, by simp [operation, issueStock, postMovement], ?_⟩
    simp only [List.mem_singleton, forall_eq]
    refine ⟨row, found, postMovement_posts .., fun valid => ?_⟩
    simp only [InventoryBalance.Valid, postMovement] at valid ⊢
    omega
  | reservation request =>
    obtain ⟨-, row, found, enough, rfl⟩ := reserveStock_ok.mp h
    have positive := request.quantityPositive
    refine ⟨by simp, by simp [operation, reserveStock, postMovement], ?_⟩
    simp only [List.mem_singleton, forall_eq]
    refine ⟨row, found, postMovement_posts .., fun valid => ?_⟩
    simp only [InventoryBalance.Valid, postMovement] at valid ⊢
    omega
  | release request =>
    obtain ⟨row, found, enough, rfl⟩ := releaseStock_ok.mp h
    have positive := request.quantityPositive
    refine ⟨by simp, by simp [operation, releaseStock, postMovement], ?_⟩
    simp only [List.mem_singleton, forall_eq]
    refine ⟨row, found, postMovement_posts .., fun valid => ?_⟩
    simp only [InventoryBalance.Valid, postMovement] at valid ⊢
    omega
  | transfer request =>
    obtain ⟨destinationRow, sourceRow, destination, source, enough, rfl⟩ := transferStock_ok.mp h
    have positive := request.quantityPositive
    refine ⟨by simp [postMovement, request.source_ne_destination], fun key => ?_, ?_⟩
    · by_cases order : request.sourceWarehouseId ≤ request.destinationWarehouseId
      · simp [operation, transferStock, postMovement, order]
      · simp [operation, transferStock, postMovement, order, or_comm]
    · simp only [List.mem_cons, List.not_mem_nil, or_false, forall_eq_or_imp, forall_eq]
      refine ⟨⟨sourceRow, source, postMovement_posts .., fun valid => ?_⟩,
        ⟨destinationRow, destination, postMovement_posts .., fun valid => ?_⟩⟩
      · simp only [InventoryBalance.Valid, postMovement] at valid ⊢
        omega
      · simp only [InventoryBalance.Valid, postMovement] at valid ⊢
        omega

namespace Inventory

@[simp] theorem record_movements (inventory : Inventory) (posting : Posting) :
    (inventory.record posting).movements = inventory.movements ++ [posting.movement] := rfl

theorem record_balances (inventory : Inventory) (posting : Posting) (key : BalanceKey) :
    (inventory.record posting).balances key =
      if key = posting.key then some posting.balance else inventory.balances key :=
  Function.update_apply ..

theorem record_balance (inventory : Inventory) (posting : Posting) (key : BalanceKey) :
    (inventory.record posting).balance key =
      if key = posting.key then posting.balance else inventory.balance key := by
  by_cases same : key = posting.key
  · simp [balance, record_balances, same]
  · simp [balance, record_balances, same]

@[simp] theorem post_movements (inventory : Inventory) (postings : List Posting) :
    (inventory.post postings).movements =
      inventory.movements ++ postings.map Posting.movement := by
  induction postings generalizing inventory with
  | nil => simp [post]
  | cons posting postings ih =>
    have step := ih (inventory.record posting)
    simpa [post] using step

@[simp] theorem post_products (inventory : Inventory) (postings : List Posting) :
    (inventory.post postings).products = inventory.products := by
  induction postings generalizing inventory with
  | nil => rfl
  | cons posting postings ih => exact ih (inventory.record posting)

structure Totals (inventory : Inventory) : Prop where
  onHand : ∀ key, (inventory.balance key).quantityOnHand = onHandTotal inventory.movements key
  reserved : ∀ key,
    (inventory.balance key).quantityReserved = reservedTotal inventory.movements key
  valid : ∀ key row, inventory.balances key = some row → row.Valid
  onHandAfter : RunningTotals StockMovement.key StockMovement.onHandDelta
    StockMovement.onHandBalanceAfter inventory.movements
  reservedAfter : RunningTotals StockMovement.key StockMovement.reservedDelta
    StockMovement.reservedBalanceAfter inventory.movements

theorem Totals.empty (products : Uuid → Option Product) : Totals (empty products) where
  onHand _ := rfl
  reserved _ := rfl
  valid key row found := by cases found
  onHandAfter := runningTotals_nil
  reservedAfter := runningTotals_nil

theorem Totals.valid_balance {inventory : Inventory} (h : Totals inventory) (key : BalanceKey) :
    (inventory.balance key).Valid := by
  cases found : inventory.balances key with
  | none => simp [balance, found, InventoryBalance.empty, InventoryBalance.Valid]
  | some row => simpa [balance, found] using h.valid key row found

theorem Totals.record {inventory : Inventory} (h : Totals inventory) {posting : Posting}
    (posts : posting.Posts (inventory.balance posting.key)) (valid : posting.balance.Valid) :
    Totals (inventory.record posting) where
  onHand key := by
    rw [record_balance, record_movements, onHandTotal, sumWhere_append, ← onHandTotal,
      ← h.onHand key]
    by_cases same : key = posting.key
    · simp [same, posts.onHand, sumWhere, posts.key]
    · simp [same, sumWhere, posts.key, Ne.symm same]
  reserved key := by
    rw [record_balance, record_movements, reservedTotal, sumWhere_append, ← reservedTotal,
      ← h.reserved key]
    by_cases same : key = posting.key
    · simp [same, posts.reserved, sumWhere, posts.key]
    · simp [same, sumWhere, posts.key, Ne.symm same]
  valid key row found := by
    rw [record_balances] at found
    by_cases same : key = posting.key
    · rw [if_pos same, Option.some.injEq] at found
      exact found ▸ valid
    · rw [if_neg same] at found
      exact h.valid key row found
  onHandAfter := by
    refine h.onHandAfter.append_singleton _ ?_
    rw [posts.onHandAfter, posts.onHand, posts.key]
    exact congrArg (· + _) (h.onHand posting.key)
  reservedAfter := by
    refine h.reservedAfter.append_singleton _ ?_
    rw [posts.reservedAfter, posts.reserved, posts.key]
    exact congrArg (· + _) (h.reserved posting.key)

theorem Totals.post {inventory : Inventory} (h : Totals inventory) {postings : List Posting}
    (distinct : (postings.map Posting.key).Nodup)
    (posts : ∀ posting ∈ postings,
      posting.Posts (inventory.balance posting.key) ∧ posting.balance.Valid) :
    Totals (inventory.post postings) := by
  induction postings generalizing inventory with
  | nil => exact h
  | cons posting postings ih =>
    rw [List.map_cons, List.nodup_cons] at distinct
    have first := posts posting List.mem_cons_self
    refine ih (h.record first.1 first.2) distinct.2 fun other member => ?_
    have different : other.key ≠ posting.key := fun same =>
      distinct.1 (List.mem_map.mpr ⟨other, member, same⟩)
    rw [record_balance, if_neg different]
    exact posts other (List.mem_cons_of_mem _ member)

/-- The stock of a product over all warehouses. -/
noncomputable def productOnHand (inventory : Inventory) (productId : Uuid) : Int :=
  finsum fun warehouseId => (inventory.balance ⟨productId, warehouseId⟩).quantityOnHand

theorem Totals.productOnHand_eq {inventory : Inventory} (h : Totals inventory)
    (productId : Uuid) : inventory.productOnHand productId =
      sumWhere (fun movement => movement.productId == productId) StockMovement.onHandDelta
        inventory.movements := by
  have classes := (sumWhere_eq_finsum (fun movement => movement.productId == productId)
    StockMovement.onHandDelta inventory.movements (fun movement => some movement.warehouseId)
    (by simp)).2
  rw [classes, productOnHand]
  refine finsum_congr fun warehouseId => ?_
  rw [h.onHand, onHandTotal]
  congr 1
  funext movement
  rw [Bool.eq_iff_iff]
  simp [StockMovement.key]

theorem productOnHand_transfer {inventory : Inventory} (h : Totals inventory)
    {request : StockTransferRequest} {draw : Draw} {now : Time}
    {loaded : BalanceKey → Option InventoryBalance} {reservedForReference : Int}
    {postings : List Posting} (after : Totals (inventory.post postings))
    (change : (transferStock request).change draw now loaded reservedForReference = .ok postings)
    (productId : Uuid) :
    (inventory.post postings).productOnHand productId = inventory.productOnHand productId := by
  obtain ⟨destinationRow, sourceRow, -, -, -, rfl⟩ := transferStock_ok.mp change
  rw [after.productOnHand_eq, h.productOnHand_eq, post_movements, sumWhere_append]
  have cancel : ∀ quantity : Int, (if request.productId = productId then -quantity else 0) +
      (if request.productId = productId then quantity else 0) = 0 := by
    intro quantity
    by_cases same : request.productId = productId <;> simp [same]
  simp [sumWhere_cons, postMovement, StockTransferRequest.source,
    StockTransferRequest.destination, cancel]

end Inventory

/-- Exactly one outbound and one inbound movement carry the transfer's identifier. -/
def TransferPair (transferId : Uuid) (movements : List StockMovement) : Prop :=
  ∃ outbound inbound,
    (movements.filter fun movement => movement.transferId == some transferId) =
      [outbound, inbound] ∧
    outbound.movementType = .transferOut ∧ inbound.movementType = .transferIn ∧
    outbound.productId = inbound.productId ∧ outbound.warehouseId ≠ inbound.warehouseId ∧
    outbound.onHandDelta = -inbound.onHandDelta ∧
    outbound.reservedDelta = 0 ∧ inbound.reservedDelta = 0

structure Transfers (movements : List StockMovement) : Prop where
  identified : ∀ movement ∈ movements, movement.transferId ≠ none ↔
    movement.movementType = .transferOut ∨ movement.movementType = .transferIn
  paired : ∀ movement ∈ movements, ∀ transferId, movement.transferId = some transferId →
    TransferPair transferId movements

theorem TransferPair.append {transferId : Uuid} {movements more : List StockMovement}
    (h : TransferPair transferId movements)
    (other : ∀ movement ∈ more, movement.transferId ≠ some transferId) :
    TransferPair transferId (movements ++ more) := by
  obtain ⟨outbound, inbound, pair, rest⟩ := h
  have none_more : (more.filter fun movement => movement.transferId == some transferId) = [] := by
    simpa [List.filter_eq_nil_iff] using other
  exact ⟨outbound, inbound, by rw [List.filter_append, none_more, pair, List.append_nil], rest⟩

theorem TransferPair.appended {transferId : Uuid} {movements : List StockMovement}
    (unused : ∀ movement ∈ movements, movement.transferId ≠ some transferId)
    {outbound inbound : StockMovement} (outbound_id : outbound.transferId = some transferId)
    (inbound_id : inbound.transferId = some transferId)
    (types : outbound.movementType = .transferOut ∧ inbound.movementType = .transferIn)
    (product : outbound.productId = inbound.productId)
    (warehouses : outbound.warehouseId ≠ inbound.warehouseId)
    (deltas : outbound.onHandDelta = -inbound.onHandDelta ∧
      outbound.reservedDelta = 0 ∧ inbound.reservedDelta = 0) :
    TransferPair transferId (movements ++ [outbound, inbound]) := by
  have none_before : (movements.filter fun movement =>
      movement.transferId == some transferId) = [] := by
    simpa [List.filter_eq_nil_iff] using unused
  refine ⟨outbound, inbound, ?_, types.1, types.2, product, warehouses, deltas⟩
  rw [List.filter_append, none_before]
  simp [outbound_id, inbound_id]

theorem Transfers.append_untransferred {movements : List StockMovement}
    (h : Transfers movements) {movement : StockMovement} (none_id : movement.transferId = none)
    (type : movement.movementType ≠ .transferOut ∧ movement.movementType ≠ .transferIn) :
    Transfers (movements ++ [movement]) where
  identified other member := by
    rcases List.mem_append.mp member with old | new
    · exact h.identified other old
    · rw [List.mem_singleton.mp new]
      simp [none_id, type]
  paired other member transferId carries := by
    rcases List.mem_append.mp member with old | new
    · exact (h.paired other old transferId carries).append (by simp [none_id])
    · rw [List.mem_singleton.mp new, none_id] at carries
      cases carries

theorem Transfers.post {inventory : Inventory} (h : Transfers inventory.movements)
    {request : StockRequest} {draw : Draw} {now : Time}
    {loaded : BalanceKey → Option InventoryBalance} {reservedForReference : Int}
    {postings : List Posting} (fresh : draw.Fresh inventory.movements)
    (change : request.operation.change draw now loaded reservedForReference = .ok postings) :
    Transfers (inventory.post postings).movements := by
  rw [Inventory.post_movements]
  obtain ⟨rows, rfl⟩ := StockRequest.change_postings change
  cases request with
  | receipt | issue | reservation | release =>
    exact h.append_untransferred rfl (by simp [postMovement])
  | transfer request =>
    rw [StockRequest.postings]
    refine ⟨fun movement member => ?_, fun movement member transferId carries => ?_⟩
    · rcases List.mem_append.mp member with old | new
      · exact h.identified movement old
      · simp only [List.map_cons, List.map_nil, List.mem_cons, List.not_mem_nil, or_false] at new
        rcases new with rfl | rfl <;> simp [postMovement]
    · by_cases this_transfer : transferId = draw.transferId
      · subst this_transfer
        exact .appended (fun movement old => (fresh.2 movement old).2.2) rfl rfl ⟨rfl, rfl⟩ rfl
          request.differentWarehouses ⟨rfl, rfl, rfl⟩
      · have other : ∀ movement ∈ [
            postMovement request.source (rows request.source) .transferOut (-request.quantity) 0
              request.referenceId request.reason (some draw.transferId) draw.movementId now,
            postMovement request.destination (rows request.destination) .transferIn request.quantity 0
              request.referenceId request.reason (some draw.transferId)
              draw.inboundMovementId now].map Posting.movement,
            movement.transferId ≠ some transferId := by
          simp [postMovement, Ne.symm this_transfer]
        rcases List.mem_append.mp member with old | new
        · exact (h.paired movement old transferId carries).append other
        · exact absurd carries (other movement new)

end CareerProjects.Warehouse
