import CareerProjects.Warehouse.Orders
import CareerProjects.Warehouse.Reservations

/-! The reservation calls of one order, as the Inventory Service answers them. A call
for a line moves the line between owned and not owned and touches nothing else that
belongs to the order; what it takes from the free stock it gives to the order. -/

namespace CareerProjects.Warehouse

open Library

namespace Inventory

def available (inventory : Inventory) (key : BalanceKey) : Int :=
  (inventory.balance key).quantityOnHand - (inventory.balance key).quantityReserved

theorem loads_own {inventory : Inventory} {operation : StockOperation} {key : BalanceKey}
    (locks : operation.locks = [key]) (inserts : operation.insertsIfMissing = none) :
    operation.loads inventory key = inventory.balances key := by
  simp [StockOperation.loads, locks, inserts]

theorem reserveStock_runs (inventory : Inventory) (request : StockReservationRequest) (draw : Draw)
    (now : Time) :
    (∃ result, (reserveStock request).run draw now inventory = .ok result) ↔
      (inventory.products request.productId).isSome ∧
        inventory.outstanding request.key request.referenceId ≤ 0 ∧
        (inventory.balances request.key).isSome ∧
        request.quantity ≤ inventory.available request.key := by
  have load : (reserveStock request).loads inventory request.key =
      inventory.balances request.key := loads_own rfl rfl
  constructor
  · rintro ⟨⟨postings, inventory'⟩, run⟩
    obtain ⟨product, change, -⟩ := run_ok.mp run
    obtain ⟨unowned, row, found, enough, -⟩ := reserveStock_ok.mp change
    rw [load] at found
    refine ⟨product, unowned, by simp [found], ?_⟩
    simpa [available, balance, found] using enough
  · rintro ⟨product, unowned, present, enough⟩
    obtain ⟨row, found⟩ := Option.isSome_iff_exists.mp present
    refine ⟨(_, _), run_ok.mpr ⟨product, reserveStock_ok.mpr ⟨unowned, row, ?_, ?_, rfl⟩, rfl⟩⟩
    · rw [load, found]
    · simpa [available, balance, found] using enough

theorem releaseStock_runs (inventory : Inventory) (request : StockReleaseRequest) (draw : Draw)
    (now : Time) :
    (∃ result, (releaseStock request).run draw now inventory = .ok result) ↔
      (inventory.products request.productId).isSome ∧
        (inventory.balances request.key).isSome ∧
        request.quantity ≤ min (inventory.outstanding request.key request.referenceId)
          (inventory.balance request.key).quantityReserved := by
  have load : (releaseStock request).loads inventory request.key =
      inventory.balances request.key := loads_own rfl rfl
  have sums : (releaseStock request).sums inventory.movements =
      inventory.outstanding request.key request.referenceId := rfl
  constructor
  · rintro ⟨⟨postings, inventory'⟩, run⟩
    obtain ⟨product, change, -⟩ := run_ok.mp run
    obtain ⟨row, found, enough, -⟩ := releaseStock_ok.mp change
    rw [load] at found
    rw [sums] at enough
    refine ⟨product, by simp [found], ?_⟩
    simpa [balance, found] using enough
  · rintro ⟨product, present, enough⟩
    obtain ⟨row, found⟩ := Option.isSome_iff_exists.mp present
    refine ⟨(_, _), run_ok.mpr ⟨product, releaseStock_ok.mpr ⟨row, ?_, ?_, rfl⟩, rfl⟩⟩
    · rw [load, found]
    · rw [sums]
      simpa [balance, found] using enough

/-- What a reservation or a release of one reference leaves as it was. -/
structure Moves (request : StockRequest) (referenceId : String) (inventory inventory' : Inventory) :
    Prop where
  accounted : inventory.Accounted → inventory'.Accounted
  products : inventory'.products = inventory.products
  rows : ∀ key, (inventory'.balances key).isSome ↔ (inventory.balances key).isSome
  outstanding : ∀ key, inventory'.outstanding key referenceId =
    inventory.outstanding key referenceId + request.reservationDelta key referenceId
  conserved : ∀ key, inventory'.available key + inventory'.outstanding key referenceId =
    inventory.available key + inventory.outstanding key referenceId

theorem moves_of_posting {inventory : Inventory} {request : StockRequest} {key : BalanceKey}
    {row : InventoryBalance} {type : MovementType} {delta : Int} {referenceId : String}
    {reason : Option String} {draw : Draw} {now : Time}
    (found : (inventory.products request.operation.productId).isSome)
    (change : request.operation.change draw now (request.operation.loads inventory)
      (request.operation.sums inventory.movements) = .ok
        [postMovement key row type 0 delta (some referenceId) reason none draw.movementId now])
    (loaded : inventory.balances key = some row)
    (deltas : ∀ other, request.reservationDelta other referenceId =
      if key = other then delta else 0) :
    Moves request referenceId inventory (inventory.post
      [postMovement key row type 0 delta (some referenceId) reason none draw.movementId now]) where
  accounted accounted := accounted.post found change
  products := post_products ..
  rows other := by
    rw [post_isSome, List.map_singleton, List.mem_singleton]
    refine ⟨fun h => h.elim (fun present => present) fun same => ?_, .inl⟩
    rw [same]
    simp [postMovement, loaded]
  outstanding other := referenceReservedQuantity_post change other referenceId
  conserved other := by
    rw [outstanding, referenceReservedQuantity_post change, deltas other, ← outstanding]
    simp only [post, List.foldl_cons, List.foldl_nil, available, record_balance, postMovement]
    by_cases same : other = key
    · simp only [same, if_true, balance, loaded, Option.getD_some]
      omega
    · simp only [same, Ne.symm same, if_false]
      omega

theorem reserveStock_moves {inventory inventory' : Inventory} {request : StockReservationRequest}
    {draw : Draw} {now : Time} {postings : List Posting}
    (run : (reserveStock request).run draw now inventory = .ok (postings, inventory')) :
    Moves (.reservation request) request.referenceId inventory inventory' := by
  obtain ⟨found, change, rfl⟩ := run_ok.mp run
  obtain ⟨-, row, loaded, -, rfl⟩ := reserveStock_ok.mp change
  rw [loads_own rfl rfl] at loaded
  exact moves_of_posting found change loaded fun other => by simp [StockRequest.reservationDelta]

theorem releaseStock_moves {inventory inventory' : Inventory} {request : StockReleaseRequest}
    {draw : Draw} {now : Time} {postings : List Posting}
    (run : (releaseStock request).run draw now inventory = .ok (postings, inventory')) :
    Moves (.release request) request.referenceId inventory inventory' := by
  obtain ⟨found, change, rfl⟩ := run_ok.mp run
  obtain ⟨row, loaded, -, rfl⟩ := releaseStock_ok.mp change
  rw [loads_own rfl rfl] at loaded
  exact moves_of_posting found change loaded fun other => by simp [StockRequest.reservationDelta]

end Inventory

def CallOutcome.delivers : CallOutcome → Prop
  | .delivered _ _ => True
  | _ => False

/-- The call takes effect and its caller does not learn it. -/
def CallOutcome.loses : CallOutcome → Prop
  | .responseLost _ _ => True
  | _ => False

/-- A call whose operation the service would accept succeeds if it is delivered, and has
its effect also if the answer is lost; any other call has no effect. -/
theorem postStock_spec {operation : StockOperation} {rejection : ErrorDetail → ServiceError}
    {outcome : CallOutcome} {inventory : Inventory} {accepts : Prop}
    (h : ∀ draw now, (∃ result, operation.run draw now inventory = .ok result) ↔ accepts) :
    ((postStock operation rejection outcome inventory).1 = .ok () ↔
      outcome.delivers ∧ accepts) ∧
    ((outcome.delivers ∨ outcome.loses) ∧ accepts ∧ (∃ draw now postings,
        operation.run draw now inventory =
          .ok (postings, (postStock operation rejection outcome inventory).2)) ∨
      ¬ ((outcome.delivers ∨ outcome.loses) ∧ accepts) ∧
        (postStock operation rejection outcome inventory).2 = inventory) := by
  cases outcome with
  | notDelivered => simp [postStock, CallOutcome.delivers, CallOutcome.loses]
  | refused detail => simp [postStock, CallOutcome.delivers, CallOutcome.loses]
  | delivered draw now =>
    have accepted := h draw now
    simp only [postStock, CallOutcome.delivers, CallOutcome.loses, true_and, or_false]
    cases run : operation.run draw now inventory with
    | error error =>
      have refused : ¬ accepts := by simpa [run] using accepted.not
      simp [refused]
    | ok result =>
      have takes : accepts := accepted.mp ⟨result, run⟩
      exact ⟨by simp [takes], .inl ⟨takes, draw, now, result.1, run⟩⟩
  | responseLost draw now =>
    have accepted := h draw now
    simp only [postStock, CallOutcome.delivers, CallOutcome.loses, false_and, false_or, true_and]
    cases run : operation.run draw now inventory with
    | error error =>
      have refused : ¬ accepts := by simpa [run] using accepted.not
      simp [refused]
    | ok result =>
      have takes : accepts := accepted.mp ⟨result, run⟩
      exact ⟨by simp, .inl ⟨takes, draw, now, result.1, run⟩⟩

theorem postStock_ok {operation : StockOperation} {rejection : ErrorDetail → ServiceError}
    {outcome : CallOutcome} {inventory : Inventory}
    (h : (postStock operation rejection outcome inventory).1 = .ok ()) :
    ∃ draw now postings, operation.run draw now inventory =
      .ok (postings, (postStock operation rejection outcome inventory).2) := by
  cases outcome with
  | notDelivered => cases h
  | refused => cases h
  | delivered draw now =>
    simp only [postStock] at h ⊢
    cases run : operation.run draw now inventory with
    | error error => simp [run] at h
    | ok result => exact ⟨draw, now, result.1, run⟩
  | responseLost draw now =>
    simp only [postStock] at h
    split at h <;> cases h

theorem buildOrder_ok {warehouse : HttpAnswer Bool} {answers : Uuid → HttpAnswer ProductPayload}
    {orderId : Uuid} {request : OrderCreate} {order : Order}
    (h : buildOrder warehouse answers orderId request = .ok order) :
    order.id = orderId ∧ order.warehouseId = request.warehouseId ∧
      order.lines = request.items.map fun item =>
        ⟨item.productId, item.quantity, item.quantityPositive⟩ := by
  rw [buildOrder] at h
  split at h
  · cases h
  · split at h
    · cases h
    · next items built =>
      cases h
      exact ⟨rfl, rfl, buildItems_lines built⟩

namespace Order

variable (order : Order)

def owned (inventory : Inventory) (key : BalanceKey) : Int :=
  inventory.outstanding key order.orderNumber.1

/-- The Inventory Service can reserve the line, if the order owns nothing of it yet. -/
def Reservable (inventory : Inventory) (line : ReservationLine) : Prop :=
  (inventory.products line.productId).isSome ∧ (inventory.balances (order.key line)).isSome ∧
    line.quantity ≤ inventory.available (order.key line)

theorem key_injective {a b : ReservationLine} (h : order.key a = order.key b) :
    a.productId = b.productId := congrArg BalanceKey.productId h

theorem lines_nodup : (order.lines.map ReservationLine.productId).Nodup := by
  have distinct := order.distinctProducts
  simpa [lines, Function.comp_def] using distinct

theorem line_eq {a b : ReservationLine} (ha : a ∈ order.lines) (hb : b ∈ order.lines)
    (same : a.productId = b.productId) : a = b :=
  List.inj_on_of_nodup_map order.lines_nodup ha hb same

theorem numbered_line_eq {a b : ReservationLine × Nat} (ha : a ∈ order.lines.zipIdx)
    (hb : b ∈ order.lines.zipIdx) (same : a.1.productId = b.1.productId) : a = b := by
  obtain ⟨line, i⟩ := a
  obtain ⟨line', j⟩ := b
  rw [List.mk_mem_zipIdx_iff_getElem?] at ha hb
  have products := order.lines_nodup
  have first : (order.lines.map ReservationLine.productId)[i]? = some line.productId := by
    simp [ha]
  have second : (order.lines.map ReservationLine.productId)[j]? = some line.productId := by
    simp only at same
    simp [hb, same]
  obtain rfl : i = j :=
    (List.getElem?_inj (List.getElem?_eq_some_iff.mp first).1 products).mp
      (first.trans second.symm)
  rw [ha, Option.some.injEq] at hb
  rw [hb]

theorem numbered_lines_nodup : order.lines.zipIdx.Nodup := by
  have indices : (order.lines.zipIdx.map Prod.snd).Nodup := by
    rw [List.zipIdx_map_snd]
    exact List.nodup_range'
  exact indices.of_map _

theorem forall_numbered (holds : ReservationLine → Prop) :
    (∀ item ∈ order.lines.zipIdx, holds item.1) ↔ ∀ line ∈ order.lines, holds line := by
  conv_rhs => rw [← List.zipIdx_map_fst 0 order.lines]
  simp only [List.forall_mem_map]

end Order

end CareerProjects.Warehouse
