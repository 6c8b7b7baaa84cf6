import CareerProjects.Library.Keyed
import CareerProjects.Warehouse.OrderSagas

/-! What a client of the Order Service may rely on when creating or cancelling an order,
whatever becomes of the calls in between, and the one pattern of failures in which it
may not: an answer is lost after the call took effect, and all compensating calls
succeed, so that nobody is told. -/

namespace CareerProjects.Warehouse

open Library

def orderedQuantity (request : OrderCreate) (key : BalanceKey) : Int :=
  if key.warehouseId = request.warehouseId then
    ((request.items.find? fun item => item.productId == key.productId).map
      OrderItemCreate.quantity).getD 0
  else 0

def CreateConsistent (orderId : Uuid) (request : OrderCreate) :
    Except OrderError Order × World → Prop
  | (.ok order, world) =>
    order.id = orderId ∧ order.status = .reserved ∧ world.orders orderId = some order ∧
      order.warehouseId = request.warehouseId ∧
      order.lines = request.items.map (fun item =>
        ⟨item.productId, item.quantity, item.quantityPositive⟩) ∧
      ∀ key, order.owned world.inventory key = orderedQuantity request key
  | (.error (.orderCompensation _), _) => True
  | (.error _, world) =>
    world.orders orderId = none ∧
      ∀ key, world.inventory.outstanding key (generateOrderNumber orderId).1 = 0

section ordered

variable {request : OrderCreate} {order : Order}
  (warehouse : order.warehouseId = request.warehouseId)
  (lines : order.lines = request.items.map fun item =>
    ⟨item.productId, item.quantity, item.quantityPositive⟩)

include warehouse lines

theorem orderedQuantity_line {line : ReservationLine} (member : line ∈ order.lines) :
    orderedQuantity request (order.key line) = line.quantity := by
  rw [lines] at member
  obtain ⟨item, present, rfl⟩ := List.mem_map.mp member
  have found : request.items.find? (fun other => other.productId == item.productId) = some item :=
    find?_key request.distinctProducts present
  simp [orderedQuantity, Order.key, warehouse, found]

theorem orderedQuantity_elsewhere {key : BalanceKey}
    (outside : ∀ line ∈ order.lines, key ≠ order.key line) : orderedQuantity request key = 0 := by
  by_cases here : key.warehouseId = request.warehouseId
  · have absent : request.items.find? (fun item => item.productId == key.productId) = none := by
      rw [List.find?_eq_none]
      intro item present same
      simp only [beq_iff_eq] at same
      have member : ⟨item.productId, item.quantity, item.quantityPositive⟩ ∈ order.lines := by
        rw [lines]
        exact List.mem_map.mpr ⟨item, present, rfl⟩
      refine outside _ member ?_
      rw [Order.key, warehouse, ← here, same]
    simp [orderedQuantity, absent]
  · simp [orderedQuantity, here]

end ordered

/-- The failures that `createOrder` does not notice: reserving some line takes effect
without an answer, after every earlier line was reserved, and each of those is released
again. -/
def LostReservation (environment : Environment) (orderId : Uuid) (request : OrderCreate)
    (inventory : Inventory) : Prop :=
  ∃ order, buildOrder environment.warehouse environment.products orderId request = .ok order ∧
    environment.flush = .ok () ∧
    SagaLaws.Leak
      (fun item => (environment.reserve item.2).delivers ∧ order.Reservable inventory item.1)
      (fun item => (environment.reserve item.2).loses ∧ order.Reservable inventory item.1)
      (fun item => (environment.release item.2).delivers) order.lines.zipIdx

theorem Order.InProgress.owned_iff {order : Order} {start inventory : Inventory}
    (h : order.InProgress start inventory) (unowned : ∀ key, order.owned start key = 0)
    (quantity : BalanceKey → Int)
    (elsewhere : ∀ key, (∀ line ∈ order.lines, key ≠ order.key line) → quantity key = 0) :
    (∀ key, order.owned inventory key = quantity key) ↔
      ∀ line ∈ order.lines, order.owned inventory (order.key line) =
        quantity (order.key line) := by
  refine ⟨fun all line _ => all _, fun lines key => ?_⟩
  by_cases inside : ∃ line ∈ order.lines, key = order.key line
  · obtain ⟨line, member, rfl⟩ := inside
    exact lines line member
  · have outside : ∀ line ∈ order.lines, key ≠ order.key line :=
      fun line member same => inside ⟨line, member, same⟩
    rw [h.elsewhere key outside, unowned, elsewhere key outside]

/-- Creating an order is all or nothing, unless a reservation takes effect without its
answer and every compensating release succeeds. -/
theorem createOrder_consistent (environment : Environment) (orderId : Uuid)
    (request : OrderCreate) (world : World) (accounted : world.inventory.Accounted)
    (newOrder : world.orders orderId = none)
    (newReference : ∀ key, world.inventory.outstanding key (generateOrderNumber orderId).1 = 0) :
    CreateConsistent orderId request (createOrder environment orderId request world) ↔
      ¬ LostReservation environment orderId request world.inventory := by
  rw [createOrder]
  cases built : buildOrder environment.warehouse environment.products orderId request with
  | error error =>
    have nothing : ¬ LostReservation environment orderId request world.inventory := by
      simp [LostReservation, built]
    simpa [nothing, CreateConsistent, newOrder] using newReference
  | ok order =>
    obtain ⟨id, warehouse, lines⟩ := buildOrder_ok built
    have number : order.orderNumber = generateOrderNumber orderId := by rw [order.numbered, id]
    have unowned : ∀ key, order.owned world.inventory key = 0 := by
      intro key
      rw [Order.owned, number]
      exact newReference key
    cases flush : environment.flush with
    | error error =>
      have nothing : ¬ LostReservation environment orderId request world.inventory := by
        simp [LostReservation, built, flush]
      simpa [nothing, CreateConsistent, newOrder] using newReference
    | ok =>
      have laws := Order.creating_laws environment fun line _ => unowned (order.key line)
      have progress : order.InProgress world.inventory world.inventory :=
        .start_of accounted fun line _ => .inl (unowned (order.key line))
      have fresh : ∀ item ∈ order.lines.zipIdx,
          ¬ order.owned world.inventory (order.key item.1) = item.1.quantity := by
        intro item _
        have positive := item.1.quantityPositive
        rw [unowned]
        omega
      obtain ⟨after, consistent⟩ := laws.saga_consistent List.reverse List.reverse_perm
        order.numbered_lines_nodup progress fresh environment.commit
      have lost : LostReservation environment orderId request world.inventory ↔ SagaLaws.Leak
          (fun item => (environment.reserve item.2).delivers ∧
            order.Reservable world.inventory item.1)
          (fun item => (environment.reserve item.2).loses ∧
            order.Reservable world.inventory item.1)
          (fun item => (environment.release item.2).delivers) order.lines.zipIdx := by
        simp [LostReservation, built, flush]
      rw [lost, ← consistent]
      dsimp only
      generalize saga (reserveLine order environment) (releaseLine order environment) List.reverse
        environment.commit order.lines.zipIdx world.inventory = outcome at after ⊢
      obtain ⟨result, inventory⟩ := outcome
      cases result with
      | completed =>
        have all := after.owned_iff unowned (orderedQuantity request) fun key outside =>
          orderedQuantity_elsewhere warehouse lines outside
        simp only [CreateConsistent, World.save, id, warehouse, Function.update_self, true_and,
          SagaLaws.Consistent]
        rw [order.forall_numbered fun line => order.owned inventory (order.key line) = line.quantity]
        refine ⟨fun holds line member => ?_, fun owns => ⟨lines, all.mpr fun line member => ?_⟩⟩
        · rw [all.mp holds.2 line member, orderedQuantity_line warehouse lines member]
        · rw [owns line member, orderedQuantity_line warehouse lines member]
      | undone error =>
        have all := after.owned_iff unowned (fun _ => 0) fun _ _ => rfl
        simp only [CreateConsistent, newOrder, true_and, SagaLaws.Consistent, ← number]
        rw [order.forall_numbered fun line =>
          ¬ order.owned inventory (order.key line) = line.quantity]
        refine all.trans ⟨fun none line member => ?_, fun none line member => ?_⟩
        · have positive := line.quantityPositive
          rw [none line member]
          omega
        · exact (after.lines line member).resolve_right (none line member)
      | stuck failures => simp [CreateConsistent, compensationError, SagaLaws.Consistent]

def stockReceipt : StockReceiptRequest := tenUnits

def stockedWorld : World where
  orders _ := none
  inventory := (Inventory.empty oneProduct).post
    [postMovement ⟨1, 2⟩ .empty .receipt 10 0 none none none 1 0]

theorem stockedWorld_accounted : stockedWorld.inventory.Accounted :=
  (Inventory.Sound.empty oneProduct).toAccounted.post (by decide)
    (show (StockRequest.receipt stockReceipt).operation.change ⟨1, 2, 3⟩ 0 _ _ = _ from rfl)

def answering (reserve release : CallOutcome) : Environment where
  warehouse := .ok true
  products _ := .ok ⟨true, some 5⟩
  reserve _ := reserve
  release _ := release
  flush := .ok ()
  commit := .ok ()

/-- All answers arrive: nothing is lost, and the order is stored with what it reserved. -/
theorem createOrder_consistent_delivered :
    ¬LostReservation (answering (.delivered ⟨4, 5, 6⟩ 1) .notDelivered) 9 threeUnits stockedWorld.inventory ∧
      CreateConsistent 9 threeUnits
        (createOrder (answering (.delivered ⟨4, 5, 6⟩ 1) .notDelivered) 9 threeUnits stockedWorld) := by
  have kept : ¬LostReservation (answering (.delivered ⟨4, 5, 6⟩ 1) .notDelivered) 9 threeUnits stockedWorld.inventory := by
    rintro ⟨order, -, -, done, failed, rest, -, -, -, lost, -⟩
    cases lost
  refine ⟨kept, (createOrder_consistent _ 9 threeUnits stockedWorld stockedWorld_accounted rfl fun key => ?_).mpr kept⟩
  simp [Inventory.outstanding, stockedWorld, Inventory.empty, Inventory.post, Inventory.record,
    referenceReservedQuantity_singleton, postMovement]

def serviceFailure : Except OrderError Order → Option ServiceError
  | .error (.service error) => some error
  | _ => none

/-- The answer to the only reservation is lost: the request fails, and the order that
does not exist owns three units. -/
theorem createOrder_lost_reservation :
    ¬ ∀ (environment : Environment) (orderId : Uuid) (request : OrderCreate) (world : World),
      world.inventory.Accounted → world.orders orderId = none →
      (∀ key, world.inventory.outstanding key (generateOrderNumber orderId).1 = 0) →
      CreateConsistent orderId request (createOrder environment orderId request world) := by
  intro consistent
  have holds := consistent (answering (.responseLost ⟨4, 5, 6⟩ 1) .notDelivered) 9 threeUnits
    stockedWorld stockedWorld_accounted rfl fun key => by
      simp [Inventory.outstanding, stockedWorld, Inventory.empty, Inventory.post,
        Inventory.record, referenceReservedQuantity_singleton, postMovement]
  have facts : (serviceFailure (createOrder (answering (.responseLost ⟨4, 5, 6⟩ 1) .notDelivered) 9
        threeUnits stockedWorld).1).isSome ∧
      (createOrder (answering (.responseLost ⟨4, 5, 6⟩ 1) .notDelivered) 9 threeUnits
        stockedWorld).2.inventory.outstanding ⟨1, 2⟩ (generateOrderNumber 9).1 = 3 := by decide +kernel
  rcases outcome : createOrder (answering (.responseLost ⟨4, 5, 6⟩ 1) .notDelivered) 9 threeUnits stockedWorld
    with ⟨result, world⟩
  rw [outcome] at holds facts
  obtain ⟨failed, owned⟩ := facts
  cases result with
  | ok order => cases failed
  | error error =>
    cases error with
    | service error =>
      have none_owned : world.inventory.outstanding ⟨1, 2⟩ (generateOrderNumber 9).1 = 0 := holds.2 ⟨1, 2⟩
      have three : world.inventory.outstanding ⟨1, 2⟩ (generateOrderNumber 9).1 = 3 := owned
      omega
    | _ => cases failed

def releases (inventory : Inventory) (referenceId : String) : List (BalanceKey × Int) :=
  (inventory.movements.filter fun movement =>
    movement.movementType == .release && movement.referenceId == some referenceId).map
      fun movement => (movement.key, movement.reservedDelta)

def Environment.Reliable (environment : Environment) : Prop :=
  (∀ index, (environment.release index).delivers) ∧ environment.commit = .ok ()

def CancelConsistent (order : Order) (before : Inventory) :
    Except OrderError Order × World → Prop
  | (.ok cancelled, world) =>
    cancelled = { order with status := .cancelled } ∧ world.orders order.id = some cancelled ∧
      releases world.inventory order.orderNumber.1 = releases before order.orderNumber.1 ++
        order.lines.map fun line => (order.key line, -line.quantity)
  | (.error (.orderCompensation _), _) => True
  | (.error _, world) =>
    world.orders order.id = some order ∧
      (∀ line ∈ order.lines, order.owned world.inventory (order.key line) = line.quantity) ∧
      ∀ environment : Environment, environment.Reliable → ∃ cancelled world',
        cancelOrder environment order.id world = (.ok cancelled, world') ∧
          cancelled.status = .cancelled

def LostRelease (environment : Environment) (order : Order) : Prop :=
  SagaLaws.Leak (fun item => (environment.release item.2).delivers)
    (fun item => (environment.release item.2).loses)
    (fun item => (environment.reserve item.2).delivers) order.lines.zipIdx

theorem releaseLine_releases (order : Order) (environment : Environment)
    (item : ReservationLine × Nat) (inventory : Inventory)
    (ok : (releaseLine order environment item inventory).1 = .ok ()) :
    releases (releaseLine order environment item inventory).2 order.orderNumber.1 =
      releases inventory order.orderNumber.1 ++ [(order.key item.1, -item.1.quantity)] := by
  obtain ⟨draw, now, postings, run⟩ := postStock_ok ok
  obtain ⟨-, change, posted⟩ := Inventory.run_ok.mp run
  obtain ⟨row, -, -, rfl⟩ := releaseStock_ok.mp change
  rw [releaseLine, clientReleaseStock, posted]
  simp [releases, postMovement, releaseRequest, StockMovement.key, StockReservationRequest.key,
    Order.key]

section cancelling

variable {order : Order} {world : World} (accounted : world.inventory.Accounted)
  (owns : ∀ line ∈ order.lines,
    order.owned world.inventory (order.key line) = line.quantity)

include accounted owns

theorem cancelling_progress : order.InProgress world.inventory world.inventory :=
  .start_of accounted fun line member => .inr (owns line member)

omit accounted in
theorem cancelling_fresh : ∀ item ∈ order.lines.zipIdx,
    ¬ order.owned world.inventory (order.key item.1) = 0 := by
  intro item member
  have positive := item.1.quantityPositive
  rw [owns item.1 (Order.numbered_mem member)]
  omega

theorem cancelOrder_reliable (stored : world.orders order.id = some order)
    (reserved : order.status = .reserved) {environment : Environment}
    (reliable : environment.Reliable) : ∃ cancelled world',
      cancelOrder environment order.id world = (.ok cancelled, world') ∧
        cancelled.status = .cancelled := by
  have laws := Order.cancelling_laws environment accounted owns
  have completed := (laws.saga_completed id order.numbered_lines_nodup
    (cancelling_progress accounted owns) (cancelling_fresh owns) environment.commit).mpr
    ⟨reliable.2, fun item _ => reliable.1 item.2⟩
  simp only [cancelOrder, requireOrder, stored, reserved]
  generalize saga (releaseLine order environment) (reserveLine order environment) id
    environment.commit order.lines.zipIdx world.inventory = outcome at completed ⊢
  obtain ⟨result, inventory⟩ := outcome
  cases completed
  exact ⟨_, _, rfl, rfl⟩

/-- Cancelling an order is all or nothing, unless a release takes effect without its
answer and every compensating reservation succeeds. -/
theorem cancelOrder_consistent (environment : Environment)
    (stored : world.orders order.id = some order) (reserved : order.status = .reserved) :
    CancelConsistent order world.inventory (cancelOrder environment order.id world) ↔
      ¬ LostRelease environment order := by
  have laws := Order.cancelling_laws environment accounted owns
  obtain ⟨after, consistent⟩ := laws.saga_consistent id (fun _ => .refl _)
    order.numbered_lines_nodup (cancelling_progress accounted owns) (cancelling_fresh owns)
    environment.commit
  have completedState := @saga_completed_state _ _ _ (releaseLine order environment)
    (reserveLine order environment) id environment.commit order.lines.zipIdx world.inventory
  have history := @attemptEach_history _ _ _ _ (releaseLine order environment)
    (fun inventory => releases inventory order.orderNumber.1)
    (fun item => (order.key item.1, -item.1.quantity)) order.lines.zipIdx
    (fun item _ inventory ok => releaseLine_releases order environment item inventory ok)
    world.inventory
  have tight := fun completed => @SagaLaws.completed_tight _ _ _ _ _ _ _ _ _ _ _ laws id
    order.numbered_lines_nodup _ (cancelling_progress accounted owns) (cancelling_fresh owns)
    environment.commit completed
  rw [LostRelease]
  simp only [cancelOrder, requireOrder, stored, reserved]
  generalize saga (releaseLine order environment) (reserveLine order environment) id
    environment.commit order.lines.zipIdx world.inventory = outcome
    at after consistent completedState tight ⊢
  obtain ⟨result, inventory⟩ := outcome
  cases result with
  | completed =>
    obtain ⟨ok, same⟩ := completedState rfl
    have appended := history ok
    rw [← same] at appended
    have lines : order.lines.zipIdx.map (fun item => (order.key item.1, -item.1.quantity)) =
        order.lines.map fun line => (order.key line, -line.quantity) := by
      conv_rhs => rw [← List.zipIdx_map_fst 0 order.lines]
      rw [List.map_map]
      rfl
    rw [lines] at appended
    simp only [tight rfl, not_false_eq_true, iff_true]
    exact ⟨rfl, Function.update_self .., appended⟩
  | undone error =>
    rw [← consistent]
    simp only [CancelConsistent, SagaLaws.Consistent, stored, true_and]
    rw [order.forall_numbered fun line => ¬ order.owned inventory (order.key line) = 0]
    refine ⟨fun holds line member => ?_, fun remains => ?_⟩
    · have positive := line.quantityPositive
      rw [holds.1 line member]
      omega
    · have still : ∀ line ∈ order.lines,
          order.owned inventory (order.key line) = line.quantity :=
        fun line member => (after.lines line member).resolve_left (remains line member)
      refine ⟨still, fun later reliable => ?_⟩
      exact @cancelOrder_reliable order { world with inventory := inventory } after.accounted still
        stored reserved later reliable
  | stuck failures =>
    rw [← consistent]
    simp [CancelConsistent, compensationError, SagaLaws.Consistent]

end cancelling

def reservedOrder : Order where
  id := 9
  orderNumber := generateOrderNumber 9
  customerName := "Customer"
  customerEmail := "customer@example.com"
  warehouseId := 2
  status := .reserved
  totalAmount := 15
  items := [⟨⟨1, 3, threeOfOne.quantityPositive⟩, 5, 15⟩]
  numbered := rfl
  distinctProducts := by decide

def reservedWorld : World where
  orders id := if id = 9 then some reservedOrder else none
  inventory := stockedWorld.inventory.post
    [postMovement ⟨1, 2⟩ ⟨10, 0⟩ .reservation 0 3 (some (generateOrderNumber 9).1)
      (some "Order inventory reservation") none 4 1]

def threeUnitsLine : ReservationLine := ⟨1, 3, threeOfOne.quantityPositive⟩

theorem reservedWorld_accounted : reservedWorld.inventory.Accounted :=
  stockedWorld_accounted.post (by decide)
    (show (StockRequest.reservation (reservationRequest 2 (generateOrderNumber 9)
      threeUnitsLine)).operation.change ⟨4, 5, 6⟩ 1 _ _ = _ by decide)

theorem reservedOrder_owns : ∀ line ∈ reservedOrder.lines,
    reservedOrder.owned reservedWorld.inventory (reservedOrder.key line) = line.quantity := by
  decide

theorem cancelOrder_consistent_delivered :
    ¬LostRelease (answering .notDelivered (.delivered ⟨7, 8, 9⟩ 2)) reservedOrder ∧
      CancelConsistent reservedOrder reservedWorld.inventory
        (cancelOrder (answering .notDelivered (.delivered ⟨7, 8, 9⟩ 2)) 9 reservedWorld) := by
  have kept : ¬LostRelease (answering .notDelivered (.delivered ⟨7, 8, 9⟩ 2)) reservedOrder := by
    rintro ⟨done, failed, rest, -, -, -, lost⟩
    cases lost
  exact ⟨kept, (cancelOrder_consistent reservedWorld_accounted reservedOrder_owns _ rfl rfl).mpr kept⟩

/-- The answer to the only release is lost: the request fails, and the order is still
reserved but owns nothing. -/
theorem cancelOrder_lost_release :
    ¬ ∀ (environment : Environment) (order : Order) (world : World),
      world.inventory.Accounted → world.orders order.id = some order →
      order.status = .reserved →
      (∀ line ∈ order.lines, order.owned world.inventory (order.key line) = line.quantity) →
      CancelConsistent order world.inventory (cancelOrder environment order.id world) := by
  intro consistent
  have holds := consistent (answering .notDelivered (.responseLost ⟨7, 8, 9⟩ 2)) reservedOrder
    reservedWorld reservedWorld_accounted rfl rfl reservedOrder_owns
  have facts : (match cancelOrder (answering .notDelivered (.responseLost ⟨7, 8, 9⟩ 2))
      reservedOrder.id reservedWorld with
    | (.error (.service _), world) => reservedOrder.owned world.inventory ⟨1, 2⟩ == 0
    | _ => false) = true := by decide +kernel
  split at facts
  · next error world result =>
    rw [result] at holds
    have owned := holds.2.1 ⟨1, 3, by decide⟩ (by decide)
    rw [beq_iff_eq] at facts
    have same : reservedOrder.key ⟨1, 3, by decide⟩ = ⟨1, 2⟩ := rfl
    rw [same] at owned
    simp only at owned
    omega
  · cases facts

end CareerProjects.Warehouse
