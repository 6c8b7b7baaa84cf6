import CareerProjects.Warehouse.OrderSagas
import CareerProjects.Warehouse.OrderSystem

/-! What one step of a request can do. Each step either only moves the request on, or
moves one line of its order in or out of the inventory, or writes the row of its order;
it leaves every other order as it was. -/

namespace CareerProjects.Warehouse

open Library

def Inventory.history (inventory : Inventory) (referenceId : String) : List StockMovement :=
  inventory.movements.filter fun movement => movement.referenceId == some referenceId

theorem Inventory.outstanding_history (inventory : Inventory) (key : BalanceKey)
    (referenceId : String) : inventory.outstanding key referenceId =
      referenceReservedQuantity (inventory.history referenceId) key referenceId := by
  rw [outstanding, history]
  induction inventory.movements with
  | nil => rfl
  | cons movement rest ih =>
    simp only [referenceReservedQuantity, sumWhere_cons] at ih ⊢
    rw [ih]
    cases own : movement.referenceId == some referenceId with
    | true => simp [own, sumWhere_cons]
    | false => simp [own]

theorem Inventory.outstanding_of_history {inventory inventory' : Inventory} {referenceId : String}
    (same : inventory'.history referenceId = inventory.history referenceId) (key : BalanceKey) :
    inventory'.outstanding key referenceId = inventory.outstanding key referenceId := by
  rw [outstanding_history, outstanding_history, same]

theorem StockRequest.posted_reference {request : StockRequest} {draw : Draw} {now : Time}
    {loaded : BalanceKey → Option InventoryBalance} {reservedForReference : Int}
    {postings : List Posting}
    (change : request.operation.change draw now loaded reservedForReference = .ok postings) :
    ∀ movement ∈ postings.map Posting.movement, movement.referenceId = request.referenceId := by
  obtain ⟨rows, rfl⟩ := change_postings change
  cases request <;> simp [postings, postMovement, referenceId]

theorem Inventory.run_history {inventory inventory' : Inventory} {request : StockRequest}
    {draw : Draw} {now : Time} {postings : List Posting}
    (run : request.operation.run draw now inventory = .ok (postings, inventory'))
    {referenceId : String} (other : request.referenceId ≠ some referenceId) :
    inventory'.history referenceId = inventory.history referenceId := by
  obtain ⟨-, change, rfl⟩ := run_ok.mp run
  have references := StockRequest.posted_reference change
  rw [history, post_movements, List.filter_append, history]
  have none : (postings.map Posting.movement).filter
      (fun movement => movement.referenceId == some referenceId) = [] := by
    rw [List.filter_eq_nil_iff]
    intro movement member
    simp [references movement member, other]
  rw [none, List.append_nil]

theorem Inventory.run_accounted {inventory inventory' : Inventory} {request : StockRequest}
    {draw : Draw} {now : Time} {postings : List Posting} (accounted : inventory.Accounted)
    (run : request.operation.run draw now inventory = .ok (postings, inventory')) :
    inventory'.Accounted := by
  obtain ⟨found, change, rfl⟩ := run_ok.mp run
  exact accounted.post found change

namespace Order

variable {order : Order} {line : ReservationLine} {inventory inventory' : Inventory}

def Reserves (order : Order) (line : ReservationLine) (inventory inventory' : Inventory) : Prop :=
  ∃ draw now postings,
    (reserveStock (reservationRequest order.warehouseId order.orderNumber line)).run draw now
      inventory = .ok (postings, inventory')

def Releases (order : Order) (line : ReservationLine) (inventory inventory' : Inventory) : Prop :=
  ∃ draw now postings,
    (releaseStock (releaseRequest order.warehouseId order.orderNumber line)).run draw now
      inventory = .ok (postings, inventory')

theorem Reserves.moved (accounted : inventory.Accounted)
    (h : order.Reserves line inventory inventory') :
    order.owned inventory (order.key line) = 0 ∧
      order.Moved line line.quantity inventory inventory' := by
  obtain ⟨draw, now, postings, run⟩ := h
  have accepted := (Inventory.reserveStock_runs inventory _ draw now).mp ⟨_, run⟩
  have nonnegative := accounted.reservations.nonnegative (order.key line) order.orderNumber.1
  exact ⟨le_antisymm accepted.2.1 nonnegative, moved_of_reservation (Inventory.reserveStock_moves run)⟩

theorem Releases.moved (h : order.Releases line inventory inventory') :
    line.quantity ≤ order.owned inventory (order.key line) ∧
      order.Moved line (-line.quantity) inventory inventory' := by
  obtain ⟨draw, now, postings, run⟩ := h
  have accepted := (Inventory.releaseStock_runs inventory _ draw now).mp ⟨_, run⟩
  exact ⟨accepted.2.2.trans (min_le_left _ _), moved_of_release (Inventory.releaseStock_moves run)⟩

/-- Reserving or releasing a line, or neither. -/
inductive Moves (order : Order) (inventory inventory' : Inventory) : Prop
  | none (same : inventory' = inventory)
  | reserves (line : ReservationLine) (h : order.Reserves line inventory inventory')
  | releases (line : ReservationLine) (h : order.Releases line inventory inventory')

theorem Moves.accounted (h : order.Moves inventory inventory') (accounted : inventory.Accounted) :
    inventory'.Accounted := by
  cases h with
  | none same => rwa [same]
  | reserves line h =>
    obtain ⟨draw, now, postings, run⟩ := h
    exact @Inventory.run_accounted _ _ (.reservation _) _ _ _ accounted run
  | releases line h =>
    obtain ⟨draw, now, postings, run⟩ := h
    exact @Inventory.run_accounted _ _ (.release _) _ _ _ accounted run

theorem Moves.history (h : order.Moves inventory inventory') {orderId : Uuid}
    (other : orderId ≠ order.id) :
    inventory'.history (generateOrderNumber orderId).1 =
      inventory.history (generateOrderNumber orderId).1 := by
  have numbers : some order.orderNumber.1 ≠ some (generateOrderNumber orderId).1 := by
    rw [order.numbered]
    intro same
    exact other (generateOrderNumber_injective (Subtype.ext (Option.some.inj same))).symm
  cases h with
  | none same => rw [same]
  | reserves line h =>
    obtain ⟨draw, now, postings, run⟩ := h
    exact @Inventory.run_history _ _ (.reservation _) _ _ _ run _ numbers
  | releases line h =>
    obtain ⟨draw, now, postings, run⟩ := h
    exact @Inventory.run_history _ _ (.release _) _ _ _ run _ numbers

end Order

theorem postStock_cases {operation : StockOperation} {rejection : ErrorDetail → ServiceError}
    {outcome : CallOutcome} {inventory : Inventory} (known : ¬ outcome.loses) :
    (∃ inventory' draw now postings,
      postStock operation rejection outcome inventory = (.ok (), inventory') ∧
        operation.run draw now inventory = .ok (postings, inventory')) ∨
      ∃ error, postStock operation rejection outcome inventory = (.error error, inventory) := by
  cases outcome with
  | notDelivered => exact .inr ⟨_, rfl⟩
  | refused detail => exact .inr ⟨_, rfl⟩
  | responseLost draw now => exact absurd trivial known
  | delivered draw now =>
    simp only [postStock]
    cases run : operation.run draw now inventory with
    | error error => exact .inr ⟨_, rfl⟩
    | ok result => exact .inl ⟨result.2, draw, now, result.1, rfl, run⟩

/-- Whether the request is creating its order. -/
def OrderRequest.creates : OrderRequest → Bool
  | .building .. | .reserving .. | .abandoning .. => true
  | _ => false

/-- The lines of a stored order that the request took out of the inventory and has not
put back. -/
def OrderRequest.owed : OrderRequest → List ReservationLine
  | .releasing _ _ released => released
  | .restoring _ pending failures _ => pending ++ failures.map Prod.fst
  | .unrestored _ failures => failures.map Prod.fst
  | _ => []

namespace OrderSession

/-- The steps of a request, with what each needs of its session. -/
inductive Advances (id : RequestId) (session : OrderSession) (event : OrderEvent) :
    OrderSession → Prop
  | finishes (result : Except OrderError Order) (debtless : session.request.owed = []) :
      Advances id session event (session.finish result)
  | builds (orderId : Uuid) (request : OrderCreate) (order : Order)
      (phase : session.request = .building orderId request) (same : order.id = orderId) :
      Advances id session event { session with request := .reserving order order.lines [] }
  | reserves (order : Order) (line : ReservationLine) (pending reserved : List ReservationLine)
      (inventory : Inventory) (phase : session.request = .reserving order (line :: pending) reserved)
      (h : order.Reserves line session.inventory inventory) :
      Advances id session event
        { session with
          request := .reserving order pending (reserved ++ [line]), inventory := inventory }
  | abandons (order : Order) (pending reserved : List ReservationLine) (error : ServiceError)
      (phase : session.request = .reserving order pending reserved) :
      Advances id session event
        { session with request := .abandoning order reserved.reverse [] error }
  | creates (order : Order) (reserved : List ReservationLine)
      (phase : session.request = .reserving order [] reserved) :
      Advances id session event
        { session with
          request := .returning order.id, row := some (order.withStatus .reserved) }
  | compensates (order : Order) (pending pending' : List ReservationLine)
      (failures failures' : List (ReservationLine × ServiceError)) (error : ServiceError)
      (inventory : Inventory) (phase : session.request = .abandoning order pending failures error)
      (h : order.Moves session.inventory inventory) :
      Advances id session event
        { session with
          request := .abandoning order pending' failures' error, inventory := inventory }
  | locksToConfirm (order : Order) (phase : session.request = .confirming session.request.orderId)
      (stored : session.row = some order) (free : session.lockedBy = none)
      (reserved : order.status = .reserved) :
      Advances id session event
        { session with request := .confirmable order, lockedBy := some id }
  | confirmFails (order : Order) (error : ServiceError)
      (phase : session.request = .confirmable order) :
      Advances id session event { session.finish (.error (.service error)) with lockedBy := none }
  | confirms (order : Order) (phase : session.request = .confirmable order)
      (committed : event = .commit (.ok ())) :
      Advances id session event (session.commitRow (order.withStatus .confirmed))
  | locksToCancel (order : Order) (phase : session.request = .cancelling session.request.orderId)
      (stored : session.row = some order) (free : session.lockedBy = none)
      (reserved : order.status = .reserved) :
      Advances id session event
        { session with request := .releasing order order.lines [], lockedBy := some id }
  | releases (order : Order) (line : ReservationLine) (pending released : List ReservationLine)
      (inventory : Inventory) (phase : session.request = .releasing order (line :: pending) released)
      (h : order.Releases line session.inventory inventory) :
      Advances id session event
        { session with
          request := .releasing order pending (released ++ [line]), inventory := inventory }
  | rollsBack (order : Order) (pending released : List ReservationLine) (error : ServiceError)
      (phase : session.request = .releasing order pending released) :
      Advances id session event (session.rollback order released error)
  | cancels (order : Order) (released : List ReservationLine)
      (phase : session.request = .releasing order [] released) :
      Advances id session event (session.commitRow (order.withStatus .cancelled))
  | restores (order : Order) (line : ReservationLine) (pending : List ReservationLine)
      (failures : List (ReservationLine × ServiceError)) (error : ServiceError)
      (inventory : Inventory)
      (phase : session.request = .restoring order (line :: pending) failures error)
      (h : order.Reserves line session.inventory inventory) :
      Advances id session event
        { session with
          request := .restoring order pending failures error, inventory := inventory }
  | restoreFails (order : Order) (line : ReservationLine) (pending : List ReservationLine)
      (failures : List (ReservationLine × ServiceError)) (error failure : ServiceError)
      (phase : session.request = .restoring order (line :: pending) failures error) :
      Advances id session event
        { session with
          request := .restoring order pending (failures ++ [(line, failure)]) error }
  | givesUp (order : Order) (failures : List (ReservationLine × ServiceError))
      (error : ServiceError) (phase : session.request = .restoring order [] failures error) :
      Advances id session event { session with request := .unrestored order failures }

variable {id : RequestId} {session session' : OrderSession} {event : OrderEvent}

theorem createOrder_cases (known : ∀ outcome, event = .call outcome → ¬ outcome.loses)
    (h : session.createOrder event = some session') : Advances id session event session' := by
  cases event with
  | build warehouse products flush =>
    simp only [createOrder] at h
    split at h
    · next orderId request phase =>
      split at h
      · cases h
        exact .finishes _ (by simp [phase, OrderRequest.owed])
      · next order built =>
        split at h
        · cases h
          exact .finishes _ (by simp [phase, OrderRequest.owed])
        · cases h
          exact .builds orderId request order phase (buildOrder_ok built).1
    · cases h
  | call outcome =>
    simp only [createOrder] at h
    split at h
    · next order line pending reserved phase =>
      rcases postStock_cases (known outcome rfl) with
        ⟨inventory, draw, now, postings, answer, run⟩ | ⟨error, answer⟩
      · rw [clientReserveStock, answer] at h
        cases h
        exact .reserves order line pending reserved _ phase ⟨draw, now, postings, run⟩
      · rw [clientReserveStock, answer] at h
        cases h
        exact .abandons order (line :: pending) reserved error phase
    · next order line pending failures error phase =>
      rcases postStock_cases (known outcome rfl) with
        ⟨inventory, draw, now, postings, answer, run⟩ | ⟨failure, answer⟩
      · rw [clientReleaseStock, answer] at h
        cases h
        exact .compensates order _ _ failures failures error _ phase
          (.releases line ⟨draw, now, postings, run⟩)
      · rw [clientReleaseStock, answer] at h
        cases h
        exact .compensates order _ _ failures _ error _ phase (.none rfl)
    · cases h
  | commit result =>
    simp only [createOrder] at h
    split at h
    · next order reserved phase =>
      split at h
      · cases h
        exact .abandons order [] reserved _ phase
      · cases h
        exact .creates order reserved phase
    · cases h
  | conclude =>
    simp only [createOrder] at h
    split at h
    · next order error phase =>
      cases h
      exact .finishes _ (by simp [phase, OrderRequest.owed])
    · next order failures error notEmpty phase =>
      cases h
      exact .finishes _ (by simp [phase, OrderRequest.owed])
    · cases h
  | load | reload => cases h

theorem confirmOrder_cases (h : session.confirmOrder id event = some session') :
    Advances id session event session' := by
  cases event with
  | load =>
    simp only [confirmOrder] at h
    split at h
    · next orderId phase =>
      have waiting : session.request = .confirming session.request.orderId := by
        rw [phase]
        rfl
      have ends : ∀ result, Advances id session .load (session.finish result) := fun result =>
        .finishes result (by simp [phase, OrderRequest.owed])
      split at h
      · cases h
        exact ends _
      · next order stored =>
        split at h
        · cases h
        · next free =>
          have unlocked : session.lockedBy = none := by simpa using free
          split at h
          · cases h
            exact ends _
          · next reserved =>
            cases h
            exact .locksToConfirm order waiting stored unlocked reserved
          · cases h
            exact ends _
    · cases h
  | commit result =>
    simp only [confirmOrder] at h
    split at h
    · next order phase =>
      split at h
      · cases h
        exact .confirmFails order _ phase
      · cases h
        exact .confirms order phase rfl
    · cases h
  | build | call | conclude | reload => cases h

theorem cancelOrder_cases (known : ∀ outcome, event = .call outcome → ¬ outcome.loses)
    (h : session.cancelOrder id event = some session') : Advances id session event session' := by
  cases event with
  | load =>
    simp only [cancelOrder] at h
    split at h
    · next orderId phase =>
      have waiting : session.request = .cancelling session.request.orderId := by
        rw [phase]
        rfl
      have ends : ∀ result, Advances id session .load (session.finish result) := fun result =>
        .finishes result (by simp [phase, OrderRequest.owed])
      split at h
      · cases h
        exact ends _
      · next order stored =>
        split at h
        · cases h
        · next free =>
          have unlocked : session.lockedBy = none := by simpa using free
          split at h
          · cases h
            exact ends _
          · next reserved =>
            cases h
            exact .locksToCancel order waiting stored unlocked reserved
          · cases h
            exact ends _
    · cases h
  | call outcome =>
    simp only [cancelOrder] at h
    split at h
    · next order line pending released phase =>
      rcases postStock_cases (known outcome rfl) with
        ⟨inventory, draw, now, postings, answer, run⟩ | ⟨error, answer⟩
      · rw [clientReleaseStock, answer] at h
        cases h
        exact .releases order line pending released _ phase ⟨draw, now, postings, run⟩
      · rw [clientReleaseStock, answer] at h
        cases h
        exact .rollsBack order (line :: pending) released error phase
    · next order line pending failures error phase =>
      rcases postStock_cases (known outcome rfl) with
        ⟨inventory, draw, now, postings, answer, run⟩ | ⟨failure, answer⟩
      · rw [clientReserveStock, answer] at h
        cases h
        exact .restores order line pending failures error _ phase ⟨draw, now, postings, run⟩
      · rw [clientReserveStock, answer] at h
        cases h
        exact .restoreFails order line pending failures error failure phase
    · cases h
  | commit result =>
    simp only [cancelOrder] at h
    split at h
    · next order released phase =>
      split at h
      · cases h
        exact .rollsBack order [] released _ phase
      · cases h
        exact .cancels order released phase
    · cases h
  | conclude =>
    simp only [cancelOrder] at h
    split at h
    · next order error phase =>
      cases h
      exact .finishes _ (by simp [phase, OrderRequest.owed])
    · next order failures error notEmpty phase =>
      cases h
      exact .givesUp order failures error phase
    · cases h
  | build | reload => cases h

theorem requireOrder_cases (h : session.requireOrder event = some session') :
    Advances id session event session' := by
  cases event with
  | reload =>
    simp only [requireOrder] at h
    split at h
    · next orderId phase =>
      have ends : ∀ result, Advances id session .reload (session.finish result) := fun result =>
        .finishes result (by simp [phase, OrderRequest.owed])
      split at h
      · cases h
        exact ends _
      · cases h
        exact ends _
    · cases h
  | build | load | call | commit | conclude => cases h

theorem advance_cases (known : ∀ outcome, event = .call outcome → ¬ outcome.loses)
    (h : session.advance id event = some session') : Advances id session event session' := by
  rw [advance] at h
  split at h
  · exact createOrder_cases known h
  · exact createOrder_cases known h
  · exact createOrder_cases known h
  · exact confirmOrder_cases h
  · exact confirmOrder_cases h
  · exact cancelOrder_cases known h
  · exact cancelOrder_cases known h
  · exact cancelOrder_cases known h
  · exact requireOrder_cases h
  · cases h
  · cases h

theorem Advances.orderId (h : Advances id session event session')
    (stored : ∀ order, session.row = some order → order.id = session.request.orderId) :
    session'.request.orderId = session.request.orderId := by
  cases h with
  | finishes => rfl
  | confirmFails => rfl
  | builds orderId request order phase same => rw [phase]; exact same
  | locksToConfirm order phase found => exact stored order found
  | locksToCancel order phase found => exact stored order found
  | _ => simp only [*, OrderRequest.orderId, rollback, commitRow, Order.withStatus_id]

theorem Advances.moves (h : Advances id session event session') :
    session'.inventory = session.inventory ∨ ∃ order : Order,
      order.id = session.request.orderId ∧ order.Moves session.inventory session'.inventory := by
  cases h with
  | reserves order line pending reserved inventory phase h =>
    exact .inr ⟨order, by rw [phase]; rfl, .reserves line h⟩
  | compensates order pending pending' failures failures' error inventory phase h =>
    exact .inr ⟨order, by rw [phase]; rfl, h⟩
  | releases order line pending released inventory phase h =>
    exact .inr ⟨order, by rw [phase]; rfl, .releases line h⟩
  | restores order line pending failures error inventory phase h =>
    exact .inr ⟨order, by rw [phase]; rfl, .reserves line h⟩
  | _ => exact .inl rfl

theorem Advances.accounted (h : Advances id session event session')
    (accounted : session.inventory.Accounted) : session'.inventory.Accounted := by
  rcases h.moves with same | ⟨order, -, moves⟩
  · rwa [same]
  · exact moves.accounted accounted

theorem Advances.history (h : Advances id session event session') {orderId : Uuid}
    (other : orderId ≠ session.request.orderId) :
    session'.inventory.history (generateOrderNumber orderId).1 =
      session.inventory.history (generateOrderNumber orderId).1 := by
  rcases h.moves with same | ⟨order, own, moves⟩
  · rw [same]
  · exact moves.history (own ▸ other)

end OrderSession

end CareerProjects.Warehouse
