import CareerProjects.Library.Runs
import CareerProjects.Warehouse.OrderCalls

/-! Concurrent requests of the Order Service. A request advances by one database
transaction or one call at a time, in any interleaving with the other requests and with
stock operations of other callers. Confirming and cancelling lock the row of the order
until they commit or roll back; the compensating calls come after the rollback. -/

namespace CareerProjects.Warehouse

open Library

abbrev RequestId := Nat

/-- How far a request has come. The lists of lines are the local variables of
`_create_order`, `_cancel_order` and of their compensations. -/
inductive OrderRequest
  | building (orderId : Uuid) (request : OrderCreate)
  | reserving (order : Order) (pending reserved : List ReservationLine)
  | abandoning (order : Order) (pending : List ReservationLine)
      (failures : List (ReservationLine × ServiceError)) (error : ServiceError)
  | confirming (orderId : Uuid)
  | confirmable (order : Order)
  | cancelling (orderId : Uuid)
  | releasing (order : Order) (pending released : List ReservationLine)
  | restoring (order : Order) (pending : List ReservationLine)
      (failures : List (ReservationLine × ServiceError)) (error : ServiceError)
  -- ended by the compensation error of a cancellation
  | unrestored (order : Order) (failures : List (ReservationLine × ServiceError))
  | returning (orderId : Uuid)
  | finished (orderId : Uuid) (result : Except OrderError Order)

def OrderRequest.orderId : OrderRequest → Uuid
  | .building orderId _ | .confirming orderId | .cancelling orderId | .returning orderId
  | .finished orderId _ => orderId
  | .reserving order _ _ | .abandoning order _ _ _ | .confirmable order | .releasing order _ _
  | .restoring order _ _ _ | .unrestored order _ => order.id

/-- What lets a request advance: answers of the reads, the load of the row, the outcome
of a call, the outcome of a commit, the end of a compensation, the final read. -/
inductive OrderEvent
  | build (warehouse : HttpAnswer Bool) (products : Uuid → HttpAnswer ProductPayload)
      (flush : Except ServiceError Unit)
  | load
  | call (outcome : CallOutcome)
  | commit (result : Except ServiceError Unit)
  | conclude
  | reload

def Order.withStatus (order : Order) (status : OrderStatus) : Order :=
  { order with status := status }

namespace Order

variable (order : Order) (status : OrderStatus)

@[simp] theorem withStatus_id : (order.withStatus status).id = order.id := rfl

@[simp] theorem withStatus_status : (order.withStatus status).status = status := rfl

@[simp] theorem withStatus_lines : (order.withStatus status).lines = order.lines := rfl

@[simp] theorem withStatus_key : (order.withStatus status).key = order.key := rfl

end Order

/-- What a request works on: its order's row, the lock of that row, and the inventory. -/
structure OrderSession where
  request : OrderRequest
  row : Option Order
  lockedBy : Option RequestId
  inventory : Inventory

namespace OrderSession

def finish (session : OrderSession) (result : Except OrderError Order) : OrderSession :=
  { session with request := .finished session.request.orderId result }

def rollback (session : OrderSession) (order : Order) (released : List ReservationLine)
    (error : ServiceError) : OrderSession :=
  { session with request := .restoring order released [] error, lockedBy := none }

def commitRow (session : OrderSession) (order : Order) : OrderSession :=
  { session with request := .returning order.id, row := some order, lockedBy := none }

def createOrder (session : OrderSession) : OrderEvent → Option OrderSession
  | .build warehouse products flush =>
    match session.request with
    | .building orderId request =>
      match buildOrder warehouse products orderId request with
      | .error error => some (session.finish (.error (.service error)))
      | .ok order =>
        match flush with
        | .error error => some (session.finish (.error (.service error)))
        | .ok _ => some { session with request := .reserving order order.lines [] }
    | _ => none
  | .call outcome =>
    match session.request with
    | .reserving order (line :: pending) reserved =>
      match clientReserveStock order.warehouseId order.orderNumber line outcome
          session.inventory with
      | (.ok _, inventory) => some
        { session with
          request := .reserving order pending (reserved ++ [line]), inventory := inventory }
      | (.error error, inventory) => some
        { session with
          request := .abandoning order reserved.reverse [] error, inventory := inventory }
    | .abandoning order (line :: pending) failures error =>
      match clientReleaseStock order.warehouseId order.orderNumber line outcome
          session.inventory with
      | (.ok _, inventory) => some
        { session with
          request := .abandoning order pending failures error, inventory := inventory }
      | (.error failure, inventory) => some
        { session with
          request := .abandoning order pending (failures ++ [(line, failure)]) error
          inventory := inventory }
    | _ => none
  | .commit result =>
    match session.request with
    | .reserving order [] reserved =>
      match result with
      | .error error => some
        { session with request := .abandoning order reserved.reverse [] error }
      | .ok _ => some
        { session with
          request := .returning order.id, row := some (order.withStatus .reserved) }
    | _ => none
  | .conclude =>
    match session.request with
    | .abandoning _ [] [] error => some (session.finish (.error (.service error)))
    | .abandoning _ [] failures _ => some (session.finish (.error (.orderCompensation
        (failures.map fun failure => (failure.1.productId, failure.2)))))
    | _ => none
  | _ => none

def confirmOrder (id : RequestId) (session : OrderSession) : OrderEvent → Option OrderSession
  | .load =>
    match session.request with
    | .confirming orderId =>
      match session.row with
      | none => some (session.finish (.error (.orderNotFound orderId)))
      | some order =>
        -- the select waits while another transaction holds the row
        if session.lockedBy.isSome then none
        else match order.status with
          | .confirmed => some (session.finish (.ok order))
          | .reserved => some { session with request := .confirmable order, lockedBy := some id }
          | status => some (session.finish (.error (.orderStateConflict orderId status)))
    | _ => none
  | .commit result =>
    match session.request with
    | .confirmable order =>
      match result with
      | .error error => some
        { session.finish (.error (.service error)) with lockedBy := none }
      | .ok _ => some (session.commitRow (order.withStatus .confirmed))
    | _ => none
  | _ => none

def cancelOrder (id : RequestId) (session : OrderSession) : OrderEvent → Option OrderSession
  | .load =>
    match session.request with
    | .cancelling orderId =>
      match session.row with
      | none => some (session.finish (.error (.orderNotFound orderId)))
      | some order =>
        if session.lockedBy.isSome then none
        else match order.status with
          | .cancelled => some (session.finish (.ok order))
          | .reserved => some
            { session with request := .releasing order order.lines [], lockedBy := some id }
          | status => some (session.finish (.error (.orderStateConflict orderId status)))
    | _ => none
  | .call outcome =>
    match session.request with
    | .releasing order (line :: pending) released =>
      match clientReleaseStock order.warehouseId order.orderNumber line outcome
          session.inventory with
      | (.ok _, inventory) => some
        { session with
          request := .releasing order pending (released ++ [line]), inventory := inventory }
      | (.error error, inventory) =>
        some ({ session with inventory := inventory }.rollback order released error)
    | .restoring order (line :: pending) failures error =>
      match clientReserveStock order.warehouseId order.orderNumber line outcome
          session.inventory with
      | (.ok _, inventory) => some
        { session with
          request := .restoring order pending failures error, inventory := inventory }
      | (.error failure, inventory) => some
        { session with
          request := .restoring order pending (failures ++ [(line, failure)]) error
          inventory := inventory }
    | _ => none
  | .commit result =>
    match session.request with
    | .releasing order [] released =>
      match result with
      | .error error => some (session.rollback order released error)
      | .ok _ => some (session.commitRow (order.withStatus .cancelled))
    | _ => none
  | .conclude =>
    match session.request with
    | .restoring _ [] [] error => some (session.finish (.error (.service error)))
    | .restoring order [] failures _ => some
      { session with request := .unrestored order failures }
    | _ => none
  | _ => none

def requireOrder (session : OrderSession) : OrderEvent → Option OrderSession
  | .reload =>
    match session.request with
    | .returning orderId =>
      match session.row with
      | none => some (session.finish (.error (.orderNotFound orderId)))
      | some order => some (session.finish (.ok order))
    | _ => none
  | _ => none

def advance (id : RequestId) (session : OrderSession) (event : OrderEvent) :
    Option OrderSession :=
  match session.request with
  | .building .. | .reserving .. | .abandoning .. => session.createOrder event
  | .confirming .. | .confirmable .. => session.confirmOrder id event
  | .cancelling .. | .releasing .. | .restoring .. => session.cancelOrder id event
  | .returning .. => session.requireOrder event
  | .unrestored .. | .finished .. => none

end OrderSession

/-- The committed orders with their row locks, the inventory, and the requests.
`generated` lists the identifiers that were drawn so far. -/
structure System where
  inventory : Inventory
  orders : Uuid → Option Order
  lockedBy : Uuid → Option RequestId
  requests : RequestId → Option OrderRequest
  generated : List Uuid

inductive OrderAction
  | create (id : RequestId) (orderId : Uuid) (request : OrderCreate)
  | confirm (id : RequestId) (orderId : Uuid)
  | cancel (id : RequestId) (orderId : Uuid)
  | advance (id : RequestId) (event : OrderEvent)
  | stock (request : StockRequest) (draw : Draw) (now : Time)

namespace System

def initial (products : Uuid → Option Product) : System :=
  ⟨.empty products, fun _ => none, fun _ => none, fun _ => none, []⟩

def session (sys : System) (request : OrderRequest) : OrderSession :=
  ⟨request, sys.orders request.orderId, sys.lockedBy request.orderId, sys.inventory⟩

def put (sys : System) (id : RequestId) (orderId : Uuid) (session : OrderSession) : System where
  inventory := session.inventory
  orders := Function.update sys.orders orderId session.row
  lockedBy := Function.update sys.lockedBy orderId session.lockedBy
  requests := Function.update sys.requests id (some session.request)
  generated := sys.generated

def start (sys : System) (id : RequestId) (request : OrderRequest) : Option System :=
  if sys.requests id = none then
    some { sys with requests := Function.update sys.requests id (some request) }
  else none

def step (sys : System) : OrderAction → Option System
  | .create id orderId request =>
    { sys with generated := orderId :: sys.generated }.start id (.building orderId request)
  | .confirm id orderId => sys.start id (.confirming orderId)
  | .cancel id orderId => sys.start id (.cancelling orderId)
  | .advance id event =>
    match sys.requests id with
    | none => none
    | some request =>
      ((sys.session request).advance id event).map (sys.put id request.orderId)
  | .stock request draw now =>
    match request.operation.run draw now sys.inventory with
    | .error _ => some sys
    | .ok (_, inventory) => some { sys with inventory := inventory }

/-- `uuid4()` draws an identifier whose order number is not in use, other callers use
other references than the order numbers, and no answer is lost. -/
def Admissible (sys : System) : OrderAction → Prop
  | .create _ orderId _ => orderId ∉ sys.generated ∧ ∀ movement ∈ sys.inventory.movements,
      movement.referenceId ≠ some (generateOrderNumber orderId).1
  | .advance _ (.call outcome) => ¬ outcome.loses
  | .stock request _ _ => ∀ orderId ∈ sys.generated,
      request.referenceId ≠ some (generateOrderNumber orderId).1
  | _ => True

instance : (outcome : CallOutcome) → Decidable outcome.loses
  | .responseLost .. => .isTrue trivial
  | .delivered .. | .refused _ | .notDelivered => .isFalse id

-- not the instance that ranges over all identifiers
instance (generated : List Uuid) (accepts : Uuid → Prop) [DecidablePred accepts] :
    Decidable (∀ orderId ∈ generated, accepts orderId) :=
  List.decidableBAll accepts generated

instance (sys : System) : (action : OrderAction) → Decidable (sys.Admissible action)
  | .create _ orderId _ => inferInstanceAs (Decidable (orderId ∉ sys.generated ∧
      ∀ movement ∈ sys.inventory.movements,
        movement.referenceId ≠ some (generateOrderNumber orderId).1))
  | .advance _ (.call outcome) => inferInstanceAs (Decidable (¬ outcome.loses))
  | .stock request _ _ => inferInstanceAs (Decidable (∀ orderId ∈ sys.generated,
      request.referenceId ≠ some (generateOrderNumber orderId).1))
  | .confirm .. | .cancel .. => .isTrue trivial
  | .advance _ (.build ..) | .advance _ .load | .advance _ (.commit _) | .advance _ .conclude
  | .advance _ .reload => .isTrue trivial

def transition (sys : System) (action : OrderAction) : Option System :=
  if sys.Admissible action then sys.step action else none

def Transition (sys : System) (action : OrderAction) (sys' : System) : Prop :=
  sys.transition action = some sys'

def Reachable (products : Uuid → Option Product) : System → Prop :=
  Reached Transition (initial products)

end System

end CareerProjects.Warehouse
