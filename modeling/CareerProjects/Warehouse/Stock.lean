import CareerProjects.Warehouse.Inventory
import Mathlib.Tactic.Linarith

/-! The five stock operations. Each one looks up the product, may insert an empty
balance, locks its balances, may sum the movement history, and then either raises or
writes balances together with their movements; `StockOperation` lists these statements
in that order. `StockOperation.run` is the operation as one atomic step. -/

namespace CareerProjects.Warehouse

structure Draw where
  movementId : Uuid
  inboundMovementId : Uuid
  transferId : Uuid
  deriving DecidableEq

/-- One written balance row, with the movement that documents the write. -/
structure Posting where
  key : BalanceKey
  balance : InventoryBalance
  movement : StockMovement
  deriving DecidableEq

structure StockOperation where
  productId : Uuid
  insertsIfMissing : Option BalanceKey
  /-- The rows of the locking select, in its order. -/
  locks : List BalanceKey
  /-- The arguments of `_get_reference_reserved_quantity`, where it is called. -/
  sumsReference : Option (BalanceKey × String)
  /-- What happens once the rows are loaded and the aggregate is known. -/
  change : Draw → Time → (BalanceKey → Option InventoryBalance) → Int →
    Except StockError (List Posting)

/-- Add the deltas to a loaded row and document them in one movement. -/
def postMovement (key : BalanceKey) (row : InventoryBalance) (movementType : MovementType)
    (onHandDelta reservedDelta : Int) (referenceId reason : Option String)
    (transferId : Option Uuid) (id : Uuid) (now : Time) : Posting :=
  let balance : InventoryBalance :=
    ⟨row.quantityOnHand + onHandDelta, row.quantityReserved + reservedDelta⟩
  { key := key
    balance := balance
    movement :=
      { id := id
        productId := key.productId
        warehouseId := key.warehouseId
        movementType := movementType
        onHandDelta := onHandDelta
        reservedDelta := reservedDelta
        onHandBalanceAfter := balance.quantityOnHand
        reservedBalanceAfter := balance.quantityReserved
        referenceId := referenceId
        reason := reason
        transferId := transferId
        createdAt := now } }

def receiveStock (request : StockReceiptRequest) : StockOperation where
  productId := request.productId
  insertsIfMissing := some request.key
  locks := [request.key]
  sumsReference := none
  change draw now loaded _ :=
    match loaded request.key with
    | none => .error (.runtimeError "Inventory balance could not be created")
    | some balance =>
      .ok [postMovement request.key balance .receipt request.quantity 0
        request.referenceId request.reason none draw.movementId now]

def issueStock (request : StockIssueRequest) : StockOperation where
  productId := request.productId
  insertsIfMissing := none
  locks := [request.key]
  sumsReference := none
  change draw now loaded _ :=
    match loaded request.key with
    | none => .error (.insufficientStock 0 request.quantity)
    | some balance =>
      let availableQuantity := balance.quantityOnHand - balance.quantityReserved
      if request.quantity > availableQuantity then
        .error (.insufficientStock availableQuantity request.quantity)
      else
        .ok [postMovement request.key balance .issue (-request.quantity) 0
          request.referenceId request.reason none draw.movementId now]

def reserveStock (request : StockReservationRequest) : StockOperation where
  productId := request.productId
  insertsIfMissing := none
  locks := [request.key]
  sumsReference := some (request.key, request.referenceId)
  change draw now loaded reservedForReference :=
    if reservedForReference > 0 then
      .error (.reservationAlreadyExists request.referenceId reservedForReference)
    else
      match loaded request.key with
      | none => .error (.insufficientStock 0 request.quantity)
      | some balance =>
        let availableQuantity := balance.quantityOnHand - balance.quantityReserved
        if request.quantity > availableQuantity then
          .error (.insufficientStock availableQuantity request.quantity)
        else
          .ok [postMovement request.key balance .reservation 0 request.quantity
            (some request.referenceId) request.reason none draw.movementId now]

def releaseStock (request : StockReleaseRequest) : StockOperation where
  productId := request.productId
  insertsIfMissing := none
  locks := [request.key]
  sumsReference := some (request.key, request.referenceId)
  change draw now loaded reservedForReference :=
    match loaded request.key with
    | none => .error (.insufficientReservedStock 0 request.quantity request.referenceId)
    | some balance =>
      let releasableQuantity := min reservedForReference balance.quantityReserved
      if request.quantity > releasableQuantity then
        .error (.insufficientReservedStock releasableQuantity request.quantity
          request.referenceId)
      else
        .ok [postMovement request.key balance .release 0 (-request.quantity)
          (some request.referenceId) request.reason none draw.movementId now]

def transferStock (request : StockTransferRequest) : StockOperation where
  productId := request.productId
  insertsIfMissing := some request.destination
  -- the select orders its rows by warehouse
  locks := if request.sourceWarehouseId ≤ request.destinationWarehouseId
    then [request.source, request.destination] else [request.destination, request.source]
  sumsReference := none
  change draw now loaded _ :=
    match loaded request.destination, loaded request.source with
    | none, _ => .error (.runtimeError "Destination inventory balance could not be created")
    | some _, none => .error (.insufficientStock 0 request.quantity)
    | some destinationBalance, some sourceBalance =>
      let availableQuantity := sourceBalance.quantityOnHand - sourceBalance.quantityReserved
      if request.quantity > availableQuantity then
        .error (.insufficientStock availableQuantity request.quantity)
      else
        .ok [
          postMovement request.source sourceBalance .transferOut (-request.quantity) 0
            request.referenceId request.reason (some draw.transferId) draw.movementId now,
          postMovement request.destination destinationBalance .transferIn request.quantity 0
            request.referenceId request.reason (some draw.transferId) draw.inboundMovementId now]

inductive StockRequest
  | receipt (request : StockReceiptRequest)
  | issue (request : StockIssueRequest)
  | reservation (request : StockReservationRequest)
  | release (request : StockReleaseRequest)
  | transfer (request : StockTransferRequest)

namespace StockRequest

def operation : StockRequest → StockOperation
  | .receipt request => receiveStock request
  | .issue request => issueStock request
  | .reservation request => reserveStock request
  | .release request => releaseStock request
  | .transfer request => transferStock request

def referenceId : StockRequest → Option String
  | .receipt request | .issue request => request.referenceId
  | .reservation request | .release request => some request.referenceId
  | .transfer request => request.referenceId

end StockRequest

def Inventory.record (inventory : Inventory) (posting : Posting) : Inventory :=
  { inventory with
    balances := Function.update inventory.balances posting.key (some posting.balance)
    movements := inventory.movements ++ [posting.movement] }

def Inventory.post (inventory : Inventory) (postings : List Posting) : Inventory :=
  postings.foldl Inventory.record inventory

/-- The primary key of movements, and that `uuid4()` never repeats a transfer. -/
def Draw.Fresh (draw : Draw) (movements : List StockMovement) : Prop :=
  draw.movementId ≠ draw.inboundMovementId ∧ ∀ movement ∈ movements,
    movement.id ≠ draw.movementId ∧ movement.id ≠ draw.inboundMovementId ∧
      movement.transferId ≠ some draw.transferId

instance (draw : Draw) (movements : List StockMovement) : Decidable (draw.Fresh movements) := by
  unfold Draw.Fresh; infer_instance

namespace StockOperation

def loads (operation : StockOperation) (inventory : Inventory) (key : BalanceKey) :
    Option InventoryBalance :=
  if key ∉ operation.locks then none
  else if operation.insertsIfMissing = some key then some (inventory.balance key)
  else inventory.balances key

def sums (operation : StockOperation) (movements : List StockMovement) : Int :=
  match operation.sumsReference with
  | none => 0
  | some (key, referenceId) => referenceReservedQuantity movements key referenceId

def run (operation : StockOperation) (draw : Draw) (now : Time) (inventory : Inventory) :
    Except StockError (List Posting × Inventory) :=
  match inventory.products operation.productId with
  | none => .error (.productNotFound operation.productId)
  | some _ =>
    match operation.change draw now (operation.loads inventory)
        (operation.sums inventory.movements) with
    | .error error => .error error
    | .ok postings => .ok (postings, inventory.post postings)

end StockOperation

end CareerProjects.Warehouse
