import CareerProjects.Library.Ledger
import Mathlib.Algebra.Order.Ring.Rat
import Mathlib.Data.Fintype.Basic

/-! The Inventory Service's data: products, one balance row for each product and
warehouse, the append-only movement history, and the five validated stock requests.
Quantities are integers of any size; the key of a balance row is its unique pair. -/

namespace CareerProjects.Warehouse

open Library (sumWhere)

abbrev Uuid := BitVec 128

abbrev Time := ℚ

/-- The columns of a product that stock and order operations read. -/
structure Product where
  unitPrice : ℚ
  isActive : Bool
  unitPriceNonNegative : 0 ≤ unitPrice

theorem five_nonneg : (0 : ℚ) ≤ 5 := by decide +kernel

def oneProduct : Uuid → Option Product :=
  fun id => if id = 1 then some ⟨5, true, five_nonneg⟩ else none

structure BalanceKey where
  productId : Uuid
  warehouseId : Uuid
  deriving DecidableEq

structure InventoryBalance where
  quantityOnHand : Int
  quantityReserved : Int
  deriving DecidableEq

namespace InventoryBalance

/-- The row `_insert_empty_balance_if_missing` inserts. -/
def empty : InventoryBalance := ⟨0, 0⟩

def Valid (balance : InventoryBalance) : Prop :=
  0 ≤ balance.quantityOnHand ∧ 0 ≤ balance.quantityReserved ∧
    balance.quantityReserved ≤ balance.quantityOnHand

end InventoryBalance

inductive MovementType
  | receipt | issue | adjustment | reservation | release | transferOut | transferIn
  deriving DecidableEq, Repr

structure StockMovement where
  id : Uuid
  productId : Uuid
  warehouseId : Uuid
  movementType : MovementType
  onHandDelta : Int
  reservedDelta : Int
  onHandBalanceAfter : Int
  reservedBalanceAfter : Int
  referenceId : Option String
  reason : Option String
  transferId : Option Uuid
  createdAt : Time
  deriving DecidableEq

def StockMovement.key (movement : StockMovement) : BalanceKey :=
  ⟨movement.productId, movement.warehouseId⟩

/-- Receipts and issues, with the bounds of the schema. -/
structure StockChangeRequest where
  productId : Uuid
  warehouseId : Uuid
  quantity : Int
  referenceId : Option String
  reason : Option String
  quantityPositive : 0 < quantity
  referenceLength : referenceId.all (·.length ≤ 100) = true
  reasonLength : reason.all (·.length ≤ 500) = true

abbrev StockReceiptRequest := StockChangeRequest

abbrev StockIssueRequest := StockChangeRequest

structure StockReservationRequest where
  productId : Uuid
  warehouseId : Uuid
  quantity : Int
  referenceId : String
  reason : Option String
  quantityPositive : 0 < quantity
  referenceLength : 1 ≤ referenceId.length ∧ referenceId.length ≤ 100
  reasonLength : reason.all (·.length ≤ 500) = true

abbrev StockReleaseRequest := StockReservationRequest

structure StockTransferRequest where
  productId : Uuid
  sourceWarehouseId : Uuid
  destinationWarehouseId : Uuid
  quantity : Int
  referenceId : Option String
  reason : Option String
  quantityPositive : 0 < quantity
  referenceLength : referenceId.all (·.length ≤ 100) = true
  reasonLength : reason.all (·.length ≤ 500) = true
  differentWarehouses : sourceWarehouseId ≠ destinationWarehouseId

def fiveUnits : StockReceiptRequest := ⟨1, 2, 5, none, none, by decide, by decide, by decide⟩

def tenUnits : StockReceiptRequest := { fiveUnits with quantity := 10, quantityPositive := by decide }

def transferOfThree : StockTransferRequest :=
  ⟨1, 2, 3, 3, none, none, by decide, fiveUnits.referenceLength, fiveUnits.reasonLength, by decide⟩

def StockChangeRequest.key (request : StockChangeRequest) : BalanceKey :=
  ⟨request.productId, request.warehouseId⟩

def StockReservationRequest.key (request : StockReservationRequest) : BalanceKey :=
  ⟨request.productId, request.warehouseId⟩

def StockTransferRequest.source (request : StockTransferRequest) : BalanceKey :=
  ⟨request.productId, request.sourceWarehouseId⟩

def StockTransferRequest.destination (request : StockTransferRequest) : BalanceKey :=
  ⟨request.productId, request.destinationWarehouseId⟩

theorem StockTransferRequest.source_ne_destination (request : StockTransferRequest) :
    request.source ≠ request.destination := by
  intro same
  exact request.differentWarehouses (congrArg BalanceKey.warehouseId same)

inductive StockError
  | productNotFound (productId : Uuid)
  | insufficientStock (availableQuantity requestedQuantity : Int)
  | reservationAlreadyExists (referenceId : String) (reservedQuantity : Int)
  | insufficientReservedStock (reservedQuantity requestedQuantity : Int) (referenceId : String)
  | runtimeError (message : String)
  | databaseError
  deriving DecidableEq, Repr

@[ext] structure Inventory where
  products : Uuid → Option Product
  balances : BalanceKey → Option InventoryBalance
  movements : List StockMovement

namespace Inventory

def empty (products : Uuid → Option Product) : Inventory := ⟨products, fun _ => none, []⟩

/-- The quantities of a balance; a missing row counts as an empty one. -/
def balance (inventory : Inventory) (key : BalanceKey) : InventoryBalance :=
  (inventory.balances key).getD .empty

end Inventory

def MovementType.reserving : MovementType → Bool
  | .reservation | .release => true
  | _ => false

/-- `_get_reference_reserved_quantity`: the aggregate over the movement history. -/
def referenceReservedQuantity (movements : List StockMovement) (key : BalanceKey)
    (referenceId : String) : Int :=
  sumWhere (fun movement => movement.key == key && movement.movementType.reserving &&
    movement.referenceId == some referenceId) StockMovement.reservedDelta movements

/-- What a reference still owns of a balance, in the committed history. -/
def Inventory.outstanding (inventory : Inventory) (key : BalanceKey) (referenceId : String) :
    Int :=
  referenceReservedQuantity inventory.movements key referenceId

def onHandTotal (movements : List StockMovement) (key : BalanceKey) : Int :=
  sumWhere (fun movement => movement.key == key) StockMovement.onHandDelta movements

def reservedTotal (movements : List StockMovement) (key : BalanceKey) : Int :=
  sumWhere (fun movement => movement.key == key) StockMovement.reservedDelta movements

end CareerProjects.Warehouse
