import CareerProjects.Library.Saga
import CareerProjects.Warehouse.Stock

/-! The Order Service: orders and their lines, the client of the Inventory Service, and
the operations that create, confirm and cancel an order. The service writes its own
database and calls the Inventory Service for each line; the two share no transaction. -/

namespace CareerProjects.Warehouse

open Library

inductive OrderStatus
  | pending | reserved | confirmed | cancelled
  deriving DecidableEq, Repr

def hexDigit (digit : Nat) : Char :=
  "0123456789ABCDEF".toList.getD digit '0'

/-- The last `count` hexadecimal digits of a number, most significant first. -/
def hexDigits : Nat → Nat → List Char
  | 0, _ => []
  | count + 1, value => hexDigits count (value / 16) ++ [hexDigit (value % 16)]

@[simp] theorem hexDigits_length (count value : Nat) :
    (hexDigits count value).length = count := by
  induction count generalizing value with
  | zero => rfl
  | succ count ih => simp [hexDigits, ih]

theorem hexDigit_injective {a b : Nat} (ha : a < 16) (hb : b < 16) (same : hexDigit a = hexDigit b) :
    a = b := by
  have table : ∀ a b : Fin 16, hexDigit a = hexDigit b → a = b := by decide
  exact congrArg Fin.val (table ⟨a, ha⟩ ⟨b, hb⟩ same)

theorem hexDigits_injective {count a b : Nat} (ha : a < 16 ^ count) (hb : b < 16 ^ count)
    (same : hexDigits count a = hexDigits count b) : a = b := by
  induction count generalizing a b with
  | zero => omega
  | succ count ih =>
    obtain ⟨front, last⟩ := List.append_inj' same rfl
    have low := hexDigit_injective (Nat.mod_lt a (by omega)) (Nat.mod_lt b (by omega))
      (by simpa using last)
    have high := ih (by rw [pow_succ] at ha; omega) (by rw [pow_succ] at hb; omega) front
    omega

abbrev ReferenceId := { text : String // 1 ≤ text.length ∧ text.length ≤ 100 }

def generateOrderNumber (orderId : Uuid) : ReferenceId :=
  ⟨"ORD-" ++ String.ofList (hexDigits 32 orderId.toNat), by
    have four : "ORD-".length = 4 := by decide
    simp [String.length_append, four]⟩

theorem generateOrderNumber_injective : Function.Injective generateOrderNumber := by
  intro a b same
  have digits := congrArg Subtype.val same
  simp only [generateOrderNumber, String.append_right_inj] at digits
  have size : ∀ id : Uuid, id.toNat < 16 ^ 32 := fun id => id.isLt
  exact BitVec.eq_of_toNat_eq
    (hexDigits_injective (size a) (size b) (String.ofList_injective digits))

structure OrderItemCreate where
  productId : Uuid
  quantity : Int
  quantityRange : 0 < quantity ∧ quantity ≤ 1000000

theorem OrderItemCreate.quantityPositive (item : OrderItemCreate) : 0 < item.quantity := item.quantityRange.1

structure OrderCreate where
  customerName : String
  customerEmail : String
  warehouseId : Uuid
  items : List OrderItemCreate
  nameLength : 1 ≤ customerName.length ∧ customerName.length ≤ 150
  itemsLength : 1 ≤ items.length ∧ items.length ≤ 100
  distinctProducts : (items.map OrderItemCreate.productId).Nodup

def threeOfOne : OrderItemCreate := ⟨1, 3, by decide⟩

def threeUnits : OrderCreate :=
  ⟨"Customer", "customer@example.com", 2, [threeOfOne], by decide, by decide, by decide⟩

/-- The data of one reservation or compensation call. -/
structure ReservationLine where
  productId : Uuid
  quantity : Int
  quantityPositive : 0 < quantity
  deriving DecidableEq

structure OrderItem where
  line : ReservationLine
  unitPrice : ℚ
  lineTotal : ℚ

/-- A stored order. Its number is derived from its identifier, and its lines name
distinct products. -/
structure Order where
  id : Uuid
  orderNumber : ReferenceId
  customerName : String
  customerEmail : String
  warehouseId : Uuid
  status : OrderStatus
  totalAmount : ℚ
  items : List OrderItem
  numbered : orderNumber = generateOrderNumber id
  distinctProducts : (items.map fun item => item.line.productId).Nodup

def Order.lines (order : Order) : List ReservationLine := order.items.map OrderItem.line

def Order.key (order : Order) (line : ReservationLine) : BalanceKey :=
  ⟨line.productId, order.warehouseId⟩

inductive HttpAnswer (α : Type)
  | unreachable
  | notFound
  | failed (detail : String)
  | ok (payload : α)

structure ProductPayload where
  isActive : Bool
  unitPrice : Option ℚ

/-- What becomes of a call that changes stock: it reaches the Inventory Service or not,
and its answer comes back or not. A refusal is an error answer without effect. -/
inductive CallOutcome
  | delivered (draw : Draw) (now : Time)
  | responseLost (draw : Draw) (now : Time)
  | refused (detail : String)
  | notDelivered

/-- The detail of an error answer: a stock error, or any other text. -/
inductive ErrorDetail
  | stock (error : StockError)
  | text (detail : String)

inductive ServiceError
  | downstream (message : String)
  | productUnavailable (productId : Uuid) (reason : String)
  | warehouseUnavailable (warehouseId : Uuid) (reason : String)
  | stockReservation (detail : ErrorDetail)
  | stockRelease (detail : ErrorDetail)
  | databaseError

inductive OrderError
  | orderNotFound (orderId : Uuid)
  | orderStateConflict (orderId : Uuid) (status : OrderStatus)
  | service (error : ServiceError)
  | orderCompensation (failures : List (Uuid × ServiceError))

def verifyWarehouse (answer : HttpAnswer Bool) (warehouseId : Uuid) : Except ServiceError Unit :=
  match answer with
  | .unreachable => .error (.downstream "Warehouse Service is unavailable")
  | .notFound => .error (.warehouseUnavailable warehouseId "was not found")
  | .failed detail => .error (.downstream ("Warehouse Service lookup failed: " ++ detail))
  | .ok false => .error (.warehouseUnavailable warehouseId "is inactive")
  | .ok true => .ok ()

def getProduct (answer : HttpAnswer ProductPayload) (productId : Uuid) : Except ServiceError ℚ :=
  match answer with
  | .unreachable => .error (.downstream "Inventory Service is unavailable")
  | .notFound => .error (.productUnavailable productId "was not found")
  | .failed detail =>
    .error (.downstream ("Inventory Service product lookup failed: " ++ detail))
  | .ok ⟨false, _⟩ => .error (.productUnavailable productId "is inactive")
  | .ok ⟨true, none⟩ =>
    .error (.downstream "Inventory Service returned an invalid product price")
  | .ok ⟨true, some unitPrice⟩ => .ok unitPrice

def postStock (operation : StockOperation) (rejection : ErrorDetail → ServiceError)
    (outcome : CallOutcome) (inventory : Inventory) : Except ServiceError Unit × Inventory :=
  match outcome with
  | .notDelivered => (.error (.downstream "Inventory Service is unavailable"), inventory)
  | .refused detail => (.error (rejection (.text detail)), inventory)
  | .delivered draw now =>
    match operation.run draw now inventory with
    | .error error => (.error (rejection (.stock error)), inventory)
    | .ok (_, inventory') => (.ok (), inventory')
  | .responseLost draw now =>
    match operation.run draw now inventory with
    | .error _ => (.error (.downstream "Inventory Service is unavailable"), inventory)
    | .ok (_, inventory') =>
      (.error (.downstream "Inventory Service is unavailable"), inventory')

def reservationRequest (warehouseId : Uuid) (referenceId : ReferenceId) (line : ReservationLine) :
    StockReservationRequest :=
  ⟨line.productId, warehouseId, line.quantity, referenceId.1, some "Order inventory reservation",
    line.quantityPositive, referenceId.2, by decide⟩

def releaseRequest (warehouseId : Uuid) (referenceId : ReferenceId) (line : ReservationLine) :
    StockReleaseRequest :=
  ⟨line.productId, warehouseId, line.quantity, referenceId.1,
    some "Order inventory reservation release", line.quantityPositive, referenceId.2, by decide⟩

def clientReserveStock (warehouseId : Uuid) (referenceId : ReferenceId) (line : ReservationLine) :
    CallOutcome → Inventory → Except ServiceError Unit × Inventory :=
  postStock (reserveStock (reservationRequest warehouseId referenceId line)) .stockReservation

def clientReleaseStock (warehouseId : Uuid) (referenceId : ReferenceId) (line : ReservationLine) :
    CallOutcome → Inventory → Except ServiceError Unit × Inventory :=
  postStock (releaseStock (releaseRequest warehouseId referenceId line)) .stockRelease

def quantize (amount : ℚ) : ℚ := (amount * 100 + 1 / 2).floor / 100

def buildItem (answer : HttpAnswer ProductPayload) (requested : OrderItemCreate) :
    Except ServiceError OrderItem :=
  match getProduct answer requested.productId with
  | .error error => .error error
  | .ok price =>
    if price < 0 then
      .error (.downstream "Inventory Service returned a negative product price")
    else
      let unitPrice := quantize price
      .ok ⟨⟨requested.productId, requested.quantity, requested.quantityPositive⟩, unitPrice,
        quantize (unitPrice * requested.quantity)⟩

def buildItems (answers : Uuid → HttpAnswer ProductPayload) :
    List OrderItemCreate → Except ServiceError (List OrderItem)
  | [] => .ok []
  | requested :: rest =>
    match buildItem (answers requested.productId) requested with
    | .error error => .error error
    | .ok item =>
      match buildItems answers rest with
      | .error error => .error error
      | .ok items => .ok (item :: items)

theorem buildItem_line {answer : HttpAnswer ProductPayload} {requested : OrderItemCreate}
    {item : OrderItem} (h : buildItem answer requested = .ok item) :
    item.line = ⟨requested.productId, requested.quantity, requested.quantityPositive⟩ := by
  rw [buildItem] at h
  split at h
  · cases h
  · split at h
    · cases h
    · cases h; rfl

theorem buildItems_lines {answers : Uuid → HttpAnswer ProductPayload}
    {requested : List OrderItemCreate} {items : List OrderItem}
    (h : buildItems answers requested = .ok items) :
    items.map OrderItem.line = requested.map fun item =>
      ⟨item.productId, item.quantity, item.quantityPositive⟩ := by
  induction requested generalizing items with
  | nil => cases h; rfl
  | cons first rest ih =>
    rw [buildItems] at h
    split at h
    · cases h
    · next item built =>
      split at h
      · cases h
      · next others tail =>
        cases h
        simp [buildItem_line built, ih tail]

def buildOrder (warehouse : HttpAnswer Bool) (answers : Uuid → HttpAnswer ProductPayload)
    (orderId : Uuid) (request : OrderCreate) : Except ServiceError Order :=
  match verifyWarehouse warehouse request.warehouseId with
  | .error error => .error error
  | .ok _ =>
    match built : buildItems answers request.items with
    | .error error => .error error
    | .ok items => .ok
      { id := orderId
        orderNumber := generateOrderNumber orderId
        customerName := request.customerName
        customerEmail := request.customerEmail
        warehouseId := request.warehouseId
        status := .pending
        totalAmount := (items.map OrderItem.lineTotal).sum
        items := items
        numbered := rfl
        distinctProducts := by
          have lines := congrArg (List.map ReservationLine.productId) (buildItems_lines built)
          simp only [List.map_map, Function.comp_def] at lines
          rw [lines]
          exact request.distinctProducts }

structure World where
  orders : Uuid → Option Order
  inventory : Inventory

def World.save (world : World) (order : Order) (inventory : Inventory) : World :=
  ⟨Function.update world.orders order.id (some order), inventory⟩

/-- What the other services answer while one request runs. The two stock calls that a
line may need are numbered like the lines. -/
structure Environment where
  warehouse : HttpAnswer Bool
  products : Uuid → HttpAnswer ProductPayload
  reserve : Nat → CallOutcome
  release : Nat → CallOutcome
  flush : Except ServiceError Unit
  commit : Except ServiceError Unit

def reserveLine (order : Order) (environment : Environment) (line : ReservationLine × Nat) :
    Inventory → Except ServiceError Unit × Inventory :=
  clientReserveStock order.warehouseId order.orderNumber line.1 (environment.reserve line.2)

def releaseLine (order : Order) (environment : Environment) (line : ReservationLine × Nat) :
    Inventory → Except ServiceError Unit × Inventory :=
  clientReleaseStock order.warehouseId order.orderNumber line.1 (environment.release line.2)

def compensationError (failures : List ((ReservationLine × Nat) × ServiceError)) : OrderError :=
  .orderCompensation (failures.map fun failure => (failure.1.1.productId, failure.2))

/-- Reserve every line, then commit the order; the lines reserved before a failure are
released in reverse order. -/
def createOrder (environment : Environment) (orderId : Uuid) (request : OrderCreate)
    (world : World) : Except OrderError Order × World :=
  match buildOrder environment.warehouse environment.products orderId request with
  | .error error => (.error (.service error), world)
  | .ok order =>
    match environment.flush with
    | .error error => (.error (.service error), world)
    | .ok _ =>
      match saga (reserveLine order environment) (releaseLine order environment) List.reverse
          environment.commit order.lines.zipIdx world.inventory with
      | (.completed, inventory) =>
        let order := { order with status := .reserved }
        (.ok order, world.save order inventory)
      | (.undone error, inventory) =>
        (.error (.service error), { world with inventory := inventory })
      | (.stuck failures, inventory) =>
        (.error (compensationError failures), { world with inventory := inventory })

def requireOrder (orderId : Uuid) (world : World) : Except OrderError Order :=
  match world.orders orderId with
  | none => .error (.orderNotFound orderId)
  | some order => .ok order

def confirmOrder (commit : Except ServiceError Unit) (orderId : Uuid) (world : World) :
    Except OrderError Order × World :=
  match requireOrder orderId world with
  | .error error => (.error error, world)
  | .ok order =>
    match order.status with
    | .confirmed => (.ok order, world)
    | .reserved =>
      match commit with
      | .error error => (.error (.service error), world)
      | .ok _ =>
        let order := { order with status := .confirmed }
        (.ok order, world.save order world.inventory)
    | status => (.error (.orderStateConflict orderId status), world)

/-- Release every line, then commit the status; the lines released before a failure are
reserved again in their own order. -/
def cancelOrder (environment : Environment) (orderId : Uuid) (world : World) :
    Except OrderError Order × World :=
  match requireOrder orderId world with
  | .error error => (.error error, world)
  | .ok order =>
    match order.status with
    | .cancelled => (.ok order, world)
    | .reserved =>
      match saga (releaseLine order environment) (reserveLine order environment) id
          environment.commit order.lines.zipIdx world.inventory with
      | (.completed, inventory) =>
        let order := { order with status := .cancelled }
        (.ok order, world.save order inventory)
      | (.undone error, inventory) =>
        (.error (.service error), { world with inventory := inventory })
      | (.stuck failures, inventory) =>
        (.error (compensationError failures), { world with inventory := inventory })
    | status => (.error (.orderStateConflict orderId status), world)

end CareerProjects.Warehouse
