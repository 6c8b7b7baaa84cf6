import CareerProjects.Warehouse.StockLedger
import Mathlib.Algebra.Order.BigOperators.Group.Finset

/-! Reservations owned by references. What a reference still owns is the aggregate of
its reservations and releases, and the owners' shares add up to the reserved quantity
of the balance. -/

namespace CareerProjects.Warehouse

open Library

/-- What a committed request adds to the reservation of one reference. -/
def StockRequest.reservationDelta (request : StockRequest) (key : BalanceKey)
    (referenceId : String) : Int :=
  match request with
  | .reservation request =>
    if request.key = key ∧ request.referenceId = referenceId then request.quantity else 0
  | .release request =>
    if request.key = key ∧ request.referenceId = referenceId then -request.quantity else 0
  | _ => 0

theorem referenceReservedQuantity_append (movements more : List StockMovement)
    (key : BalanceKey) (referenceId : String) :
    referenceReservedQuantity (movements ++ more) key referenceId =
      referenceReservedQuantity movements key referenceId +
        referenceReservedQuantity more key referenceId :=
  sumWhere_append more

theorem referenceReservedQuantity_singleton (movement : StockMovement) (key : BalanceKey)
    (referenceId : String) : referenceReservedQuantity [movement] key referenceId =
      if movement.key = key ∧ movement.movementType.reserving = true ∧
        movement.referenceId = some referenceId then movement.reservedDelta else 0 := by
  simp only [referenceReservedQuantity, sumWhere_cons, sumWhere_nil, add_zero, Bool.and_eq_true,
    beq_iff_eq, and_assoc]

theorem referenceReservedQuantity_post {inventory : Inventory} {request : StockRequest}
    {draw : Draw} {now : Time} {loaded : BalanceKey → Option InventoryBalance}
    {reservedForReference : Int} {postings : List Posting}
    (change : request.operation.change draw now loaded reservedForReference = .ok postings)
    (key : BalanceKey) (referenceId : String) :
    referenceReservedQuantity (inventory.post postings).movements key referenceId =
      referenceReservedQuantity inventory.movements key referenceId +
        request.reservationDelta key referenceId := by
  rw [Inventory.post_movements, referenceReservedQuantity_append]
  congr 1
  obtain ⟨rows, rfl⟩ := StockRequest.change_postings change
  cases request with
  | receipt | issue | reservation | release =>
    simp [StockRequest.postings, referenceReservedQuantity_singleton, postMovement, MovementType.reserving,
      StockRequest.reservationDelta, StockMovement.key]
  | transfer request =>
    rw [StockRequest.postings, List.map_cons, List.map_cons, List.map_nil, ← List.singleton_append,
      referenceReservedQuantity_append]
    simp [referenceReservedQuantity_singleton, postMovement, MovementType.reserving,
      StockRequest.reservationDelta]

structure Reservations (movements : List StockMovement) : Prop where
  owned : ∀ movement ∈ movements, movement.movementType.reserving = true →
    movement.referenceId ≠ none
  others : ∀ movement ∈ movements, movement.movementType.reserving = false →
    movement.reservedDelta = 0
  nonnegative : ∀ key referenceId, 0 ≤ referenceReservedQuantity movements key referenceId

namespace Reservations

variable {movements : List StockMovement}

theorem empty : Reservations [] where
  owned movement member := by cases member
  others movement member := by cases member
  nonnegative key referenceId := le_rfl

theorem reservedTotal_eq (h : Reservations movements) (key : BalanceKey) :
    (Function.support (referenceReservedQuantity movements key)).Finite ∧
      reservedTotal movements key = finsum (referenceReservedQuantity movements key) := by
  have shares := sumWhere_eq_finsum (fun m => m.key == key && m.movementType.reserving)
    StockMovement.reservedDelta movements StockMovement.referenceId fun movement member chosen =>
      h.owned movement member (by simp only [Bool.and_eq_true] at chosen; exact chosen.2)
  refine ⟨shares.1, Eq.trans ?_ shares.2⟩
  have same : ∀ entries : List StockMovement, (∀ movement ∈ entries,
      movement.movementType.reserving = false → movement.reservedDelta = 0) →
      reservedTotal entries key = sumWhere (fun m => m.key == key && m.movementType.reserving)
        StockMovement.reservedDelta entries := by
    intro entries others
    induction entries with
    | nil => rfl
    | cons movement rest ih =>
      simp only [reservedTotal, sumWhere_cons] at ih ⊢
      rw [ih fun other member => others other (List.mem_cons_of_mem _ member)]
      congr 1
      cases reserving : movement.movementType.reserving with
      | true => simp
      | false => simp [others movement List.mem_cons_self reserving]
  exact same movements h.others

/-- The minimum that `release_stock` takes is always its first argument. -/
theorem referenceReservedQuantity_le (h : Reservations movements) (key : BalanceKey)
    (referenceId : String) :
    referenceReservedQuantity movements key referenceId ≤ reservedTotal movements key := by
  obtain ⟨finite, sum⟩ := h.reservedTotal_eq key
  rw [sum]
  exact single_le_finsum referenceId finite fun other => h.nonnegative key other

theorem post {inventory : Inventory} (h : Reservations inventory.movements)
    {request : StockRequest} {draw : Draw} {now : Time}
    {loaded : BalanceKey → Option InventoryBalance} {postings : List Posting}
    (change : request.operation.change draw now loaded
      (request.operation.sums inventory.movements) = .ok postings) :
    Reservations (inventory.post postings).movements := by
  have kinds : ∀ movement ∈ postings.map Posting.movement,
      (movement.movementType.reserving = true → movement.referenceId ≠ none) ∧
      (movement.movementType.reserving = false → movement.reservedDelta = 0) := by
    obtain ⟨rows, rfl⟩ := StockRequest.change_postings change
    cases request <;> simp [StockRequest.postings, postMovement, MovementType.reserving]
  refine ⟨fun movement member => ?_, fun movement member => ?_, fun key referenceId => ?_⟩
  · rw [Inventory.post_movements] at member
    exact (List.mem_append.mp member).elim (h.owned movement) fun new => (kinds movement new).1
  · rw [Inventory.post_movements] at member
    exact (List.mem_append.mp member).elim (h.others movement) fun new => (kinds movement new).2
  · rw [referenceReservedQuantity_post change]
    have before := h.nonnegative key referenceId
    cases request with
    | reservation request =>
      have positive := request.quantityPositive
      simp only [StockRequest.reservationDelta]
      split <;> omega
    | release request =>
      obtain ⟨row, -, enough, -⟩ := releaseStock_ok.mp change
      simp only [StockRequest.reservationDelta]
      split
      · next own =>
        simp only [StockRequest.operation, StockOperation.sums, releaseStock, own.1, own.2]
          at enough
        omega
      · omega
    | receipt | issue | transfer => simpa [StockRequest.reservationDelta] using before

end Reservations

namespace Inventory

/-- One committed operation, as an atomic step. -/
def Commits (inventory : Inventory) (request : StockRequest) (inventory' : Inventory) : Prop :=
  ∃ draw now postings, draw.Fresh inventory.movements ∧
    request.operation.run draw now inventory = .ok (postings, inventory')

structure Accounted (inventory : Inventory) : Prop where
  totals : Totals inventory
  reservations : Reservations inventory.movements
  /-- The foreign key of the balance rows. -/
  products : ∀ key, (inventory.balances key).isSome → (inventory.products key.productId).isSome

structure Sound (inventory : Inventory) : Prop extends Accounted inventory where
  transfers : Transfers inventory.movements

theorem Sound.empty (products : Uuid → Option Product) : Sound (empty products) where
  totals := .empty products
  reservations := .empty
  products key present := by cases present
  transfers := { identified := by simp [Inventory.empty], paired := by simp [Inventory.empty] }

theorem loads_balance {operation : StockOperation} {inventory : Inventory} {key : BalanceKey}
    {row : InventoryBalance} (h : operation.loads inventory key = some row) :
    row = inventory.balance key := by
  rw [StockOperation.loads] at h
  split at h
  · cases h
  · split at h
    · exact (Option.some.inj h).symm
    · simp [balance, h]

theorem run_ok {operation : StockOperation} {draw : Draw} {now : Time}
    {inventory inventory' : Inventory} {postings : List Posting} :
    operation.run draw now inventory = .ok (postings, inventory') ↔
      (inventory.products operation.productId).isSome ∧
      operation.change draw now (operation.loads inventory)
        (operation.sums inventory.movements) = .ok postings ∧
      inventory' = inventory.post postings := by
  rw [StockOperation.run]
  cases inventory.products operation.productId with
  | none => simp
  | some product =>
    cases operation.change draw now (operation.loads inventory)
      (operation.sums inventory.movements) with
    | error error => simp
    | ok posted =>
      simp only [Except.ok.injEq, Prod.mk.injEq, Option.isSome_some, true_and]
      constructor
      · rintro ⟨rfl, rfl⟩
        exact ⟨rfl, rfl⟩
      · rintro ⟨rfl, rfl⟩
        exact ⟨rfl, rfl⟩

theorem post_isSome (inventory : Inventory) (postings : List Posting) (key : BalanceKey) :
    ((inventory.post postings).balances key).isSome ↔
      (inventory.balances key).isSome ∨ key ∈ postings.map Posting.key := by
  induction postings generalizing inventory with
  | nil => simp [Inventory.post]
  | cons posting postings ih =>
    have rest := ih (inventory.record posting)
    rw [record_balances] at rest
    by_cases same : key = posting.key
    · simpa [Inventory.post, same] using rest
    · simpa [Inventory.post, same] using rest

theorem locks_product {request : StockRequest} {key : BalanceKey}
    (h : key ∈ request.operation.locks) : key.productId = request.operation.productId := by
  cases request with
  | receipt | issue | reservation | release => rw [List.mem_singleton.mp h]; rfl
  | transfer request =>
    simp only [StockRequest.operation, transferStock] at h ⊢
    split at h <;> simp only [List.mem_cons, List.not_mem_nil, or_false] at h <;>
      rcases h with rfl | rfl <;> rfl

theorem Accounted.post {inventory : Inventory} (h : Accounted inventory) {request : StockRequest}
    {draw : Draw} {now : Time} {postings : List Posting}
    (found : (inventory.products request.operation.productId).isSome)
    (change : request.operation.change draw now (request.operation.loads inventory)
      (request.operation.sums inventory.movements) = .ok postings) :
    Accounted (inventory.post postings) where
  totals := by
    have posted := StockRequest.posted change
    refine h.totals.post posted.distinct fun posting member => ?_
    obtain ⟨row, loaded, posts, valid⟩ := posted.posts posting member
    rw [loads_balance loaded] at posts valid
    exact ⟨posts, valid (h.totals.valid_balance _)⟩
  reservations := h.reservations.post change
  products key present := by
    rw [post_products]
    rcases (post_isSome inventory postings key).mp present with before | written
    · exact h.products key before
    · have locked := ((StockRequest.posted change).locked key).mp written
      rw [locks_product locked]
      exact found

theorem Sound.commits {inventory inventory' : Inventory} {request : StockRequest}
    (h : Sound inventory) (commits : inventory.Commits request inventory') :
    Sound inventory' := by
  obtain ⟨draw, now, postings, fresh, run⟩ := commits
  obtain ⟨found, change, rfl⟩ := run_ok.mp run
  exact ⟨h.toAccounted.post found change, h.transfers.post fresh change⟩

end Inventory

end CareerProjects.Warehouse
