import CareerProjects.Library.Paging
import CareerProjects.Warehouse.Isolation
import CareerProjects.Warehouse.Orders

/-! The histories that the services list page by page: the movements of the stock, and the orders. Both
are ordered by the time of their transactions alone. -/

namespace CareerProjects.Warehouse

open Library

structure MovementFilter where
  productId : Option Uuid := none
  warehouseId : Option Uuid := none
  transferId : Option Uuid := none

def MovementFilter.keeps (filter : MovementFilter) (movement : StockMovement) : Bool :=
  filter.productId.all (movement.productId = ·) && filter.warehouseId.all (movement.warehouseId = ·) &&
    filter.transferId.all (movement.transferId = some ·)

def listStockMovements (movements : List StockMovement) (filter : MovementFilter) (offset limit : ℕ) :
    List StockMovement → Prop :=
  Page StockMovement.createdAt (movements.filter filter.keeps) offset limit

structure OrderRow where
  order : Order
  createdAt : Time

structure OrderTable where
  rows : List OrderRow
  distinct : (rows.map fun row => row.order.id).Nodup

def OrderTable.keeps (statusFilter : Option OrderStatus) (row : OrderRow) : Bool :=
  statusFilter.all (row.order.status = ·)

def listOrders (orders : OrderTable) (statusFilter : Option OrderStatus) (offset limit : ℕ) : List OrderRow → Prop :=
  Page OrderRow.createdAt (orders.rows.filter (OrderTable.keeps statusFilter)) offset limit

/-- However the pages come, those of the movements are all matching movements, each once, and those of the
orders all matching orders. -/
structure ReadsAll (movements : List StockMovement) (filter : MovementFilter) (orders : OrderTable)
    (statusFilter : Option OrderStatus) (limit : ℕ) : Prop where
  movements : ∀ pages, Pages (listStockMovements movements filter) limit 0 pages →
    pages.flatten.Perm (movements.filter filter.keeps)
  orders : ∀ pages, Pages (listOrders orders statusFilter) limit 0 pages →
    pages.flatten.Perm (orders.rows.filter (OrderTable.keeps statusFilter))

theorem change_ids {request : StockRequest} {draw : Draw} {now : Time} {loaded : BalanceKey → Option InventoryBalance}
    {reserved : Int} {postings : List Posting}
    (change : request.operation.change draw now loaded reserved = .ok postings) :
    (postings.map fun posting => posting.movement.id).Sublist [draw.movementId, draw.inboundMovementId] := by
  obtain ⟨rows, rfl⟩ := StockRequest.change_postings change
  cases request <;> simp [StockRequest.postings, postMovement]

theorem Inventory.Reachable.movements_nodup {products : Uuid → Option Product} {inventory : Inventory}
    (reachable : inventory.Reachable products) : (inventory.movements.map StockMovement.id).Nodup := by
  refine Reached.invariant (I := fun inventory => (inventory.movements.map StockMovement.id).Nodup) reachable
    List.nodup_nil fun before request after known commits => ?_
  obtain ⟨draw, now, postings, fresh, run⟩ := commits
  obtain ⟨-, change, rfl⟩ := Inventory.run_ok.mp run
  have written := change_ids change
  have drawn : [draw.movementId, draw.inboundMovementId].Nodup := by simpa using fresh.1
  rw [Inventory.post_movements, List.map_append, List.map_map]
  refine List.nodup_append.mpr ⟨known, drawn.sublist written, fun id old other new same => ?_⟩
  obtain ⟨movement, member, rfl⟩ := List.mem_map.mp old
  have among := written.subset new
  have apart := fresh.2 movement member
  simp only [List.mem_cons, List.not_mem_nil, or_false] at among
  rcases among with rfl | rfl
  · exact apart.1 same
  · exact apart.2.1 same

/-- Nothing is lost or read twice exactly where no page ends between two rows of one time. -/
theorem readsAll_iff {products : Uuid → Option Product} {database : Database}
    (reachable : Database.Reachable products database) (filter : MovementFilter) (orders : OrderTable)
    (statusFilter : Option OrderStatus) {limit : ℕ} (positive : 1 ≤ limit) :
    ReadsAll database.movements filter orders statusFilter limit ↔
      (∀ page, ¬TiedAt StockMovement.createdAt (database.movements.filter filter.keeps) (page * limit)) ∧
        ∀ page, ¬TiedAt OrderRow.createdAt (orders.rows.filter (OrderTable.keeps statusFilter)) (page * limit) := by
  have movements : database.movements.Nodup := reachable.inventory.movements_nodup.of_map _
  have rows : orders.rows.Nodup := orders.distinct.of_map _
  rw [← pages_perm_iff (movements.filter _) positive, ← pages_perm_iff (rows.filter _) positive]
  constructor
  · intro all
    exact ⟨all.movements, all.orders⟩
  · intro both
    exact ⟨both.1, both.2⟩

def transferringRun : List Database.Action :=
  .start 0 (.receipt fiveUnits) 0 ::
    List.replicate 6 (.execute 0) ++ [.commit 0 ⟨1, 2, 3⟩] ++
  .start 1 (.transfer transferOfThree) 1 ::
    List.replicate 7 (.execute 1) ++ [.commit 1 ⟨4, 5, 6⟩]

def noOrders : OrderTable := ⟨[], List.nodup_nil⟩

theorem transferringRun_times : (transferringRun.foldlM Database.step (Database.initial oneProduct)).any (fun database =>
    descendingKeys StockMovement.createdAt (database.movements.filter (MovementFilter.keeps {})) == [1, 1, 0]) = true := by
  decide +kernel

/-- Two by two, the movements of the transfer come together. -/
theorem readsAll_iff_transferring : ∃ database, Database.Reachable oneProduct database ∧ 1 ≤ 2 ∧
    ReadsAll database.movements {} noOrders none 2 := by
  have facts := transferringRun_times
  simp only [Option.any_eq_true, beq_iff_eq] at facts
  obtain ⟨database, run, times⟩ := facts
  have reachable : Database.Reachable oneProduct database := Reached.of_foldlM run
  refine ⟨database, reachable, by decide, (readsAll_iff reachable {} noOrders none (by decide)).mpr ⟨?_, ?_⟩⟩
  · rintro page ⟨within, time, last, next⟩
    rw [times] at last next
    match page with
    | 0 => cases within
    | 1 =>
      cases last
      cases next
    | page + 2 =>
      have beyond : ([1, 1, 0] : List Time).length ≤ (page + 2) * 2 := by
        simp only [List.length_cons, List.length_nil]
        omega
      rw [List.getElem?_eq_none beyond] at next
      cases next
  · rintro page ⟨-, time, -, next⟩
    cases next

/-- The two movements of a transfer have one time: read one by one, they may be one of them twice. -/
theorem transfer_read_twice : ∃ database, Database.Reachable oneProduct database ∧
    ¬ReadsAll database.movements {} noOrders none 1 := by
  have facts := transferringRun_times
  simp only [Option.any_eq_true, beq_iff_eq] at facts
  obtain ⟨database, run, times⟩ := facts
  have reachable : Database.Reachable oneProduct database := Reached.of_foldlM run
  refine ⟨database, reachable, fun all => ?_⟩
  have distinct : database.movements.Nodup := reachable.inventory.movements_nodup.of_map _
  refine (pages_perm_iff (distinct.filter _) Nat.one_pos).mp all.movements 1 ⟨by decide, 1, ?_, ?_⟩
  · rw [times]
    rfl
  · rw [times]
    rfl

end CareerProjects.Warehouse
