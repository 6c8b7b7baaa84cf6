import CareerProjects.Warehouse.Reservations

/-! The product endpoints of the Inventory Service. The balances and the movements of a product
refer to its row, and the database deletes them together with it. -/

namespace CareerProjects.Warehouse

open Library

abbrev Price := { price : ℚ // 0 ≤ price }

structure ProductRow where
  id : Uuid
  sku : String
  name : String
  description : Option String
  unitPrice : Price
  reorderLevel : ℕ
  isActive : Bool

/-- A validated request, its SKU normalised. -/
structure ProductCreate where
  sku : String
  name : String
  description : Option String := none
  unitPrice : Price
  reorderLevel : ℕ := 0

/-- The fields that the client supplied; an inner `none` is null. -/
structure ProductUpdate where
  name : Option (Option String) := none
  description : Option (Option String) := none
  unitPrice : Option (Option Price) := none
  reorderLevel : Option (Option ℕ) := none
  isActive : Option (Option Bool) := none

inductive ProductError
  | notFound (productId : Uuid)
  | skuConflict (sku : String)
  | databaseError

/-- What stock and order operations read of the row. -/
def ProductRow.product (row : ProductRow) : Product := ⟨row.unitPrice.1, row.isActive, row.unitPrice.2⟩

/-- The columns take the values of the row. -/
def ProductRow.storable (row : ProductRow) : Bool :=
  row.sku.length ≤ 50 && row.name.length ≤ 200 && row.unitPrice.1 < 10 ^ 10 && row.reorderLevel < 2 ^ 31 &&
    ([row.sku, row.name] ++ row.description.toList).all fun text => '\x00' ∉ text.toList

def ProductCreate.row (productData : ProductCreate) (id : Uuid) : ProductRow where
  id := id
  sku := productData.sku
  name := productData.name
  description := productData.description
  unitPrice := productData.unitPrice
  reorderLevel := productData.reorderLevel
  isActive := true

def ProductUpdate.apply (productData : ProductUpdate) (product : ProductRow) : Option ProductRow :=
  match productData.name.getD (some product.name), productData.unitPrice.getD (some product.unitPrice),
    productData.reorderLevel.getD (some product.reorderLevel),
    productData.isActive.getD (some product.isActive) with
  | some name, some unitPrice, some reorderLevel, some isActive => some
    { id := product.id
      sku := product.sku
      name := name
      description := productData.description.getD product.description
      unitPrice := unitPrice
      reorderLevel := reorderLevel
      isActive := isActive }
  -- null in a column that must not be
  | _, _, _, _ => none

def getProductById (products : List ProductRow) (productId : Uuid) : Option ProductRow :=
  products.find? fun product => product.id = productId

def getProductBySku (products : List ProductRow) (sku : String) : Option ProductRow :=
  products.find? fun product => product.sku = sku

def createProductEndpoint (productData : ProductCreate) (draw : Uuid) (products : List ProductRow) :
    Except ProductError ProductRow :=
  match getProductBySku products productData.sku with
  | some _ => .error (.skuConflict productData.sku)
  | none =>
    if !(productData.row draw).storable then .error .databaseError
    -- the primary key: any integrity error is reported so
    else if (getProductById products draw).isSome then .error (.skuConflict productData.sku)
    else .ok (productData.row draw)

def getProductOr404 (productId : Uuid) (products : List ProductRow) : Except ProductError ProductRow :=
  match getProductById products productId with
  | none => .error (.notFound productId)
  | some product => .ok product

def updateProductEndpoint (productId : Uuid) (productData : ProductUpdate) (products : List ProductRow) :
    Except ProductError ProductRow :=
  match getProductOr404 productId products with
  | .error error => .error error
  | .ok product =>
    match productData.apply product with
    | none => .error .databaseError
    | some row => if row.storable then .ok row else .error .databaseError

def deleteProductEndpoint (productId : Uuid) (products : List ProductRow) : Except ProductError ProductRow :=
  getProductOr404 productId products

/-- The table with a row written under its identifier. -/
def writeProduct (products : List ProductRow) (row : ProductRow) : List ProductRow :=
  products.map fun product => if product.id = row.id then row else product

def eraseProduct (products : List ProductRow) (productId : Uuid) : List ProductRow :=
  products.filter fun product => product.id ≠ productId

section Rows

variable {products : List ProductRow} {row product : ProductRow} {id productId draw : Uuid}
  {productData : ProductUpdate} {data : ProductCreate}

theorem getProductById_cons : getProductById (row :: products) id =
    if row.id = id then some row else getProductById products id := by
  by_cases own : row.id = id <;> simp [getProductById, own]

theorem getProductById_id (found : getProductById products id = some row) : row.id = id := by
  simpa using List.find?_some found

theorem getProductById_write : getProductById (writeProduct products row) id =
    (getProductById products id).map fun product => if product.id = row.id then row else product := by
  induction products with
  | nil => rfl
  | cons product products ih =>
    have keys : (if product.id = row.id then row else product).id = product.id := by
      by_cases own : product.id = row.id <;> simp [own]
    rw [writeProduct, List.map_cons, ← writeProduct, getProductById_cons, getProductById_cons, keys, ih]
    by_cases own : product.id = id <;> simp [own]

theorem getProductById_erase : getProductById (eraseProduct products productId) id =
    if id = productId then none else getProductById products id := by
  induction products with
  | nil => simp [eraseProduct, getProductById]
  | cons product products ih =>
    by_cases erased : product.id = productId
    · rw [eraseProduct, List.filter_cons_of_neg (by simp [erased]), ← eraseProduct, ih, getProductById_cons]
      by_cases own : id = productId
      · simp [own]
      · simp [own, erased, Ne.symm own]
    · rw [eraseProduct, List.filter_cons_of_pos (by simp [erased]), ← eraseProduct, getProductById_cons, ih,
        getProductById_cons]
      by_cases own : product.id = id
      · simp [own, own ▸ erased]
      · simp [own]

theorem apply_id (h : productData.apply product = some row) : row.id = product.id := by
  rw [ProductUpdate.apply] at h
  split at h
  · cases h
    rfl
  · cases h

theorem createProductEndpoint_ok (h : createProductEndpoint data draw products = .ok row) :
    row.id = draw ∧ getProductById products draw = none := by
  rw [createProductEndpoint] at h
  split at h
  · cases h
  · split at h
    · cases h
    · split at h
      · cases h
      · next absent =>
        cases h
        exact ⟨rfl, by simpa using absent⟩

theorem getProductOr404_ok (h : getProductOr404 productId products = .ok row) :
    getProductById products productId = some row := by
  rw [getProductOr404] at h
  split at h
  · cases h
  · next found =>
    cases h
    exact found

theorem updateProductEndpoint_ok (h : updateProductEndpoint productId productData products = .ok row) :
    row.id = productId ∧ (getProductById products productId).isSome := by
  rw [updateProductEndpoint] at h
  split at h
  · cases h
  · next product loaded =>
    have found := getProductOr404_ok loaded
    split at h
    · cases h
    · next applied =>
      split at h
      · cases h
        exact ⟨(apply_id applied).trans (getProductById_id found), by simp [found]⟩
      · cases h

end Rows

namespace Inventory

def putProduct (inventory : Inventory) (row : ProductRow) : Inventory :=
  { inventory with products := Function.update inventory.products row.id (some row.product) }

/-- `ON DELETE CASCADE` of balances and movements. -/
def deleteProduct (inventory : Inventory) (productId : Uuid) : Inventory where
  products := Function.update inventory.products productId none
  balances key := if key.productId = productId then none else inventory.balances key
  movements := inventory.movements.filter fun movement => movement.key.productId ≠ productId

variable {inventory : Inventory} {productId : Uuid} {row : ProductRow} {key : BalanceKey} {referenceId : String}

theorem Accounted.putProduct (h : inventory.Accounted) : (inventory.putProduct row).Accounted where
  totals := ⟨h.totals.onHand, h.totals.reserved, h.totals.valid, h.totals.onHandAfter, h.totals.reservedAfter⟩
  reservations := h.reservations
  products key present := by
    simp only [Inventory.putProduct, Function.update_apply]
    split
    · rfl
    · exact h.products key present

theorem sumWhere_deleteProduct {selects : StockMovement → Bool} {delta : StockMovement → Int}
    (own : ∀ movement, selects movement = true → movement.key = key) :
    sumWhere selects delta (inventory.deleteProduct productId).movements =
      if key.productId = productId then 0 else sumWhere selects delta inventory.movements := by
  split
  · next deleted =>
    refine sumWhere_eq_zero fun movement member chosen => ?_
    have kept := (List.mem_filter.mp member).2
    simp [own movement chosen, deleted] at kept
  · next other =>
    refine sumWhere_filter fun movement chosen => ?_
    simpa [own movement chosen] using other

theorem deleteProduct_balance : (inventory.deleteProduct productId).balance key =
    if key.productId = productId then .empty else inventory.balance key := by
  by_cases deleted : key.productId = productId <;> simp [balance, deleteProduct, deleted]

theorem deleteProduct_outstanding : (inventory.deleteProduct productId).outstanding key referenceId =
    if key.productId = productId then 0 else inventory.outstanding key referenceId := by
  refine sumWhere_deleteProduct fun movement chosen => ?_
  simp only [Bool.and_eq_true, beq_iff_eq] at chosen
  exact chosen.1.1

theorem Accounted.deleteProduct (h : inventory.Accounted) : (inventory.deleteProduct productId).Accounted where
  totals := by
    refine ⟨fun key => ?_, fun key => ?_, fun key row found => ?_, ?_, ?_⟩
    · rw [deleteProduct_balance, onHandTotal, sumWhere_deleteProduct fun movement own => by simpa using own]
      split
      · rfl
      · exact h.totals.onHand key
    · rw [deleteProduct_balance, reservedTotal, sumWhere_deleteProduct fun movement own => by simpa using own]
      split
      · rfl
      · exact h.totals.reserved key
    · simp only [Inventory.deleteProduct] at found
      split at found
      · cases found
      · exact h.totals.valid key row found
    · exact h.totals.onHandAfter.filter fun key => key.productId ≠ productId
    · exact h.totals.reservedAfter.filter fun key => key.productId ≠ productId
  reservations := by
    refine ⟨fun movement member => ?_, fun movement member => ?_, fun key referenceId => ?_⟩
    · exact h.reservations.owned movement (List.mem_filter.mp member).1
    · exact h.reservations.others movement (List.mem_filter.mp member).1
    · have total := @deleteProduct_outstanding inventory productId key referenceId
      rw [outstanding] at total
      rw [total]
      split
      · rfl
      · exact h.reservations.nonnegative key referenceId
  products key present := by
    simp only [Inventory.deleteProduct] at present ⊢
    split at present
    · cases present
    · next other =>
      rw [Function.update_of_ne other]
      exact h.products key present

theorem Accounted.outstanding_missing (h : inventory.Accounted)
    (missing : inventory.products key.productId = none) : inventory.outstanding key referenceId = 0 := by
  have absent : inventory.balances key = none := by
    by_contra present
    have found := h.products key (Option.isSome_iff_ne_none.mpr present)
    simp [missing] at found
  have total := h.totals.reserved key
  have share := h.reservations.referenceReservedQuantity_le key referenceId
  have nonnegative := h.reservations.nonnegative key referenceId
  simp only [balance, absent, Option.getD_none, InventoryBalance.empty] at total
  rw [outstanding]
  omega

end Inventory

end CareerProjects.Warehouse
