import CareerProjects.Library.Decimals
import CareerProjects.Warehouse.Orders
import Mathlib.Algebra.BigOperators.Group.List.Basic

/-! The amounts of an order: the decimal arithmetic of its lines and its total, which is exact for
every valid request, and the columns that the amounts are stored in. -/

namespace CareerProjects.Warehouse

open Library

/-- A price that the Inventory Service can store: a nonnegative `NUMERIC(12, 2)`, in cents. -/
abbrev StoredPrice := { cents : ℕ // cents < 10 ^ 12 }

namespace StoredPrice

def decimal (price : StoredPrice) : Decimal := ⟨price.1, -2⟩

def value (price : StoredPrice) : ℚ := price.1 / 100

end StoredPrice

def priced (prices : Uuid → StoredPrice) : Uuid → HttpAnswer ProductPayload :=
  fun productId => .ok ⟨true, some (prices productId).value⟩

def lineAmounts (price : Decimal) (quantity : ℤ) : Option (Decimal × Decimal) :=
  (price.quantize roundHalfUp (-2)).bind fun unitPrice =>
    ((unitPrice.mul ⟨quantity.toNat, 0⟩).quantize roundHalfUp (-2)).map fun lineTotal => (unitPrice, lineTotal)

def orderAmounts (prices : Uuid → Decimal) : List OrderItemCreate → Decimal → Option (List (Decimal × Decimal) × Decimal)
  | [], totalAmount => (totalAmount.quantize roundHalfEven (-2)).map fun total => ([], total)
  | requested :: rest, totalAmount =>
    (lineAmounts (prices requested.productId) requested.quantity).bind fun amounts =>
      (orderAmounts prices rest (totalAmount.add amounts.2)).map fun others => (amounts :: others.1, others.2)

def orderTotal (prices : Uuid → StoredPrice) (items : List OrderItemCreate) : ℚ :=
  (items.map fun item => (prices item.productId).value * item.quantity).sum

/-- The order is built; its amounts are those of the decimal arithmetic; each line is price times
quantity and the total their sum, in whatever order the items come; and all amounts fit their
columns. -/
def AmountsHold (prices : Uuid → StoredPrice) (orderId : Uuid) (request : OrderCreate) : Prop :=
  ∃ order lines total,
    buildOrder (.ok true) (priced prices) orderId request = .ok order ∧
    orderAmounts (fun productId => (prices productId).decimal) request.items ⟨0, -2⟩ = some (lines, total) ∧
    order.items.map (fun item => (item.unitPrice, item.lineTotal)) =
      lines.map (fun line => (line.1.value, line.2.value)) ∧
    order.totalAmount = total.value ∧
    List.Forall₂ (fun requested line => line.1.value = (prices requested.productId).value ∧
      line.2.value = (prices requested.productId).value * requested.quantity) request.items lines ∧
    total.value = (lines.map fun line => line.2.value).sum ∧
    (∀ other : OrderCreate, other.items.Perm request.items → ∃ otherLines,
      orderAmounts (fun productId => (prices productId).decimal) other.items ⟨0, -2⟩ = some (otherLines, total)) ∧
    (∀ line ∈ lines, FitsNumeric 12 2 line.1.value ∧ FitsNumeric 14 2 line.2.value) ∧
    FitsNumeric 12 2 total.value

def lineCents (prices : Uuid → StoredPrice) (requested : OrderItemCreate) : ℕ :=
  (prices requested.productId).1 * requested.quantity.toNat

def orderCents (prices : Uuid → StoredPrice) (items : List OrderItemCreate) : ℕ :=
  (items.map (lineCents prices)).sum

theorem lineCents_lt (prices : Uuid → StoredPrice) (requested : OrderItemCreate) :
    lineCents prices requested < 10 ^ 18 := by
  have price := (prices requested.productId).2
  have quantity : requested.quantity.toNat ≤ 10 ^ 6 := by
    have range := requested.quantityRange
    omega
  calc lineCents prices requested ≤ (prices requested.productId).1 * 10 ^ 6 := Nat.mul_le_mul_left _ quantity
    _ < 10 ^ 12 * 10 ^ 6 := by omega
    _ = 10 ^ 18 := by norm_num

theorem value_cents (cents : ℕ) : (Decimal.mk cents (-2)).value = cents / 100 := by
  rw [Decimal.value, div_eq_mul_inv]
  norm_num

theorem lineCents_value (prices : Uuid → StoredPrice) (requested : OrderItemCreate) :
    (lineCents prices requested : ℚ) / 100 = (prices requested.productId).value * requested.quantity := by
  have quantity : ((requested.quantity.toNat : ℕ) : ℚ) = requested.quantity := by
    have range := requested.quantityRange
    have whole : ((requested.quantity.toNat : ℕ) : ℤ) = requested.quantity := Int.toNat_of_nonneg (by omega)
    exact_mod_cast congrArg (Int.cast : ℤ → ℚ) whole
  rw [lineCents, Nat.cast_mul, quantity, StoredPrice.value]
  ring

theorem orderCents_value (prices : Uuid → StoredPrice) (items : List OrderItemCreate) :
    (orderCents prices items : ℚ) / 100 = orderTotal prices items := by
  induction items with
  | nil => simp [orderCents, orderTotal]
  | cons requested items ih =>
    have first := lineCents_value prices requested
    rw [orderCents, orderTotal, List.map_cons, List.sum_cons, List.map_cons, List.sum_cons, ← first]
    rw [orderCents, orderTotal] at ih
    rw [← ih]
    push_cast
    ring

theorem lineAmounts_eq (prices : Uuid → StoredPrice) (requested : OrderItemCreate) :
    lineAmounts (prices requested.productId).decimal requested.quantity =
      some (⟨(prices requested.productId).1, -2⟩, ⟨lineCents prices requested, -2⟩) := by
  have price := (prices requested.productId).2
  have bound := lineCents_lt prices requested
  have digits : (10 : ℕ) ^ 18 < 10 ^ Decimal.precision := by norm_num [Decimal.precision]
  have product : Decimal.mul ⟨(prices requested.productId).1, -2⟩ ⟨requested.quantity.toNat, 0⟩ =
      ⟨lineCents prices requested, -2⟩ := Decimal.mul_of_small (bound.trans digits)
  rw [lineAmounts, StoredPrice.decimal, Decimal.quantize_of_small roundHalfUp_natCast (by omega), Option.bind_some,
    product, Decimal.quantize_of_small roundHalfUp_natCast (bound.trans digits), Option.map_some]

theorem orderAmounts_eq (prices : Uuid → StoredPrice) (items : List OrderItemCreate) (total : ℕ)
    (small : total + items.length * 10 ^ 18 < 10 ^ 28) :
    orderAmounts (fun productId => (prices productId).decimal) items ⟨total, -2⟩ =
      some (items.map fun item => (⟨(prices item.productId).1, -2⟩, ⟨lineCents prices item, -2⟩),
        ⟨total + orderCents prices items, -2⟩) := by
  induction items generalizing total with
  | nil =>
    have fits : total < 10 ^ Decimal.precision := by simpa [Decimal.precision] using small
    rw [orderAmounts, Decimal.quantize_of_small roundHalfEven_natCast fits]
    rfl
  | cons requested items ih =>
    have bound := lineCents_lt prices requested
    rw [List.length_cons] at small
    have fits : total + lineCents prices requested < 10 ^ Decimal.precision := by
      rw [Decimal.precision]
      omega
    rw [orderAmounts, lineAmounts_eq, Option.bind_some, Decimal.add_of_small fits, ih _ (by omega), Option.map_some,
      orderCents, orderCents, List.map_cons, List.map_cons, List.sum_cons, Nat.add_assoc]

theorem orderCents_perm (prices : Uuid → StoredPrice) {items others : List OrderItemCreate}
    (perm : others.Perm items) : orderCents prices others = orderCents prices items :=
  (perm.map (lineCents prices)).sum_eq

def pricedItem (prices : Uuid → StoredPrice) (requested : OrderItemCreate) : OrderItem :=
  ⟨⟨requested.productId, requested.quantity, requested.quantityPositive⟩, (prices requested.productId).value,
    (prices requested.productId).value * requested.quantity⟩

theorem quantize_cents (cents : ℕ) : quantize (cents / 100) = cents / 100 := by
  have whole : ((cents : ℚ) / 100 * 100 + 1 / 2).floor = (cents : ℤ) := by
    change ⌊(cents : ℚ) / 100 * 100 + 1 / 2⌋ = (cents : ℤ)
    rw [div_mul_cancel₀ _ (by norm_num), Int.floor_eq_iff]
    push_cast
    constructor <;> linarith
  rw [quantize, whole]
  push_cast
  rfl

theorem buildItems_priced (prices : Uuid → StoredPrice) (items : List OrderItemCreate) :
    buildItems (priced prices) items = .ok (items.map (pricedItem prices)) := by
  induction items with
  | nil => rfl
  | cons requested items ih =>
    have price : ¬(prices requested.productId).value < 0 := by
      rw [StoredPrice.value, not_lt]
      positivity
    have unit : quantize (prices requested.productId).value = (prices requested.productId).value := quantize_cents _
    have line : quantize ((prices requested.productId).value * requested.quantity) =
        (prices requested.productId).value * requested.quantity := by
      rw [← lineCents_value]
      exact quantize_cents _
    have built : buildItem (priced prices requested.productId) requested = .ok (pricedItem prices requested) := by
      rw [buildItem, priced, getProduct]
      simp only
      rw [if_neg price, unit, line]
      rfl
    rw [buildItems, built, ih]
    rfl

theorem buildOrder_priced (prices : Uuid → StoredPrice) (orderId : Uuid) (request : OrderCreate) :
    ∃ order, buildOrder (.ok true) (priced prices) orderId request = .ok order ∧
      order.items = request.items.map (pricedItem prices) ∧ order.totalAmount = orderTotal prices request.items := by
  have items := buildItems_priced prices request.items
  unfold buildOrder
  simp only [verifyWarehouse]
  split
  · next error built =>
    rw [items] at built
    cases built
  · next list built =>
    rw [items, Except.ok.injEq] at built
    refine ⟨_, rfl, built.symm, ?_⟩
    change (list.map OrderItem.lineTotal).sum = _
    rw [← built, orderTotal, List.map_map]
    rfl

/-- The amounts of an order are always exact, and they can be stored exactly where the sum of price
times quantity is below ten thousand millions. -/
theorem amountsHold_iff (prices : Uuid → StoredPrice) (orderId : Uuid) (request : OrderCreate) :
    AmountsHold prices orderId request ↔ orderTotal prices request.items < 10 ^ 10 := by
  have few : ∀ other : OrderCreate, 0 + other.items.length * 10 ^ 18 < 10 ^ 28 := by
    intro other
    have length := other.itemsLength.2
    omega
  have amounts := orderAmounts_eq prices request.items 0 (few request)
  have limit : FitsNumeric 12 2 (orderCents prices request.items / 100) ↔ orderTotal prices request.items < 10 ^ 10 := by
    rw [fitsNumeric_cents, ← orderCents_value, div_lt_iff₀ (by norm_num)]
    norm_num
  rw [Nat.zero_add] at amounts
  constructor
  · rintro ⟨order, lines, total, -, decimals, -, -, -, -, -, -, fits⟩
    rw [amounts, Option.some.injEq, Prod.mk.injEq] at decimals
    rw [← decimals.2, value_cents] at fits
    exact limit.mp fits
  · intro small
    obtain ⟨order, built, items, total⟩ := buildOrder_priced prices orderId request
    refine ⟨order, _, _, built, amounts, ?_, ?_, ?_, ?_, ?_, ?_, ?_⟩
    · rw [items, List.map_map, List.map_map]
      refine List.map_congr_left fun requested _ => ?_
      simp only [Function.comp_apply, value_cents, lineCents_value, pricedItem, StoredPrice.value]
    · rw [total, value_cents, orderCents_value]
    · rw [List.forall₂_map_right_iff]
      refine List.forall₂_same.mpr fun requested _ => ?_
      simp only [value_cents, lineCents_value, StoredPrice.value, and_self]
    · rw [value_cents, orderCents_value, List.map_map, orderTotal]
      refine congrArg List.sum (List.map_congr_left fun requested _ => ?_)
      simp only [Function.comp_apply, value_cents, lineCents_value]
    · intro other perm
      have others := orderAmounts_eq prices other.items 0 (few other)
      rw [Nat.zero_add, orderCents_perm prices perm] at others
      exact ⟨_, others⟩
    · intro line member
      obtain ⟨requested, inside, rfl⟩ := List.mem_map.mp member
      have below : lineCents prices requested ≤ orderCents prices request.items :=
        List.single_le_sum (by simp) _ (List.mem_map_of_mem inside)
      have whole := fitsNumeric_cents.mp (limit.mpr small)
      simp only [value_cents, fitsNumeric_cents]
      exact ⟨(prices requested.productId).2, by omega⟩
    · rw [value_cents]
      exact limit.mpr small

def bulkOrder : OrderCreate where
  customerName := "Customer"
  customerEmail := "customer@example.com"
  warehouseId := 1
  items := [⟨2, 1000000, by decide⟩]
  nameLength := threeUnits.nameLength
  itemsLength := by decide
  distinctProducts := by decide

/-- A million pieces at 10000.00. -/
theorem bulkOrder_not_stored : ¬AmountsHold (fun _ => ⟨1000000, by decide⟩) 3 bulkOrder := by
  rintro ⟨order, lines, total, -, decimals, -, -, -, -, -, -, fits⟩
  have amounts := orderAmounts_eq (fun _ => ⟨1000000, by decide⟩) bulkOrder.items 0 (by decide)
  rw [amounts, Option.some.injEq, Prod.mk.injEq] at decimals
  rw [← decimals.2, value_cents, fitsNumeric_cents] at fits
  revert fits
  decide

end CareerProjects.Warehouse
