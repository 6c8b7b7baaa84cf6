import CareerProjects.Warehouse.OrderCalls

/-! The two order sagas. Creating an order reserves its lines and cancelling releases
them; each undoes what it completed when a later step fails. Both are consistent
except when a call takes effect whose answer is lost, because the line of that call is
not among those the service undoes. -/

namespace CareerProjects.Warehouse

open Library

namespace Order

variable {order : Order} {start inventory : Inventory}

/-- The inventory while one saga of the order runs from `start`: each line is owned in
full or not at all, and owned and free stock keep their sum. -/
structure InProgress (order : Order) (start inventory : Inventory) : Prop where
  accounted : inventory.Accounted
  products : inventory.products = start.products
  rows : ∀ key, (inventory.balances key).isSome ↔ (start.balances key).isSome
  conserved : ∀ key, inventory.available key + order.owned inventory key =
    start.available key + order.owned start key
  lines : ∀ line ∈ order.lines, order.owned inventory (order.key line) = 0 ∨
    order.owned inventory (order.key line) = line.quantity
  elsewhere : ∀ key, (∀ line ∈ order.lines, key ≠ order.key line) →
    order.owned inventory key = order.owned start key

/-- The order's share of the line's balance changes by `delta`, and nothing else of it. -/
def Moved (order : Order) (line : ReservationLine) (delta : Int) (inventory inventory' : Inventory) :
    Prop :=
  ∀ key, order.owned inventory' key =
    order.owned inventory key + if order.key line = key then delta else 0

theorem moved_of_reservation {inventory' : Inventory} {line : ReservationLine}
    (moves : Inventory.Moves
      (.reservation (reservationRequest order.warehouseId order.orderNumber line))
      order.orderNumber.1 inventory inventory') :
    order.Moved line line.quantity inventory inventory' := by
  intro key
  refine (moves.outstanding key).trans ?_
  simp only [StockRequest.reservationDelta, reservationRequest, and_true]
  rfl

theorem moved_of_release {inventory' : Inventory} {line : ReservationLine}
    (moves : Inventory.Moves (.release (releaseRequest order.warehouseId order.orderNumber line))
      order.orderNumber.1 inventory inventory') :
    order.Moved line (-line.quantity) inventory inventory' := by
  intro key
  refine (moves.outstanding key).trans ?_
  simp only [StockRequest.reservationDelta, releaseRequest, and_true]
  rfl

theorem Moved.other {inventory' : Inventory} {line other : ReservationLine} {delta : Int}
    (h : order.Moved line delta inventory inventory')
    (different : other.productId ≠ line.productId) :
    order.owned inventory' (order.key other) = order.owned inventory (order.key other) := by
  have keys : order.key line ≠ order.key other := fun same =>
    different (order.key_injective same).symm
  rw [h, if_neg keys, add_zero]

theorem InProgress.moves {inventory' : Inventory} (h : order.InProgress start inventory)
    {line : ReservationLine} (member : line ∈ order.lines) {request : StockRequest}
    (moves : Inventory.Moves request order.orderNumber.1 inventory inventory') {delta : Int}
    (moved : order.Moved line delta inventory inventory')
    (result : order.owned inventory (order.key line) + delta = 0 ∨
      order.owned inventory (order.key line) + delta = line.quantity) :
    order.InProgress start inventory' where
  accounted := moves.accounted h.accounted
  products := moves.products.trans h.products
  rows key := (moves.rows key).trans (h.rows key)
  conserved key := (moves.conserved key).trans (h.conserved key)
  lines other known := by
    by_cases same : other.productId = line.productId
    · obtain rfl := order.line_eq known member same
      simpa [moved (order.key other)] using result
    · rw [moved.other same]
      exact h.lines other known
  elsewhere key outside := by
    rw [moved, if_neg (outside line member).symm, add_zero]
    exact h.elsewhere key outside

/-- What one call for a line does in a saga: it takes effect if it arrives and the
service accepts it, and then moves the line. -/
def CallEffect (order : Order) (start inventory : Inventory) (line : ReservationLine)
    (delta : Int) (accepts : Prop) (outcome : CallOutcome)
    (answer : Except ServiceError Unit × Inventory) : Prop :=
  (answer.1 = .ok () ↔ outcome.delivers ∧ accepts) ∧
    ((outcome.delivers ∨ outcome.loses) ∧ accepts ∧ order.InProgress start answer.2 ∧
        order.Moved line delta inventory answer.2 ∨
      ¬ ((outcome.delivers ∨ outcome.loses) ∧ accepts) ∧ answer.2 = inventory)

theorem InProgress.reserve (h : order.InProgress start inventory) {line : ReservationLine}
    (member : line ∈ order.lines) (unowned : order.owned inventory (order.key line) = 0)
    (outcome : CallOutcome) :
    CallEffect order start inventory line line.quantity (order.Reservable inventory line) outcome
      (clientReserveStock order.warehouseId order.orderNumber line outcome inventory) := by
  have runs : ∀ draw now, (∃ result, (reserveStock (reservationRequest order.warehouseId
      order.orderNumber line)).run draw now inventory = .ok result) ↔
      order.Reservable inventory line := by
    intro draw now
    rw [Inventory.reserveStock_runs]
    exact ⟨fun all => ⟨all.1, all.2.2⟩, fun all => ⟨all.1, unowned.le, all.2⟩⟩
  obtain ⟨ok, effect⟩ := @postStock_spec _ .stockReservation outcome _ _ runs
  refine ⟨ok, effect.imp_left ?_⟩
  rintro ⟨arrives, accepted, draw, now, postings, run⟩
  have moves := Inventory.reserveStock_moves run
  have moved := moved_of_reservation moves
  exact ⟨arrives, accepted, h.moves member moves moved (.inr (by rw [unowned, zero_add])), moved⟩

theorem releasable (accounted : inventory.Accounted) {line : ReservationLine}
    (owns : order.owned inventory (order.key line) = line.quantity) :
    (inventory.products line.productId).isSome ∧ (inventory.balances (order.key line)).isSome ∧
      line.quantity ≤ min (order.owned inventory (order.key line))
        (inventory.balance (order.key line)).quantityReserved := by
  have positive := line.quantityPositive
  have share := accounted.reservations.referenceReservedQuantity_le (order.key line)
    order.orderNumber.1
  have reserved : line.quantity ≤ (inventory.balance (order.key line)).quantityReserved := by
    calc line.quantity = order.owned inventory (order.key line) := owns.symm
      _ ≤ reservedTotal inventory.movements (order.key line) := share
      _ = _ := (accounted.totals.reserved (order.key line)).symm
  have present : (inventory.balances (order.key line)).isSome := by
    by_contra missing
    have empty : (inventory.balance (order.key line)).quantityReserved = 0 := by
      simp only [Option.not_isSome_iff_eq_none] at missing
      simp [Inventory.balance, missing, InventoryBalance.empty]
    omega
  exact ⟨accounted.products (order.key line) present, present, by rw [owns]; omega⟩

theorem InProgress.release (h : order.InProgress start inventory) {line : ReservationLine}
    (member : line ∈ order.lines) (owns : order.owned inventory (order.key line) = line.quantity)
    (outcome : CallOutcome) :
    CallEffect order start inventory line (-line.quantity) True outcome
      (clientReleaseStock order.warehouseId order.orderNumber line outcome inventory) := by
  have runs : ∀ draw now, (∃ result, (releaseStock (releaseRequest order.warehouseId
      order.orderNumber line)).run draw now inventory = .ok result) ↔ True := by
    intro draw now
    rw [Inventory.releaseStock_runs, iff_true]
    exact releasable h.accounted owns
  obtain ⟨ok, effect⟩ := @postStock_spec _ .stockRelease outcome _ _ runs
  refine ⟨ok, effect.imp_left ?_⟩
  rintro ⟨arrives, accepted, draw, now, postings, run⟩
  have moves := Inventory.releaseStock_moves run
  have moved := moved_of_release moves
  exact ⟨arrives, accepted, h.moves member moves moved (.inl (by rw [owns]; omega)), moved⟩

theorem InProgress.reservable_again (h : order.InProgress start inventory)
    {line : ReservationLine} (accounted : start.Accounted)
    (owned_before : order.owned start (order.key line) = line.quantity)
    (unowned : order.owned inventory (order.key line) = 0) : order.Reservable inventory line := by
  have positive := line.quantityPositive
  have present := (releasable accounted owned_before).2.1
  have valid := accounted.totals.valid_balance (order.key line)
  have kept := h.conserved (order.key line)
  refine ⟨?_, (h.rows _).mpr present, ?_⟩
  · rw [h.products]
    exact accounted.products (order.key line) present
  · simp only [Inventory.available, InventoryBalance.Valid] at kept valid ⊢
    omega

theorem InProgress.start_of (accounted : start.Accounted)
    (lines : ∀ line ∈ order.lines, order.owned start (order.key line) = 0 ∨
      order.owned start (order.key line) = line.quantity) : order.InProgress start start where
  accounted := accounted
  products := rfl
  rows _ := .rfl
  conserved _ := rfl
  lines := lines
  elsewhere _ _ := rfl

theorem numbered_mem {item : ReservationLine × Nat} (member : item ∈ order.lines.zipIdx) :
    item.1 ∈ order.lines :=
  List.fst_mem_of_mem_zipIdx member

theorem numbered_ne {item other : ReservationLine × Nat} (member : item ∈ order.lines.zipIdx)
    (known : other ∈ order.lines.zipIdx) (different : other ≠ item) :
    other.1.productId ≠ item.1.productId :=
  fun same => different (order.numbered_line_eq known member same)

theorem creating_laws (environment : Environment)
    (unowned : ∀ line ∈ order.lines, order.owned start (order.key line) = 0) :
    SagaLaws (reserveLine order environment) (releaseLine order environment) order.lines.zipIdx
      (order.InProgress start)
      (fun inventory item => order.owned inventory (order.key item.1) = item.1.quantity)
      (fun item => (environment.reserve item.2).delivers ∧ order.Reservable start item.1)
      (fun item => (environment.reserve item.2).loses ∧ order.Reservable start item.1)
      (fun item => (environment.release item.2).delivers) := by
  -- a line that is not owned is as reservable as it was at the start
  have reserve : ∀ item ∈ order.lines.zipIdx, ∀ inventory, order.InProgress start inventory →
      ¬ order.owned inventory (order.key item.1) = item.1.quantity →
      CallEffect order start inventory item.1 item.1.quantity (order.Reservable start item.1)
        (environment.reserve item.2) (reserveLine order environment item inventory) := by
    intro item member inventory progress notOwned
    have known := numbered_mem member
    have zero := (progress.lines item.1 known).resolve_right notOwned
    have kept := progress.conserved (order.key item.1)
    have same : order.Reservable inventory item.1 ↔ order.Reservable start item.1 := by
      rw [zero, unowned item.1 known] at kept
      simp only [Reservable, progress.products, progress.rows]
      simp only [add_zero] at kept
      rw [kept]
    have effect := progress.reserve known zero (environment.reserve item.2)
    rwa [same] at effect
  refine ⟨fun item member inventory progress notOwned => ?_,
    fun item member inventory progress notOwned => ?_,
    fun item member inventory progress notOwned other known => ?_,
    fun item member inventory progress owns => ?_, fun item member inventory progress owns => ?_,
    fun item member inventory progress owns other known settled => ?_⟩
  · rcases (reserve item member inventory progress notOwned).2 with ⟨-, -, after, -⟩ | ⟨-, same⟩
    · exact after
    · rwa [same]
  · exact (reserve item member inventory progress notOwned).1
  · have zero := (progress.lines item.1 (numbered_mem member)).resolve_right notOwned
    rcases (reserve item member inventory progress notOwned).2 with
      ⟨arrives, accepted, -, moved⟩ | ⟨nothing, same⟩
    · by_cases this : other = item
      · subst this
        simp only [accepted, and_true, arrives, or_true, iff_true]
        rw [moved, zero, if_pos rfl, zero_add]
      · rw [moved.other (numbered_ne member known this)]
        simp [this]
    · rw [same]
      refine ⟨.inl, fun h => h.elim (fun owns => owns) fun took => ?_⟩
      exact absurd (or_and_right.mpr took.2) nothing
  · rcases (progress.release (numbered_mem member) owns (environment.release item.2)).2 with
      ⟨-, -, after, -⟩ | ⟨-, same⟩
    · exact after
    · rwa [releaseLine, same]
  · have effect := progress.release (numbered_mem member) owns (environment.release item.2)
    rw [releaseLine, effect.1, and_true]
  · have positive := item.1.quantityPositive
    have effect := progress.release (numbered_mem member) owns (environment.release item.2)
    rw [releaseLine]
    rcases effect.2 with ⟨-, -, -, moved⟩ | ⟨nothing, same⟩
    · by_cases this : other = item
      · subst this
        rw [moved, owns, if_pos rfl]
        simp only [ne_eq, not_true_eq_false, and_false, iff_false]
        omega
      · rw [moved.other (numbered_ne member known this)]
        simp [this]
    · have undelivered : ¬ (environment.release item.2).delivers :=
        fun delivers => nothing ⟨.inl delivers, trivial⟩
      rw [same]
      simp [settled.resolve_right undelivered]

theorem cancelling_laws (environment : Environment) (accounted : start.Accounted)
    (owns_all : ∀ line ∈ order.lines, order.owned start (order.key line) = line.quantity) :
    SagaLaws (releaseLine order environment) (reserveLine order environment) order.lines.zipIdx
      (order.InProgress start)
      (fun inventory item => order.owned inventory (order.key item.1) = 0)
      (fun item => (environment.release item.2).delivers)
      (fun item => (environment.release item.2).loses)
      (fun item => (environment.reserve item.2).delivers) := by
  have release : ∀ item ∈ order.lines.zipIdx, ∀ inventory, order.InProgress start inventory →
      ¬ order.owned inventory (order.key item.1) = 0 →
      CallEffect order start inventory item.1 (-item.1.quantity) True
        (environment.release item.2) (releaseLine order environment item inventory) := by
    intro item member inventory progress remains
    have known := numbered_mem member
    exact progress.release known ((progress.lines item.1 known).resolve_left remains) _
  have reserve : ∀ item ∈ order.lines.zipIdx, ∀ inventory, order.InProgress start inventory →
      order.owned inventory (order.key item.1) = 0 →
      CallEffect order start inventory item.1 item.1.quantity True
        (environment.reserve item.2) (reserveLine order environment item inventory) := by
    intro item member inventory progress gone
    have known := numbered_mem member
    have effect := progress.reserve known gone (environment.reserve item.2)
    rwa [eq_true (progress.reservable_again accounted (owns_all item.1 known) gone)] at effect
  refine ⟨fun item member inventory progress remains => ?_,
    fun item member inventory progress remains => ?_,
    fun item member inventory progress remains other known => ?_,
    fun item member inventory progress gone => ?_, fun item member inventory progress gone => ?_,
    fun item member inventory progress gone other known settled => ?_⟩
  · rcases (release item member inventory progress remains).2 with ⟨-, -, after, -⟩ | ⟨-, same⟩
    · exact after
    · rwa [same]
  · simpa using (release item member inventory progress remains).1
  · have owns := (progress.lines item.1 (numbered_mem member)).resolve_left remains
    rcases (release item member inventory progress remains).2 with
      ⟨arrives, -, -, moved⟩ | ⟨nothing, same⟩
    · by_cases this : other = item
      · subst this
        simp only [arrives, and_self, or_true, iff_true]
        rw [moved, owns, if_pos rfl]
        omega
      · rw [moved.other (numbered_ne member known this)]
        simp [this]
    · rw [same]
      refine ⟨.inl, fun h => h.elim (fun gone => gone) fun took => ?_⟩
      exact absurd ⟨took.2, trivial⟩ nothing
  · rcases (reserve item member inventory progress gone).2 with ⟨-, -, after, -⟩ | ⟨-, same⟩
    · exact after
    · rwa [same]
  · simpa using (reserve item member inventory progress gone).1
  · have positive := item.1.quantityPositive
    rcases (reserve item member inventory progress gone).2 with ⟨-, -, -, moved⟩ | ⟨nothing, same⟩
    · by_cases this : other = item
      · subst this
        rw [moved, gone, if_pos rfl]
        simp only [ne_eq, not_true_eq_false, and_false, iff_false]
        omega
      · rw [moved.other (numbered_ne member known this)]
        simp [this]
    · have undelivered : ¬ (environment.reserve item.2).delivers :=
        fun delivers => nothing ⟨.inl delivers, trivial⟩
      rw [same]
      simp [settled.resolve_right undelivered]

end Order

end CareerProjects.Warehouse
