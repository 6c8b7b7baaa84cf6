import CareerProjects.Warehouse.OrderOwnership

/-! Confirmed orders and their stock. Confirming checks the status only, and the status
says `RESERVED` also while the compensation of a failed cancellation has yet to reserve
lines again. A confirmation that commits when no cancellation owes the order a line finds
every line reserved, and nothing is released or reserved for the order any more. -/

namespace CareerProjects.Warehouse

open Library

namespace Inventory

variable (inventory : Inventory) (key : BalanceKey) (referenceId : String)

def reservedQuantity : Int :=
  sumWhere (fun movement => movement.key == key && movement.movementType == .reservation &&
    movement.referenceId == some referenceId) StockMovement.reservedDelta inventory.movements

def releasedQuantity : Int :=
  sumWhere (fun movement => movement.key == key && movement.movementType == .release &&
    movement.referenceId == some referenceId) (fun movement => -movement.reservedDelta)
    inventory.movements

theorem outstanding_eq_sub : inventory.outstanding key referenceId =
    inventory.reservedQuantity key referenceId - inventory.releasedQuantity key referenceId := by
  rw [outstanding, referenceReservedQuantity, reservedQuantity, releasedQuantity]
  induction inventory.movements with
  | nil => rfl
  | cons movement rest ih =>
    simp only [sumWhere_cons, ih]
    by_cases own : (movement.key == key && movement.referenceId == some referenceId) = true
    · simp only [Bool.and_eq_true] at own
      cases type : movement.movementType <;> simp [MovementType.reserving, own] <;> omega
    · have other : ∀ chosen : Bool,
          (movement.key == key && chosen && movement.referenceId == some referenceId) = false := by
        intro chosen
        cases chosen <;> simp_all
      simp [other]

end Inventory

namespace System

def OwnsLines (sys : System) (order : Order) : Prop :=
  ∀ line ∈ order.lines, order.owned sys.inventory (order.key line) = line.quantity

instance (sys : System) (order : Order) : Decidable (sys.OwnsLines order) := by
  unfold OwnsLines; infer_instance

def confirms (sys : System) : OrderAction → Option Uuid
  | .advance id (.commit (.ok _)) =>
    match sys.requests id with
    | some (.confirmable order) => some order.id
    | _ => none
  | _ => none

/-- A transition whose confirmation, if it commits one, is of an order that no
cancellation owes a line. -/
def DebtFree (sys : System) (action : OrderAction) (sys' : System) : Prop :=
  Transition sys action sys' ∧ ∀ orderId, sys.confirms action = some orderId → sys.NoDebt orderId

def Settled (sys : System) (order : Order) : Prop :=
  sys.orders order.id = some order ∧ (order.status = .confirmed ∨ order.status = .cancelled)

variable {sys sys' : System} {id : RequestId} {request : OrderRequest} {action : OrderAction}
  {order : Order}

theorem OrderSound.owes_mem {orderId : Uuid} (h : OrderSound sys orderId)
    (stored : sys.orders orderId = some order) {line : ReservationLine}
    (owes : sys.Owes orderId id line) : line ∈ order.lines := by
  obtain ⟨request, served, own, member⟩ := owes
  have fits := h.fits id request served own
  rw [stored] at fits
  cases request with
  | releasing row pending released =>
    obtain ⟨same, -, -, lines⟩ := fits
    cases same
    rw [lines]
    exact List.mem_append_left _ member
  | restoring row pending failures error =>
    obtain ⟨⟨status, same⟩, -, lines⟩ := fits
    cases same
    exact lines line member
  | unrestored row failures =>
    obtain ⟨⟨status, same⟩, lines⟩ := fits
    cases same
    exact lines line member
  | _ => cases member

theorem Sound.ownsLines_iff (h : Sound sys) (stored : sys.orders order.id = some order)
    (live : order.status ≠ .cancelled) : sys.OwnsLines order ↔ sys.NoDebt order.id := by
  obtain ⟨custody, keeps⟩ := (h.orders order.id).custody order stored
  constructor
  · intro owns id line owes
    have member := (h.orders order.id).owes_mem stored owes
    have place := (keeps.owes line member id).mp owes
    have share := keeps.owned line member
    have positive := line.quantityPositive
    rw [place, ← sys.owned_eq, owns line member] at share
    simp only at share
    omega
  · intro debtless line member
    have share := keeps.owned line member
    rw [sys.owned_eq, share]
    cases place : custody line with
    | inventory => rfl
    | request id => exact absurd ((keeps.owes line member id).mpr place) (debtless id line)
    | spent => exact absurd ((keeps.spent line member).mp place) live

theorem Sound.cancelled_noDebt (h : Sound sys) (stored : sys.orders order.id = some order)
    (cancelled : order.status = .cancelled) : sys.NoDebt order.id := by
  obtain ⟨custody, keeps⟩ := (h.orders order.id).custody order stored
  intro id line owes
  have member := (h.orders order.id).owes_mem stored owes
  have place := (keeps.owes line member id).mp owes
  rw [(keeps.spent line member).mpr cancelled] at place
  cases place

theorem Sound.settled_advance (h : Sound sys) (settled : sys.Settled order)
    (debtless : sys.NoDebt order.id) (served : sys.requests id = some request)
    (own : request.orderId = order.id) {event : OrderEvent} {session : OrderSession}
    (advances : OrderSession.Advances id (sys.session request) event session) :
    session.row = sys.orders request.orderId ∧ session.inventory = sys.inventory ∧
      session.request.owed = [] := by
  have stored : sys.orders request.orderId = some order := own ▸ settled.1
  have fits := (h.orders request.orderId).fits id request served rfl
  rw [stored] at fits
  have unowed : ∀ line, line ∉ request.owed := by
    intro line member
    exact debtless id line ⟨request, served, own, member⟩
  have unreserved : order.status ≠ .reserved := by
    rcases settled.2 with status | status <;> simp [status]
  cases advances with
  | finishes => exact ⟨rfl, rfl, rfl⟩
  | givesUp row failures error phase =>
    obtain rfl : request = .restoring row [] failures error := phase
    exact ⟨rfl, rfl, List.eq_nil_iff_forall_not_mem.mpr unowed⟩
  | locksToConfirm row phase found _ reserved | locksToCancel row phase found _ reserved =>
    cases stored.symm.trans found
    exact absurd reserved unreserved
  -- an order under construction is not stored
  | builds _ _ _ phase | compensates _ _ _ _ _ _ _ phase =>
    have phase : request = _ := phase
    rw [phase] at fits
    cases fits
  | reserves _ _ _ _ _ phase | abandons _ _ _ _ phase | creates _ _ phase =>
    have phase : request = _ := phase
    rw [phase] at fits
    cases fits.1
  -- the holder of the lock found the order reserved
  | confirmFails row _ phase | confirms row phase | releases row _ _ _ _ phase
  | rollsBack row _ _ _ phase | cancels row _ phase =>
    have phase : request = _ := phase
    rw [phase] at fits
    have same : row = order := (Option.some.inj fits.1).symm
    exact absurd (same ▸ fits.2.1) unreserved
  | restores _ line _ _ _ _ phase | restoreFails _ line _ _ _ _ phase =>
    have phase : request = _ := phase
    rw [phase] at unowed
    exact absurd List.mem_cons_self (unowed line)

theorem Sound.settled_transition (h : Sound sys) (settled : sys.Settled order)
    (debtless : sys.NoDebt order.id) (transition : Transition sys action sys') :
    sys'.Settled order ∧ sys'.NoDebt order.id ∧
      sys'.inventory.history order.orderNumber.1 = sys.inventory.history order.orderNumber.1 := by
  have known := ((h.orders order.id).stored order settled.1).2.2
  have agreeing : Agrees sys sys' order.id → sys'.Settled order ∧ sys'.NoDebt order.id ∧
      sys'.inventory.history order.orderNumber.1 =
        sys.inventory.history order.orderNumber.1 := by
    intro agrees
    refine ⟨⟨agrees.orders.trans settled.1, settled.2⟩, agrees.noDebt debtless, ?_⟩
    rw [order.numbered]
    exact agrees.history known
  cases action with
  | create id orderId request =>
    obtain ⟨admissible, step⟩ := transition_cases transition
    obtain ⟨free, rfl⟩ := start_cases step
    have other : order.id ≠ (OrderRequest.building orderId request).orderId := by
      intro same
      rw [same] at known
      exact admissible.1 known
    exact agreeing (Agrees.start free other (by simp) rfl)
  | confirm id orderId =>
    obtain ⟨free, rfl⟩ := start_cases (transition_cases transition).2
    exact ⟨settled, fun holder line owes =>
      debtless holder line ((start_owes free rfl rfl _ holder line).mp owes), rfl⟩
  | cancel id orderId =>
    obtain ⟨free, rfl⟩ := start_cases (transition_cases transition).2
    exact ⟨settled, fun holder line owes =>
      debtless holder line ((start_owes free rfl rfl _ holder line).mp owes), rfl⟩
  | stock request draw now => exact agreeing (Agrees.stock transition order.id)
  | advance id event =>
    obtain ⟨request, session, served, advances, rfl⟩ := advance_cases transition
    have keepsOrder := h.session_orderId advances
    by_cases own : request.orderId = order.id
    · obtain ⟨row, inventory, owed⟩ := h.settled_advance settled debtless served own advances
      refine ⟨⟨?_, settled.2⟩, fun holder line owes => ?_, congrArg
        (fun inventory => Inventory.history inventory order.orderNumber.1) inventory⟩
      · rw [← own, put_orders, row, own]
        exact settled.1
      · rw [← own, put_owes session id holder line keepsOrder] at owes
        split at owes
        · simp [owed] at owes
        · exact debtless holder line (own ▸ owes)
    · exact agreeing (Agrees.put served advances keepsOrder (Ne.symm own))

theorem Sound.confirming (h : Sound sys) (transition : Transition sys action sys')
    (stored : sys'.orders order.id = some order) (confirmed : order.status = .confirmed)
    (new : sys.orders order.id ≠ some order) :
    sys.confirms action = some order.id := by
  cases action with
  | create id orderId request =>
    obtain ⟨-, rfl⟩ := start_cases (transition_cases transition).2
    exact absurd stored new
  | confirm id orderId =>
    obtain ⟨-, rfl⟩ := start_cases (transition_cases transition).2
    exact absurd stored new
  | cancel id orderId =>
    obtain ⟨-, rfl⟩ := start_cases (transition_cases transition).2
    exact absurd stored new
  | stock request draw now =>
    exact absurd ((Agrees.stock transition order.id).orders.symm.trans stored) new
  | advance id event =>
    obtain ⟨request, session, served, advances, rfl⟩ := advance_cases transition
    have own : request.orderId = order.id := by
      by_contra other
      refine new ((Agrees.put served advances (h.session_orderId advances) ?_).orders.symm.trans
        stored)
      exact Ne.symm other
    rw [← own, put_orders] at stored
    rw [← own] at new
    cases advances with
    | confirms row phase committed =>
      have phase : request = .confirmable row := phase
      cases committed
      simp only [System.confirms, served, phase]
      rw [← own, phase]
      rfl
    | creates row reserved phase =>
      cases stored
      cases confirmed
    | cancels row released phase =>
      cases stored
      cases confirmed
    | _ => exact absurd stored new

theorem confirms_cases {orderId : Uuid} (confirms : sys.confirms action = some orderId) :
    ∃ id order, action = .advance id (.commit (.ok ())) ∧ order.id = orderId ∧
      sys.requests id = some (.confirmable order) := by
  unfold System.confirms at confirms
  split at confirms
  · next id _ =>
    split at confirms
    · next order served =>
      cases confirms
      exact ⟨id, order, rfl, rfl, served⟩
    · cases confirms
  · cases confirms

theorem Sound.confirmed (h : Sound sys) {orderId : Uuid}
    (confirms : sys.confirms action = some orderId) (transition : Transition sys action sys') :
    sys'.inventory = sys.inventory ∧ (∀ id line, sys'.Owes orderId id line ↔
      sys.Owes orderId id line) ∧ ∃ order, order.id = orderId ∧
        sys.orders orderId = some order ∧ order.status = .reserved ∧
        sys'.orders orderId = some (order.withStatus .confirmed) := by
  obtain ⟨id, order, rfl, rfl, served⟩ := confirms_cases confirms
  have step := (transition_cases transition).2
  simp only [System.step, served] at step
  have result : sys' = sys.put id order.id
      ((sys.session (.confirmable order)).commitRow (order.withStatus .confirmed)) :=
    (Option.some.inj step).symm
  have fits := (h.orders order.id).fits id _ served rfl
  rw [result]
  refine ⟨rfl, fun holder line => ?_, order, rfl, fits.1, fits.2.1, put_orders ..⟩
  refine (put_owes _ id holder line rfl).trans ?_
  split
  · next same =>
    rw [same]
    exact (owes_served served line).symm
  · rfl

/-- What a run in which every confirmation is free of debts guarantees. -/
structure ConfirmedOwnStock (sys : System) : Prop where
  owns : ∀ order : Order, sys.orders order.id = some order → order.status = .confirmed →
    sys.OwnsLines order
  absorbing : ∀ order sys', sys.Settled order → Reached DebtFree sys sys' →
    sys'.orders order.id = some order ∧
      sys'.inventory.history order.orderNumber.1 = sys.inventory.history order.orderNumber.1
  covered : ∀ (orderId : Uuid) (key : BalanceKey),
    sys.inventory.releasedQuantity key (generateOrderNumber orderId).1 ≤
      sys.inventory.reservedQuantity key (generateOrderNumber orderId).1

/-- The reachable systems in which no settled order has a debt. -/
structure Calm (sys : System) : Prop extends Sound sys where
  debtless : ∀ order : Order, sys.Settled order → sys.NoDebt order.id

theorem Calm.transition (h : Calm sys) (step : DebtFree sys action sys') : Calm sys' where
  toSound := h.toSound.transition step.1
  debtless order settled := by
    by_cases before : sys.orders order.id = some order
    · exact (h.settled_transition ⟨before, settled.2⟩ (h.debtless order ⟨before, settled.2⟩)
        step.1).2.1
    · rcases settled.2 with confirmed | cancelled
      · have confirms := h.confirming step.1 settled.1 confirmed before
        obtain ⟨-, owes, -⟩ := h.toSound.confirmed confirms step.1
        intro id line
        rw [owes]
        exact step.2 order.id confirms id line
      · exact (h.toSound.transition step.1).cancelled_noDebt settled.1 cancelled

theorem Calm.initial (products : Uuid → Option Product) : Calm (initial products) where
  toSound := .initial products
  debtless order settled := by cases settled.1

theorem Calm.settled (h : Calm sys) (settled : sys.Settled order)
    (run : Reached DebtFree sys sys') : sys'.orders order.id = some order ∧
      sys'.inventory.history order.orderNumber.1 = sys.inventory.history order.orderNumber.1 := by
  have kept := @Reached.invariant _ _ _ _ _ (fun current => Calm current ∧ current.Settled order ∧
    current.inventory.history order.orderNumber.1 = sys.inventory.history order.orderNumber.1) run
    ⟨h, settled, rfl⟩ fun a action b inv step => by
      obtain ⟨calm, still, same⟩ := inv
      obtain ⟨still', -, same'⟩ := calm.settled_transition still (calm.debtless order still) step.1
      exact ⟨calm.transition step, still', same'.trans same⟩
  exact ⟨kept.2.1.1, kept.2.2⟩

theorem confirmed_orders_own_stock (products : Uuid → Option Product) :
    (∀ sys action sys' order, Reachable products sys → Transition sys action sys' →
      sys.confirms action = some order.id → sys'.orders order.id = some order →
      (sys'.OwnsLines order ↔ sys.NoDebt order.id)) ∧
    ∀ sys, Reached DebtFree (initial products) sys → ConfirmedOwnStock sys := by
  refine ⟨fun sys action sys' order reachable transition confirms stored => ?_, fun sys run => ?_⟩
  · have sound := reachable.sound
    obtain ⟨-, owes, row, own, -, -, after⟩ := sound.confirmed confirms transition
    have live : order.status ≠ .cancelled := by
      cases stored.symm.trans after
      simp
    rw [(sound.transition transition).ownsLines_iff stored live]
    exact forall₂_congr fun id line => not_congr (owes id line)
  · have calm : Calm sys := Reached.invariant run (.initial products)
      fun _ _ _ calm step => calm.transition step
    refine ⟨fun order stored confirmed => ?_, fun order sys' settled later =>
      calm.settled settled later, fun orderId key => ?_⟩
    · have live : order.status ≠ .cancelled := by simp [confirmed]
      exact (calm.ownsLines_iff stored live).mpr (calm.debtless order ⟨stored, .inl confirmed⟩)
    · have nonnegative := calm.accounted.reservations.nonnegative key (generateOrderNumber orderId).1
      have difference := sys.inventory.outstanding_eq_sub key (generateOrderNumber orderId).1
      rw [Inventory.outstanding] at difference
      omega

def everyProduct : Uuid → Option Product := fun _ => some ⟨5, true, five_nonneg⟩

def twoLines : OrderCreate where
  customerName := "Customer"
  customerEmail := "customer@example.com"
  warehouseId := 2
  items := [threeOfOne, ⟨4, 1, by decide⟩]
  nameLength := threeUnits.nameLength
  itemsLength := by decide
  distinctProducts := by decide

/-- Ten units of both products arrive, and an order of three and one is created. -/
def creatingRun : List OrderAction :=
  [.stock (.receipt tenUnits) ⟨1, 2, 3⟩ 0,
    .stock (.receipt { tenUnits with productId := 4 }) ⟨4, 5, 6⟩ 0,
    .create 1 9 twoLines,
    .advance 1 (.build (.ok true) (fun _ => .ok ⟨true, some 5⟩) (.ok ())),
    .advance 1 (.call (.delivered ⟨7, 8, 9⟩ 1)), .advance 1 (.call (.delivered ⟨10, 11, 12⟩ 1)),
    .advance 1 (.commit (.ok ())), .advance 1 .reload]

def unconfirming (sys : System) (action : OrderAction) : Option System :=
  if sys.confirms action = none then sys.transition action else none

theorem unconfirming_debtFree (step : sys.unconfirming action = some sys') :
    DebtFree sys action sys' := by
  rw [unconfirming] at step
  split at step
  · next none => exact ⟨step, by simp [none]⟩
  · cases step

def confirmingRun : List OrderAction := creatingRun ++ [.confirm 3 9, .advance 3 .load]

theorem confirmed_orders_own_stock_undisturbed : ∃ sys order,
    Reached DebtFree (initial everyProduct) sys ∧ sys.orders 9 = some order ∧
      order.status = .confirmed ∧ ConfirmedOwnStock sys := by
  have facts : (confirmingRun.foldlM unconfirming (initial everyProduct)).any (fun sys =>
        sys.confirms (.advance 3 (.commit (.ok ()))) == some 9 &&
        (sys.transition (.advance 3 (.commit (.ok ())))).any fun sys' =>
          (sys'.orders 9).any fun order => order.id == 9 && order.status == .confirmed &&
            decide (sys'.OwnsLines order)) = true := by
    decide +kernel
  simp only [Option.any_eq_true, Bool.and_eq_true, beq_iff_eq, decide_eq_true_eq] at facts
  obtain ⟨sys, found, confirms, sys', transition, order, stored, ⟨own, confirmed⟩, owns⟩ := facts
  obtain ⟨labels, run⟩ := Reached.of_foldlM found
  have quiet := run.mono fun _ _ _ step => unconfirming_debtFree step
  have law := confirmed_orders_own_stock everyProduct
  -- the lines are reserved, so nobody owes one
  have debtless := (law.1 sys _ sys' order ⟨labels, quiet.mono fun _ _ _ step => step.1⟩ transition
    (own ▸ confirms) (own ▸ stored)).mp owns
  have later : Reached DebtFree (initial everyProduct) sys' := by
    refine Reached.tail ⟨labels, quiet⟩ ⟨transition, fun orderId same => ?_⟩
    cases confirms.symm.trans same
    exact own ▸ debtless
  exact ⟨sys', order, later, stored, confirmed, law.2 sys' later⟩

/-- The second release of a cancellation is refused, and the confirmation locks the row
before the first line is reserved again. -/
def confirmingTooEarly : List OrderAction :=
  creatingRun ++ [.cancel 2 9, .advance 2 .load, .advance 2 (.call (.delivered ⟨13, 14, 15⟩ 2)),
    .advance 2 (.call (.refused "unavailable")), .confirm 3 9, .advance 3 .load]

theorem confirmed_order_without_stock :
    ¬ ∀ (products : Uuid → Option Product) (sys sys' : System) (action : OrderAction)
      (order : Order), Reachable products sys → Transition sys action sys' →
      sys.confirms action = some order.id → sys'.orders order.id = some order →
      sys'.OwnsLines order := by
  intro owns
  have facts : (confirmingTooEarly.foldlM transition (initial everyProduct)).any (fun sys =>
      sys.confirms (.advance 3 (.commit (.ok ()))) == some 9 &&
      (sys.transition (.advance 3 (.commit (.ok ())))).any fun sys' =>
        (sys'.orders 9).any fun order => order.id == 9 && !decide (sys'.OwnsLines order)) = true := by
    decide +kernel
  simp only [Option.any_eq_true, Bool.and_eq_true, beq_iff_eq, Bool.not_eq_true',
    decide_eq_false_iff_not] at facts
  obtain ⟨sys, run, confirms, sys', transition, order, stored, own, unowned⟩ := facts
  exact unowned (owns everyProduct sys sys' _ order (Reached.of_foldlM run) transition
    (own ▸ confirms) (own ▸ stored))

end System

end CareerProjects.Warehouse
