import CareerProjects.Warehouse.OrderOwnership
import CareerProjects.Warehouse.Products

/-! The Order Service and the Inventory Service together, without failures of the infrastructure. An
action is a step of an order request, a stock operation of another caller, or a request for a
product, in any order. An order that is not confirmed keeps its stock until a product of it is
deleted; a confirmed one, and one whose creation will not be committed, need it no longer. -/

namespace CareerProjects.Warehouse

open Library

def HttpAnswer.Arrives {α : Type} : HttpAnswer α → Prop
  | .unreachable | .failed _ => False
  | .notFound | .ok _ => True

/-- Every call is answered and every transaction is committed. -/
def OrderEvent.Undisturbed : OrderEvent → Prop
  | .build warehouse products flush =>
    warehouse.Arrives ∧ (∀ productId, (products productId).Arrives) ∧ flush = .ok ()
  | .call outcome => outcome.delivers
  | .commit result => result = .ok ()
  | .load | .conclude | .reload => True

def OrderAction.Undisturbed : OrderAction → Prop
  | .advance _ event => event.Undisturbed
  | _ => True

theorem OrderEvent.Undisturbed.known {event : OrderEvent} (h : event.Undisturbed) {outcome : CallOutcome}
    (same : event = .call outcome) : ¬ outcome.loses := by
  rw [same] at h
  cases outcome <;> first | exact h.elim | exact not_false

inductive ServiceAction
  | order (action : OrderAction) (undisturbed : action.Undisturbed)
  | createProduct (productData : ProductCreate) (draw : Uuid)
  | updateProduct (productId : Uuid) (productData : ProductUpdate)
  | deleteProduct (productId : Uuid)

def System.withInventory (sys : System) (inventory : Inventory) : System := { sys with inventory := inventory }

/-- The table of products beside what the system sees of it. `drawn` lists the identifiers that
products had so far. -/
structure Services where
  products : List ProductRow
  drawn : List Uuid
  system : System

namespace Services

def initial : Services := ⟨[], [], .initial fun _ => none⟩

def createProduct (services : Services) (productData : ProductCreate) (draw : Uuid) : Services :=
  match createProductEndpoint productData draw services.products with
  | .error _ => services
  | .ok row =>
    { products := row :: services.products
      drawn := draw :: services.drawn
      system := services.system.withInventory (services.system.inventory.putProduct row) }

def updateProduct (services : Services) (productId : Uuid) (productData : ProductUpdate) : Services :=
  match updateProductEndpoint productId productData services.products with
  | .error _ => services
  | .ok row =>
    { services with
      products := writeProduct services.products row
      system := services.system.withInventory (services.system.inventory.putProduct row) }

def deleteProduct (services : Services) (productId : Uuid) : Services :=
  match deleteProductEndpoint productId services.products with
  | .error _ => services
  | .ok _ =>
    { services with
      products := eraseProduct services.products productId
      system := services.system.withInventory (services.system.inventory.deleteProduct productId) }

def next (services : Services) : ServiceAction → Option Services
  | .order action _ => (services.system.transition action).map fun system => { services with system := system }
  | .createProduct productData draw =>
    -- `uuid4()` does not repeat itself
    if draw ∈ services.drawn then none else some (services.createProduct productData draw)
  | .updateProduct productId productData => some (services.updateProduct productId productData)
  | .deleteProduct productId => some (services.deleteProduct productId)

end Services

/-- The request has yet to look its order up, or has only its answer left. -/
def OrderRequest.Passive : OrderRequest → Prop
  | .confirming _ | .cancelling _ | .returning _ | .finished .. => True
  | _ => False

/-- The request is not the compensation of a cancellation. -/
def OrderRequest.Unfailed : OrderRequest → Prop
  | .restoring .. | .unrestored .. => False
  | _ => True

namespace OrderRequest

variable {request : OrderRequest} {id : RequestId} {row : Option Order} {lockedBy : Option RequestId}
  {owned : BalanceKey → Int}

theorem Passive.fits (h : request.Passive) : request.Fits id row lockedBy owned := by
  cases request <;> first | exact h.elim | trivial

theorem Passive.creates (h : request.Passive) : request.creates = false := by
  cases request <;> first | exact h.elim | rfl

theorem Fits.passive_of_confirmed {order : Order} (fits : request.Fits id (some order) lockedBy owned)
    (confirmed : order.status = .confirmed) (unfailed : request.Unfailed) : request.Passive := by
  cases request with
  | building | abandoning => cases fits
  | reserving => cases fits.1
  | confirmable row | releasing row =>
    have same : row = order := (Option.some.inj fits.1).symm
    have reserved := fits.2.1
    rw [same, confirmed] at reserved
    cases reserved
  | restoring | unrestored => exact unfailed.elim
  | _ => trivial

theorem Fits.passive_of_unstored (fits : request.Fits id none lockedBy owned)
    (creates : request.creates = false) (unfailed : request.Unfailed) : request.Passive := by
  cases request with
  | building | abandoning | reserving => cases creates
  | confirmable | releasing => cases fits.1
  | restoring | unrestored => exact unfailed.elim
  | _ => trivial

end OrderRequest

namespace System

variable {sys sys' : System} {orderId productId : Uuid} {id : RequestId} {request : OrderRequest}
  {order : Order} {line : ReservationLine} {action : OrderAction}

structure Confirmed (sys : System) (orderId : Uuid) : Prop where
  stored : ∃ order, sys.orders orderId = some order ∧ order.id = orderId ∧ order.status = .confirmed
  known : orderId ∈ sys.generated
  passive : ∀ id request, sys.requests id = some request → request.orderId = orderId → request.Passive

theorem OrderSound.confirmed (h : OrderSound sys orderId) (stored : sys.orders orderId = some order)
    (confirmed : order.status = .confirmed)
    (unfailed : ∀ id request, sys.requests id = some request → request.Unfailed) :
    Confirmed sys orderId where
  stored := ⟨order, stored, (h.stored order stored).1, confirmed⟩
  known := (h.stored order stored).2.2
  passive id request served own := by
    have fits := h.fits id request served own
    rw [stored] at fits
    exact fits.passive_of_confirmed confirmed (unfailed id request served)

theorem Confirmed.agrees (h : Confirmed sys orderId) (agrees : Agrees sys sys' orderId) :
    Confirmed sys' orderId where
  stored := by
    rw [agrees.orders]
    exact h.stored
  known := agrees.generated h.known
  passive id request served own := h.passive id request ((agrees.requests id request own).mp served) own

theorem Confirmed.start (h : Confirmed sys orderId) (passive : request.Passive)
    (same : sys' = { sys with
      requests := Function.update sys.requests id (some request), generated := sys'.generated })
    (generated : sys.generated ⊆ sys'.generated) : Confirmed sys' orderId where
  stored := by
    rw [same]
    exact h.stored
  known := generated h.known
  passive other request' found own := by
    rcases start_requests same found with ⟨-, rfl⟩ | before
    · exact passive
    · exact h.passive other request' before own

/-- Without a reserved order to lock, a request that writes nothing can only end. -/
theorem passive_advance (passive : request.Passive)
    (unreserved : ∀ order, sys.orders request.orderId = some order → order.status ≠ .reserved)
    {event : OrderEvent} {session : OrderSession}
    (advances : OrderSession.Advances id (sys.session request) event session) :
    session.row = sys.orders request.orderId ∧ session.request.Passive := by
  cases advances with
  | finishes => exact ⟨rfl, trivial⟩
  | locksToConfirm order _ stored _ reserved | locksToCancel order _ stored _ reserved =>
    exact absurd reserved (unreserved order stored)
  | builds _ _ _ phase | compensates _ _ _ _ _ _ _ phase | reserves _ _ _ _ _ phase
  | abandons _ _ _ _ phase | creates _ _ phase | confirmFails _ _ phase | confirms _ phase
  | releases _ _ _ _ _ phase | rollsBack _ _ _ _ phase | cancels _ _ phase
  | restores _ _ _ _ _ _ phase | restoreFails _ _ _ _ _ _ phase | givesUp _ _ _ phase =>
    have phase : request = _ := phase
    rw [phase] at passive
    exact passive.elim

theorem Confirmed.advance (h : Confirmed sys request.orderId) (served : sys.requests id = some request)
    {event : OrderEvent} {session : OrderSession}
    (advances : OrderSession.Advances id (sys.session request) event session) :
    Confirmed (sys.put id request.orderId session) request.orderId := by
  obtain ⟨order, stored, own, confirmed⟩ := h.stored
  have unreserved : ∀ row, sys.orders request.orderId = some row → row.status ≠ .reserved := by
    intro row found
    cases stored.symm.trans found
    simp [confirmed]
  obtain ⟨row, passive⟩ := passive_advance (h.passive id request served rfl) unreserved advances
  refine ⟨⟨order, ?_, own, confirmed⟩, h.known, fun other request' found mine => ?_⟩
  · rw [put_orders, row, stored]
  · rw [put_requests] at found
    split at found
    · cases found
      exact passive
    · exact h.passive other request' found mine

/-- An order that is not stored, and of whose requests one may have given up creating it. -/
theorem OrderSound.unstored (row : sys.orders orderId = none) (known : orderId ∈ sys.generated)
    (creator : RequestId)
    (others : ∀ id request, sys.requests id = some request → request.orderId = orderId →
      id ≠ creator → request.Passive)
    (own : ∀ request, sys.requests creator = some request → request.orderId = orderId →
      request.Passive ∨ ∃ order pending failures error,
        request = .abandoning order pending failures error) :
    OrderSound sys orderId where
  fits id request served mine := by
    by_cases creating : id = creator
    · rw [creating] at served
      rcases own request served mine with passive | ⟨order, pending, failures, error, rfl⟩
      · exact passive.fits
      · exact row
    · exact (others id request served mine creating).fits
  creator id id' request request' served served' mine mine' creates creates' := by
    have active : ∀ id request, sys.requests id = some request → request.orderId = orderId →
        request.creates = true → id = creator := by
      intro id request served mine creates
      by_contra other
      have passive := (others id request served mine other).creates
      simp [creates] at passive
    rw [active id request served mine creates, active id' request' served' mine' creates']
  created _ _ _ _ _ := known
  stored order found := by cases row.symm.trans found
  custody order found := by cases row.symm.trans found

theorem owned_deleteProduct (key : BalanceKey) :
    (sys.withInventory (sys.inventory.deleteProduct productId)).owned orderId key =
      if key.productId = productId then 0 else sys.owned orderId key :=
  Inventory.deleteProduct_outstanding

theorem OrderSound.deleteProduct (h : OrderSound sys orderId)
    (building : ∀ id order pending reserved, sys.requests id = some (.reserving order pending reserved) →
      order.id = orderId → ∀ line ∈ reserved, line.productId ≠ productId)
    (unowned : ∀ order, sys.orders orderId = some order → ∀ line ∈ order.lines,
      line.productId = productId → sys.owned orderId (order.key line) = 0) :
    OrderSound (sys.withInventory (sys.inventory.deleteProduct productId)) orderId where
  fits id request served own := by
    have fits := h.fits id request served own
    cases request with
    | reserving order pending reserved =>
      refine ⟨fits.1, fits.2.1, fun line member => ?_⟩
      have other : (order.key line).productId ≠ productId :=
        building id order pending reserved served own line member
      rw [owned_deleteProduct, if_neg other]
      exact fits.2.2 line member
    | _ => exact fits
  creator := h.creator
  created := h.created
  stored := h.stored
  custody order found := by
    obtain ⟨custody, keeps⟩ := h.custody order found
    have own := (h.stored order found).1
    refine ⟨custody, fun line member => ?_, keeps.spent, keeps.owes⟩
    have share := keeps.owned line member
    rw [owned_deleteProduct]
    split
    · next deleted =>
      rw [own, unowned order found line member deleted] at share
      exact share
    · exact share

theorem OrderSound.cancelled_owned (h : OrderSound sys orderId) (stored : sys.orders orderId = some order)
    (cancelled : order.status = .cancelled) (member : line ∈ order.lines) :
    sys.owned orderId (order.key line) = 0 := by
  obtain ⟨custody, keeps⟩ := h.custody order stored
  have share := keeps.owned line member
  rw [(keeps.spent line member).mpr cancelled] at share
  rw [← (h.stored order stored).1]
  exact share

theorem OrderSound.reserved_line (h : OrderSound sys orderId) (stored : sys.orders orderId = some order)
    (reserved : order.status = .reserved) (member : line ∈ order.lines)
    (unfailed : ∀ id request, sys.requests id = some request → request.Unfailed) :
    order.owned sys.inventory (order.key line) = line.quantity ∨
      ∃ id pending released, sys.requests id = some (.releasing order pending released) ∧
        sys.lockedBy orderId = some id ∧ line ∈ released := by
  obtain ⟨custody, keeps⟩ := h.custody order stored
  have share := keeps.owned line member
  rw [← sys.owned_eq] at share
  cases place : custody line with
  | inventory =>
    rw [place] at share
    exact .inl share
  | request id =>
    obtain ⟨request, served, own, owed⟩ := (keeps.owes line member id).mpr place
    rw [(h.stored order stored).1] at own
    have fits := h.fits id request served own
    cases request with
    | releasing row pending released =>
      rw [stored] at fits
      cases fits.1
      exact .inr ⟨id, pending, released, served, fits.2.2.1, owed⟩
    | restoring | unrestored => exact (unfailed id _ served).elim
    | _ => cases owed
  | spent =>
    have cancelled := (keeps.spent line member).mp place
    rw [reserved] at cancelled
    cases cancelled

theorem OrderSound.released_owned (h : OrderSound sys order.id) {pending released : List ReservationLine}
    (served : sys.requests id = some (.releasing order pending released)) (member : line ∈ released) :
    order.owned sys.inventory (order.key line) = 0 := by
  obtain ⟨stored, -, -, lines⟩ := h.fits id _ served rfl
  obtain ⟨custody, keeps⟩ := h.custody order stored
  have inside : line ∈ order.lines := by
    rw [lines]
    exact List.mem_append_left _ member
  have share := keeps.owned line inside
  rw [(keeps.owes line inside id).mp ⟨_, served, rfl, member⟩] at share
  rw [sys.owned_eq]
  exact share

theorem OrderSound.pending_owned (h : OrderSound sys order.id) {pending released : List ReservationLine}
    (served : sys.requests id = some (.releasing order pending released)) (member : line ∈ pending)
    (unfailed : ∀ id request, sys.requests id = some request → request.Unfailed) :
    order.owned sys.inventory (order.key line) = line.quantity := by
  obtain ⟨stored, reserved, locked, lines⟩ := h.fits id _ served rfl
  have inside : line ∈ order.lines := by
    rw [lines]
    exact List.mem_append_right _ member
  rcases h.reserved_line stored reserved inside unfailed with
    owned | ⟨other, pending', released', served', locked', early⟩
  · exact owned
  · -- the holder of the lock is the only cancellation, and its lines are distinct
    have same : other = id := Option.some.inj (locked'.symm.trans locked)
    rw [same, served] at served'
    cases served'
    have nodup : (released ++ pending).Nodup := lines ▸ order.lines_nodup.of_map _
    exact absurd member (List.disjoint_of_nodup_append nodup early)

theorem release_accepted (accounted : sys.inventory.Accounted)
    (owns : order.owned sys.inventory (order.key line) = line.quantity) (draw : Draw) (now : Time) :
    (clientReleaseStock order.warehouseId order.orderNumber line (.delivered draw now) sys.inventory).1 =
      .ok () := by
  have runs : ∀ draw now, (∃ result, (releaseStock (releaseRequest order.warehouseId
      order.orderNumber line)).run draw now sys.inventory = .ok result) ↔ True := by
    intro draw now
    rw [Inventory.releaseStock_runs, iff_true]
    exact Order.releasable accounted owns
  exact (@postStock_spec _ .stockRelease (.delivered draw now) _ _ runs).1.mpr ⟨trivial, trivial⟩

theorem releasing_unfailed {session session' : OrderSession} {event : OrderEvent}
    {pending released : List ReservationLine} (phase : session.request = .releasing order pending released)
    (undisturbed : event.Undisturbed)
    (accepted : ∀ line ∈ pending, ∀ draw now, (clientReleaseStock order.warehouseId order.orderNumber line
      (.delivered draw now) session.inventory).1 = .ok ())
    (step : session.advance id event = some session') : session'.request.Unfailed := by
  simp only [OrderSession.advance, phase] at step
  cases event with
  | call outcome =>
    cases outcome with
    | delivered draw now =>
      cases pending with
      | nil => simp [OrderSession.cancelOrder, phase] at step
      | cons line pending =>
        have ok := accepted line List.mem_cons_self draw now
        simp only [OrderSession.cancelOrder, phase] at step
        split at step
        · cases step
          trivial
        · next refused =>
          rw [refused] at ok
          cases ok
    | responseLost | refused | notDelivered => exact undisturbed.elim
  | commit result =>
    have committed : result = .ok () := undisturbed
    cases pending with
    | nil =>
      simp only [OrderSession.cancelOrder, phase, committed] at step
      cases step
      trivial
    | cons => simp [OrderSession.cancelOrder, phase] at step
  | build | load | conclude | reload => simp [OrderSession.cancelOrder, phase] at step

end System

end CareerProjects.Warehouse
