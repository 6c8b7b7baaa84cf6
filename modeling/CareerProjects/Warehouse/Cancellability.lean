import CareerProjects.Warehouse.Compensation
import CareerProjects.Warehouse.Services

/-! Reserved orders and their cancellation. Deleting a product takes the reservations of every order
along, and no endpoint asks the Order Service first. -/

namespace CareerProjects.Warehouse

open Library

namespace System

variable {sys sys' : System} {orderId productId : Uuid} {id : RequestId} {request : OrderRequest}
  {action : OrderAction}

def world (sys : System) : World := ⟨sys.orders, sys.inventory⟩

/-- The order can be cancelled: each line is outstanding, or was released by the cancellation that
is under way; a cancellation that finds the row free releases every line; and one that is
under way is not refused. -/
structure Cancellable (sys : System) (order : Order) : Prop where
  outstanding : ∀ line ∈ order.lines, order.owned sys.inventory (order.key line) = line.quantity ∨
    ∃ id pending released, sys.requests id = some (.releasing order pending released) ∧ line ∈ released
  cancels : sys.lockedBy order.id = none → ∀ environment : Environment, environment.Reliable →
    ∃ after, cancelOrder environment order.id sys.world = (.ok (order.withStatus .cancelled), after) ∧
      releases after.inventory order.orderNumber.1 = releases sys.inventory order.orderNumber.1 ++
        order.lines.map fun line => (order.key line, -line.quantity)
  continues : ∀ id line pending released,
    sys.requests id = some (.releasing order (line :: pending) released) → ∀ draw now,
      (clientReleaseStock order.warehouseId order.orderNumber line (.delivered draw now)
        sys.inventory).1 = .ok ()

theorem advance_found {event : OrderEvent} (h : Transition sys (.advance id event) sys') :
    ∃ request session, sys.requests id = some request ∧
      (sys.session request).advance id event = some session ∧ sys' = sys.put id request.orderId session := by
  have step := (transition_cases h).2
  simp only [System.step] at step
  split at step
  · cases step
  · next request served =>
    obtain ⟨session, advance, rfl⟩ := Option.map_eq_some_iff.mp step
    exact ⟨request, session, served, advance, rfl⟩

theorem transition_products (h : Transition sys action sys') :
    sys'.inventory.products = sys.inventory.products := by
  cases action with
  | create | confirm | cancel =>
    obtain ⟨-, rfl⟩ := start_cases (transition_cases h).2
    rfl
  | advance id event =>
    obtain ⟨request, session, -, advances, rfl⟩ := advance_cases h
    have ran : ∀ {operation : StockOperation} {draw now postings inventory},
        operation.run draw now sys.inventory = .ok (postings, inventory) →
          inventory.products = sys.inventory.products := by
      intro operation draw now postings inventory run
      obtain ⟨-, -, rfl⟩ := Inventory.run_ok.mp run
      exact Inventory.post_products ..
    rcases advances.moves with same | ⟨order, -, moves⟩
    · exact congrArg Inventory.products same
    · cases moves with
      | none same => exact congrArg Inventory.products same
      | reserves line h | releases line h =>
        obtain ⟨draw, now, postings, run⟩ := h
        exact ran run
  | stock request draw now =>
    have step := (transition_cases h).2
    simp only [System.step] at step
    split at step
    · cases step
      rfl
    · next postings inventory run =>
      cases step
      obtain ⟨-, -, rfl⟩ := Inventory.run_ok.mp run
      exact Inventory.post_products ..

theorem transition_accounted (accounted : sys.inventory.Accounted) (h : Transition sys action sys') :
    sys'.inventory.Accounted := by
  cases action with
  | create | confirm | cancel =>
    obtain ⟨-, rfl⟩ := start_cases (transition_cases h).2
    exact accounted
  | advance id event =>
    obtain ⟨request, session, -, advances, rfl⟩ := advance_cases h
    exact advances.accounted accounted
  | stock request draw now =>
    have step := (transition_cases h).2
    simp only [System.step] at step
    split at step
    · cases step
      exact accounted
    · next postings inventory run =>
      cases step
      exact Inventory.run_accounted accounted run

end System

namespace Services

variable {services services' : Services} {orderId productId : Uuid} {id : RequestId}
  {request : OrderRequest} {action : OrderAction} {sys' : System}

def Gone (services : Services) (productId : Uuid) : Prop :=
  services.system.inventory.products productId = none ∧ productId ∈ services.drawn

/-- The order is being created, and a product that was reserved for it is gone. -/
structure Spoiled (services : Services) (orderId : Uuid) : Prop where
  unstored : services.system.orders orderId = none
  known : orderId ∈ services.system.generated
  creating : ∃ id order pending reserved,
    services.system.requests id = some (.reserving order pending reserved) ∧ order.id = orderId ∧
      order.lines = reserved ++ pending ∧ (∃ line ∈ reserved, services.Gone line.productId) ∧
      ∀ other request, services.system.requests other = some request → request.orderId = orderId →
        other ≠ id → request.Passive

/-- The requests for the order and its row, in every state of a run. -/
inductive Standing (services : Services) (orderId : Uuid) : Prop
  | sound (h : System.OrderSound services.system orderId)
  | confirmed (h : System.Confirmed services.system orderId)
  | spoiled (h : services.Spoiled orderId)

theorem Spoiled.agrees (h : services.Spoiled orderId)
    (agrees : System.Agrees services.system services'.system orderId)
    (gone : ∀ productId, services.Gone productId → services'.Gone productId) :
    services'.Spoiled orderId where
  unstored := agrees.orders.trans h.unstored
  known := agrees.generated h.known
  creating := by
    obtain ⟨id, order, pending, reserved, served, own, lines, ⟨line, member, lost⟩, others⟩ := h.creating
    refine ⟨id, order, pending, reserved, (agrees.requests id (.reserving order pending reserved) own).mpr served, own,
      lines, ⟨line, member, gone _ lost⟩, fun other request found mine different => ?_⟩
    exact others other request ((agrees.requests other request mine).mp found) mine different

theorem Standing.agrees (h : services.Standing orderId)
    (agrees : System.Agrees services.system services'.system orderId)
    (gone : ∀ productId, services.Gone productId → services'.Gone productId) :
    services'.Standing orderId := by
  cases h with
  | sound h => exact .sound (agrees.sound h)
  | confirmed h => exact .confirmed (h.agrees agrees)
  | spoiled h => exact .spoiled (h.agrees agrees gone)

theorem Standing.stored (h : services.Standing orderId) {order : Order}
    (stored : services.system.orders orderId = some order) :
    order.id = orderId ∧ orderId ∈ services.system.generated := by
  cases h with
  | sound h => exact ⟨(h.stored order stored).1, (h.stored order stored).2.2⟩
  | confirmed h =>
    obtain ⟨row, found, own, -⟩ := h.stored
    cases found.symm.trans stored
    exact ⟨own, h.known⟩
  | spoiled h => cases h.unstored.symm.trans stored

theorem Spoiled.start (h : services.Spoiled orderId) (free : services.system.requests id = none)
    (passive : request.Passive)
    (same : sys' = { services.system with
      requests := Function.update services.system.requests id (some request)
      generated := sys'.generated })
    (generated : services.system.generated ⊆ sys'.generated) :
    Spoiled { services with system := sys' } orderId where
  unstored := by
    rw [same]
    exact h.unstored
  known := generated h.known
  creating := by
    obtain ⟨creator, order, pending, reserved, served, own, lines, ⟨line, member, lost⟩, others⟩ := h.creating
    have different : creator ≠ id := by
      rintro rfl
      simp [free] at served
    refine ⟨creator, order, pending, reserved, ?_, own, lines, ⟨line, member, ?_⟩,
      fun other request' found mine apart => ?_⟩
    · rw [same]
      exact (Function.update_of_ne different ..).trans served
    · rw [Gone, same]
      exact lost
    · rcases System.start_requests same found with ⟨-, rfl⟩ | before
      · exact passive
      · exact others other request' before mine apart

theorem Standing.start (h : services.Standing request.orderId)
    (free : services.system.requests id = none) (passive : request.Passive)
    (debtless : request.owed = [])
    (same : sys' = { services.system with
      requests := Function.update services.system.requests id (some request)
      generated := sys'.generated })
    (generated : services.system.generated ⊆ sys'.generated) :
    Standing { services with system := sys' } request.orderId := by
  cases h with
  | sound h =>
    exact .sound (h.start free generated same debtless passive.fits (by simp [passive.creates]))
  | confirmed h => exact .confirmed (h.start passive same generated)
  | spoiled h => exact .spoiled (h.start free passive same generated)

theorem Spoiled.advance_other (h : services.Spoiled request.orderId)
    (served : services.system.requests id = some request) (passive : request.Passive)
    {event : OrderEvent} {session : OrderSession}
    (advances : OrderSession.Advances id (services.system.session request) event session)
    (products : session.inventory.products = services.system.inventory.products) :
    Spoiled { services with system := services.system.put id request.orderId session } request.orderId := by
  obtain ⟨creator, order, pending, reserved, creating, own, lines, ⟨line, member, lost⟩, others⟩ := h.creating
  have unreserved : ∀ row, services.system.orders request.orderId = some row → row.status ≠ .reserved := by
    simp [h.unstored]
  obtain ⟨row, ended⟩ := System.passive_advance passive unreserved advances
  have different : creator ≠ id := by
    rintro rfl
    cases served.symm.trans creating
    exact passive
  refine ⟨(System.put_orders ..).trans (row.trans h.unstored), h.known, creator, order, pending, reserved, ?_,
    own, lines, ⟨line, member, (congrFun products _).trans lost.1, lost.2⟩,
    fun other request' found mine apart => ?_⟩
  · rw [System.put_requests, if_neg different, creating]
  · rw [System.put_requests] at found
    split at found
    · cases found
      exact ended
    · exact others other request' found mine apart

theorem Spoiled.advance_creator {order : Order} {pending reserved : List ReservationLine}
    (h : services.Spoiled order.id)
    (served : services.system.requests id = some (.reserving order pending reserved))
    (lines : order.lines = reserved ++ pending) (gone : ∃ line ∈ reserved, services.Gone line.productId)
    (others : ∀ other request, services.system.requests other = some request →
      request.orderId = order.id → other ≠ id → request.Passive)
    {event : OrderEvent} {session : OrderSession}
    (advances : OrderSession.Advances id (services.system.session (.reserving order pending reserved)) event session)
    (careful : pending = [] →
      ∀ line ∈ order.lines, (services.system.inventory.products line.productId).isSome)
    (products : session.inventory.products = services.system.inventory.products) :
    Standing { services with system := services.system.put id order.id session } order.id := by
  have apart : ∀ other request, (services.system.put id order.id session).requests other = some request →
      request.orderId = order.id → other ≠ id → request.Passive := by
    intro other request found mine different
    rw [System.put_requests, if_neg different] at found
    exact others other request found mine different
  have ends : session.row = none → (session.request.Passive ∨ ∃ order pending failures error,
      session.request = .abandoning order pending failures error) →
      Standing { services with system := services.system.put id order.id session } order.id := by
    intro row given
    refine .sound (System.OrderSound.unstored ((System.put_orders ..).trans row) h.known id apart
      fun request found _ => ?_)
    rw [System.put_requests, if_pos rfl] at found
    cases found
    exact given
  obtain ⟨line, member, lost⟩ := gone
  cases advances with
  | finishes => exact ends h.unstored (.inl trivial)
  | abandons row pending' reserved' error phase => exact ends h.unstored (.inr ⟨_, _, _, _, rfl⟩)
  | reserves row next pending' reserved' inventory phase reserves =>
    cases phase
    refine .spoiled ⟨(System.put_orders ..).trans h.unstored, h.known,
      id, order, pending', reserved ++ [next], ?_, rfl, by simp [lines],
      ⟨line, List.mem_append_left _ member, (congrFun products _).trans lost.1, lost.2⟩, apart⟩
    rw [System.put_requests, if_pos rfl]
  | creates row reserved' phase =>
    cases phase
    have inside : line ∈ order.lines := by
      rw [lines]
      exact List.mem_append_left _ member
    have present := careful rfl line inside
    rw [lost.1] at present
    cases present
  | builds _ _ _ phase | compensates _ _ _ _ _ _ _ phase | confirmFails _ _ phase | confirms _ phase
  | releases _ _ _ _ _ phase | rollsBack _ _ _ _ phase | cancels _ _ phase | locksToConfirm _ phase
  | locksToCancel _ phase | restores _ _ _ _ _ _ phase | restoreFails _ _ _ _ _ _ phase
  | givesUp _ _ _ phase => cases phase

theorem Standing.advance (h : services.Standing request.orderId)
    (served : services.system.requests id = some request) (accounted : services.system.inventory.Accounted)
    {event : OrderEvent} {session : OrderSession}
    (advances : OrderSession.Advances id (services.system.session request) event session)
    (careful : ∀ order reserved, request = .reserving order [] reserved →
      ∀ line ∈ order.lines, (services.system.inventory.products line.productId).isSome)
    (products : session.inventory.products = services.system.inventory.products) :
    Standing { services with system := services.system.put id request.orderId session } request.orderId := by
  cases h with
  | sound h => exact .sound (h.advance served accounted advances)
  | confirmed h => exact .confirmed (h.advance served advances)
  | spoiled h =>
    obtain ⟨creator, order, pending, reserved, creating, own, lines, gone, others⟩ := h.creating
    by_cases mine : id = creator
    · subst mine
      obtain rfl : request = .reserving order pending reserved := Option.some.inj (served.symm.trans creating)
      exact h.advance_creator served lines gone others advances
        (fun done => careful order reserved (by rw [done])) products
    · exact .spoiled (h.advance_other served (others id request served rfl mine) advances products)

def ReservedCancellable (services : Services) : Prop :=
  ∀ orderId order, services.system.orders orderId = some order → order.status = .reserved →
    services.system.Cancellable order

/-- No product is deleted of which a reserved order has an outstanding line, and no order is stored
of which a product was deleted meanwhile. -/
def Careful (services : Services) : ServiceAction → Prop
  | .deleteProduct productId => ∀ orderId order, services.system.orders orderId = some order →
      order.status = .reserved → ∀ line ∈ order.lines, line.productId = productId →
        order.owned services.system.inventory (order.key line) = 0
  -- a creation with no line left has its commit to do
  | .order (.advance id _) _ => ∀ order reserved,
      services.system.requests id = some (.reserving order [] reserved) →
        ∀ line ∈ order.lines, (services.system.inventory.products line.productId).isSome
  | _ => True

structure Steady (services : Services) : Prop where
  accounted : services.system.inventory.Accounted
  priced : ∀ productId, services.system.inventory.products productId =
    (getProductById services.products productId).map ProductRow.product
  drawn : ∀ productId, (services.system.inventory.products productId).isSome → productId ∈ services.drawn
  unfailed : ∀ id request, services.system.requests id = some request → request.Unfailed
  standing : ∀ orderId, services.Standing orderId

namespace Steady

theorem initial : Steady initial where
  accounted := (Inventory.Sound.empty _).toAccounted
  priced _ := rfl
  drawn productId present := by cases present
  unfailed id request served := by cases served
  standing orderId := .sound ((System.Sound.initial _).orders orderId)

variable {order : Order} {line : ReservationLine}

theorem sound_of_releasing (h : services.Steady) {pending released : List ReservationLine}
    (served : services.system.requests id = some (.releasing order pending released)) :
    System.OrderSound services.system order.id := by
  cases h.standing order.id with
  | sound h => exact h
  | confirmed h => exact (h.passive id _ served rfl).elim
  | spoiled h =>
    obtain ⟨creator, row, left, taken, creating, -, -, -, others⟩ := h.creating
    have different : id ≠ creator := by
      intro same
      rw [same] at served
      cases served.symm.trans creating
    exact (others id _ served rfl different).elim

theorem sound_of_reserved (h : services.Steady) (stored : services.system.orders orderId = some order)
    (reserved : order.status = .reserved) : System.OrderSound services.system orderId := by
  cases h.standing orderId with
  | sound h => exact h
  | confirmed h =>
    obtain ⟨row, found, -, confirmed⟩ := h.stored
    cases found.symm.trans stored
    cases reserved.symm.trans confirmed
  | spoiled h => cases h.unstored.symm.trans stored

theorem accepts (h : services.Steady) {pending released : List ReservationLine}
    (served : services.system.requests id = some (.releasing order pending released))
    (member : line ∈ pending) (draw : Draw) (now : Time) :
    (clientReleaseStock order.warehouseId order.orderNumber line (.delivered draw now)
      services.system.inventory).1 = .ok () :=
  System.release_accepted h.accounted ((h.sound_of_releasing served).pending_owned served member h.unfailed)
    draw now

theorem reservedCancellable (h : services.Steady) : services.ReservedCancellable := by
  intro orderId order stored reserved
  have sound := h.sound_of_reserved stored reserved
  obtain rfl : order.id = orderId := (sound.stored order stored).1
  have lines := fun line member => @System.OrderSound.reserved_line _ _ order line sound stored reserved member
    h.unfailed
  refine ⟨fun line member => ?_, fun free environment reliable => ?_, fun id line pending released served =>
    h.accepts served List.mem_cons_self⟩
  · rcases lines line member with owned | ⟨id, pending, released, served, -, early⟩
    · exact .inl owned
    · exact .inr ⟨id, pending, released, served, early⟩
  · have owns : ∀ line ∈ order.lines,
        order.owned services.system.world.inventory (order.key line) = line.quantity := by
      intro line member
      rcases lines line member with owned | ⟨id, -, -, -, locked, -⟩
      · exact owned
      · cases free.symm.trans locked
    have kept : ¬ LostRelease environment order := by
      rintro ⟨-, item, -, -, -, undelivered, -⟩
      exact undelivered (reliable.1 item.2)
    have consistent := (@cancelOrder_consistent order services.system.world h.accounted owns environment
      stored reserved).mpr kept
    obtain ⟨cancelled, after, answer, -⟩ := @cancelOrder_reliable order services.system.world h.accounted owns
      stored reserved environment reliable
    rw [answer] at consistent
    obtain ⟨rfl, -, history⟩ := consistent
    exact ⟨after, answer, history⟩

theorem advance_unfailed (h : services.Steady) (served : services.system.requests id = some request)
    {event : OrderEvent} (undisturbed : event.Undisturbed) {session : OrderSession}
    (step : (services.system.session request).advance id event = some session) : session.request.Unfailed := by
  have unfailed := h.unfailed id request served
  have advances := OrderSession.advance_cases (fun outcome same => undisturbed.known same) step
  cases advances with
  | rollsBack order pending released error phase =>
    obtain rfl : request = .releasing order pending released := phase
    exact System.releasing_unfailed rfl undisturbed
      (fun line member draw now => h.accepts served member draw now) step
  | restores _ _ _ _ _ _ phase | restoreFails _ _ _ _ _ _ phase | givesUp _ _ _ phase =>
    have phase : request = _ := phase
    rw [phase] at unfailed
    exact unfailed.elim
  | _ => trivial

theorem transition (h : services.Steady) (undisturbed : action.Undisturbed)
    (step : System.Transition services.system action sys')
    (careful : services.Careful (.order action undisturbed)) : Steady { services with system := sys' } := by
  have products := System.transition_products step
  have gone : ∀ productId, services.Gone productId → Gone { services with system := sys' } productId :=
    fun productId lost => ⟨(congrFun products productId).trans lost.1, lost.2⟩
  have agreeing : ∀ orderId, System.Agrees services.system sys' orderId →
      Standing { services with system := sys' } orderId :=
    fun orderId agrees => (h.standing orderId).agrees agrees gone
  have starts : ∀ id request, services.system.start id request = some sys' → request.Passive →
      request.owed = [] → (∀ other request', sys'.requests other = some request' → request'.Unfailed) ∧
        ∀ orderId, Standing { services with system := sys' } orderId := by
    intro id request start passive debtless
    obtain ⟨free, rfl⟩ := System.start_cases start
    have unfailed : request.Unfailed := by
      cases request <;> first | exact passive.elim | trivial
    refine ⟨fun other request' found => ?_, fun orderId => ?_⟩
    · rcases System.start_requests rfl found with ⟨-, rfl⟩ | before
      · exact unfailed
      · exact h.unfailed other request' before
    · by_cases own : orderId = request.orderId
      · rw [own]
        exact (h.standing _).start free passive debtless rfl (by simp)
      · exact agreeing orderId (System.Agrees.start free own (by simp) rfl)
  have rest : (∀ id request, sys'.requests id = some request → request.Unfailed) ∧
      ∀ orderId, Standing { services with system := sys' } orderId := by
    cases action with
    | create id newId request =>
      obtain ⟨admissible, start⟩ := System.transition_cases step
      obtain ⟨free, rfl⟩ := System.start_cases start
      refine ⟨fun other request' found => ?_, fun orderId => ?_⟩
      · rcases System.start_requests rfl found with ⟨-, rfl⟩ | before
        · trivial
        · exact h.unfailed other request' before
      · by_cases own : orderId = newId
        · subst own
          have unstored : services.system.orders orderId = none := by
            by_contra stored
            obtain ⟨order, found⟩ := Option.ne_none_iff_exists'.mp stored
            exact admissible.1 ((h.standing orderId).stored found).2
          cases h.standing orderId with
          | sound sound =>
            exact .sound (@System.OrderSound.start services.system _ id (.building orderId request) sound free
              (by simp) rfl rfl unstored fun _ => ⟨admissible.1, by simp [OrderRequest.orderId]⟩)
          | confirmed confirmed => exact absurd confirmed.known admissible.1
          | spoiled spoiled => exact absurd spoiled.known admissible.1
        · have other : orderId ≠ (OrderRequest.building newId request).orderId := own
          exact agreeing orderId (System.Agrees.start free other (by simp) rfl)
    | confirm id orderId => exact starts id _ (System.transition_cases step).2 trivial rfl
    | cancel id orderId => exact starts id _ (System.transition_cases step).2 trivial rfl
    | stock request draw now =>
      refine ⟨fun id request' found => ?_, fun orderId => agreeing orderId (System.Agrees.stock step orderId)⟩
      exact h.unfailed id request' ((System.Agrees.stock step request'.orderId).requests id request' rfl |>.mp found)
    | advance id event =>
      obtain ⟨request, session, served, advance, rfl⟩ := System.advance_found step
      have advances := OrderSession.advance_cases (fun outcome same => undisturbed.known same) advance
      have ready : ∀ order reserved, request = .reserving order [] reserved →
          ∀ line ∈ order.lines, (services.system.inventory.products line.productId).isSome :=
        fun order reserved phase => careful order reserved (phase ▸ served)
      refine ⟨fun other request' found => ?_, fun orderId => ?_⟩
      · rw [System.put_requests] at found
        split at found
        · cases found
          exact h.advance_unfailed served undisturbed advance
        · exact h.unfailed other request' found
      · by_cases own : orderId = request.orderId
        · rw [own]
          exact (h.standing _).advance served h.accounted advances ready products
        · have mine := advances.orderId fun order found => ((h.standing request.orderId).stored found).1
          exact agreeing orderId (System.Agrees.put served advances mine own)
  refine ⟨System.transition_accounted h.accounted step, fun productId => ?_, fun productId present => ?_,
    rest.1, rest.2⟩
  · exact (congrFun products productId).trans (h.priced productId)
  · rw [congrFun products productId] at present
    exact h.drawn productId present

theorem put_agrees (row : ProductRow) (orderId : Uuid) : System.Agrees services.system
    (services.system.withInventory (services.system.inventory.putProduct row)) orderId where
  orders := rfl
  lockedBy := rfl
  requests _ _ _ := .rfl
  history _ := rfl
  generated known := known

theorem createProduct (h : services.Steady) {productData : ProductCreate} {draw : Uuid}
    (fresh : draw ∉ services.drawn) : (services.createProduct productData draw).Steady := by
  rw [Services.createProduct]
  split
  · exact h
  · next row created =>
    have own := (createProductEndpoint_ok created).1
    refine ⟨h.accounted.putProduct, fun productId => ?_, fun productId present => ?_, h.unfailed, fun orderId =>
      (h.standing orderId).agrees (put_agrees row orderId) fun productId lost => ⟨?_, List.mem_cons_of_mem _ lost.2⟩⟩
    · simp only [System.withInventory, Inventory.putProduct, Function.update_apply, getProductById_cons]
      by_cases same : productId = row.id
      · simp [same]
      · simp [same, Ne.symm same, h.priced productId]
    · simp only [System.withInventory, Inventory.putProduct, Function.update_apply] at present
      by_cases same : productId = row.id
      · simp [same, own]
      · rw [if_neg same] at present
        exact List.mem_cons_of_mem _ (h.drawn productId present)
    · have different : productId ≠ row.id := by
        rw [own]
        rintro rfl
        exact fresh lost.2
      exact (Function.update_of_ne different ..).trans lost.1

theorem updateProduct (h : services.Steady) {productId : Uuid} {productData : ProductUpdate} :
    (services.updateProduct productId productData).Steady := by
  rw [Services.updateProduct]
  split
  · exact h
  · next row updated =>
    obtain ⟨own, found⟩ := updateProductEndpoint_ok updated
    have present : (services.system.inventory.products row.id).isSome := by
      rw [own, h.priced, Option.isSome_map]
      exact found
    refine ⟨h.accounted.putProduct, fun other => ?_, fun other known => ?_, h.unfailed, fun orderId =>
      (h.standing orderId).agrees (put_agrees row orderId) fun other lost => ⟨?_, lost.2⟩⟩
    · simp only [System.withInventory, Inventory.putProduct, Function.update_apply, getProductById_write]
      by_cases same : other = row.id
      · rw [own] at same ⊢
        obtain ⟨product, stored⟩ := Option.isSome_iff_exists.mp found
        simp [same, stored, getProductById_id stored]
      · rw [if_neg same, h.priced other]
        cases stored : getProductById services.products other with
        | none => rfl
        | some product => simp [getProductById_id stored, same]
    · simp only [System.withInventory, Inventory.putProduct, Function.update_apply] at known
      by_cases same : other = row.id
      · rw [same]
        exact h.drawn row.id present
      · rw [if_neg same] at known
        exact h.drawn other known
    · have different : other ≠ row.id := by
        rintro rfl
        simp [lost.1] at present
      exact (Function.update_of_ne different ..).trans lost.1

theorem spoiled (h : services.Steady) (sound : System.OrderSound services.system order.id)
    (unstored : services.system.orders order.id = none) {pending reserved : List ReservationLine}
    (served : services.system.requests id = some (.reserving order pending reserved))
    (member : line ∈ reserved) (lost : services'.Gone line.productId)
    (orders : services'.system.orders = services.system.orders)
    (requests : services'.system.requests = services.system.requests)
    (generated : services'.system.generated = services.system.generated) : services'.Spoiled order.id where
  unstored := by rw [orders, unstored]
  known := by
    rw [generated]
    exact sound.created id _ served rfl rfl
  creating := by
    refine ⟨id, order, pending, reserved, by rw [requests, served], rfl, (sound.fits id _ served rfl).2.1,
      ⟨line, member, lost⟩, fun other request found own different => ?_⟩
    rw [requests] at found
    have fits := sound.fits other request found own
    rw [unstored] at fits
    refine fits.passive_of_unstored ?_ (h.unfailed other request found)
    by_contra creates
    exact different (sound.creator other id request _ found served own rfl (by simpa using creates) rfl)

theorem deleteProduct (h : services.Steady) (careful : services.Careful (.deleteProduct productId)) :
    (services.deleteProduct productId).Steady := by
  rw [Services.deleteProduct]
  split
  · exact h
  · next row deleted =>
    have known : productId ∈ services.drawn := by
      refine h.drawn productId ?_
      rw [h.priced, getProductOr404_ok deleted]
      rfl
    refine ⟨h.accounted.deleteProduct, fun other => ?_, fun other present => ?_, h.unfailed, fun orderId => ?_⟩
    · simp only [System.withInventory, Inventory.deleteProduct, Function.update_apply, getProductById_erase]
      by_cases same : other = productId
      · simp [same]
      · simp [same, h.priced other]
    · simp only [System.withInventory, Inventory.deleteProduct, Function.update_apply] at present
      by_cases same : other = productId
      · rw [same]
        exact known
      · rw [if_neg same] at present
        exact h.drawn other present
    · have gone : ∀ other, services.Gone other →
          (services.system.inventory.deleteProduct productId).products other = none := by
        intro other lost
        simp only [Inventory.deleteProduct, Function.update_apply, lost.1, ite_self]
      cases h.standing orderId with
      | confirmed confirmed => exact .confirmed ⟨confirmed.stored, confirmed.known, confirmed.passive⟩
      | spoiled spoiled =>
        obtain ⟨id, order, pending, reserved, served, own, lines, ⟨line, member, lost⟩, others⟩ := spoiled.creating
        exact .spoiled ⟨spoiled.unstored, spoiled.known, id, order, pending, reserved, served, own, lines,
          ⟨line, member, gone _ lost, lost.2⟩, others⟩
      | sound sound =>
        cases stored : services.system.orders orderId with
        | none =>
          by_cases spoils : ∃ id order pending reserved,
              services.system.requests id = some (.reserving order pending reserved) ∧ order.id = orderId ∧
                ∃ line ∈ reserved, line.productId = productId
          · obtain ⟨id, order, pending, reserved, served, rfl, line, member, same⟩ := spoils
            refine .spoiled (h.spoiled sound stored served member ⟨?_, same ▸ known⟩ rfl rfl rfl)
            rw [same]
            exact Function.update_self ..
          · refine .sound (sound.deleteProduct (fun id order pending reserved served own line member same => ?_)
              (by simp [stored]))
            exact spoils ⟨id, order, pending, reserved, served, own, line, member, same⟩
        | some order =>
          have building : ∀ id row pending taken,
              services.system.requests id = some (.reserving row pending taken) → row.id = orderId →
                ∀ line ∈ taken, line.productId ≠ productId := by
            intro id row pending taken served own
            have fits := sound.fits id _ served own
            cases stored.symm.trans fits.1
          have own := (sound.stored order stored).1
          cases status : order.status with
          | pending => exact absurd status (sound.stored order stored).2.1
          | reserved =>
            refine .sound (sound.deleteProduct building fun row found line member same => ?_)
            cases stored.symm.trans found
            rw [← own, ← System.owned_eq]
            exact careful orderId order stored status line member same
          | confirmed =>
            have confirmed := sound.confirmed stored status h.unfailed
            exact .confirmed ⟨confirmed.stored, confirmed.known, confirmed.passive⟩
          | cancelled =>
            refine .sound (sound.deleteProduct building fun row found line member _ => ?_)
            cases stored.symm.trans found
            exact sound.cancelled_owned stored status member

theorem next (h : services.Steady) {action : ServiceAction} (step : services.next action = some services')
    (careful : services.Careful action) : services'.Steady := by
  cases action with
  | order action undisturbed =>
    obtain ⟨sys', transition, rfl⟩ := Option.map_eq_some_iff.mp step
    exact h.transition undisturbed transition careful
  | createProduct productData draw =>
    simp only [Services.next] at step
    split at step
    · cases step
    · next fresh =>
      cases step
      exact h.createProduct fresh
  | updateProduct productId productData =>
    cases step
    exact h.updateProduct
  | deleteProduct productId =>
    cases step
    exact h.deleteProduct careful

theorem stores_reserved (undisturbed : action.Undisturbed) {reserved : List ReservationLine}
    (served : services.system.requests id = some (.reserving order [] reserved)) {event : OrderEvent}
    (same : action = .advance id event) (step : System.Transition services.system action sys') :
    sys'.orders order.id = some (order.withStatus .reserved) ∧
      sys'.inventory = services.system.inventory ∧
      sys'.requests = Function.update services.system.requests id (some (.returning order.id)) := by
  rw [same] at step undisturbed
  obtain ⟨request, session, served', advance, rfl⟩ := System.advance_found step
  cases served.symm.trans served'
  simp only [OrderSession.advance, System.session] at advance
  cases event with
  | commit result =>
    have committed : result = .ok () := undisturbed
    simp only [OrderSession.createOrder, committed] at advance
    cases advance
    exact ⟨System.put_orders .., rfl, rfl⟩
  | build | load | call | conclude | reload => simp [OrderSession.createOrder] at advance

theorem broken (h : services.Steady) {action : ServiceAction} (step : services.next action = some services')
    (careless : ¬ services.Careful action) : ¬ services'.ReservedCancellable := by
  intro cancellable
  cases action with
  | createProduct | updateProduct => exact careless trivial
  | deleteProduct productId =>
    simp only [Careful, not_forall] at careless
    obtain ⟨orderId, order, stored, reserved, line, member, same, owned⟩ := careless
    have sound := h.sound_of_reserved stored reserved
    have found : getProductById services.products productId ≠ none := by
      intro missing
      refine owned (h.accounted.outstanding_missing ?_)
      rw [Order.key, same, h.priced, missing]
      rfl
    obtain ⟨row, found⟩ := Option.ne_none_iff_exists'.mp found
    have result : services' = { services with
        products := eraseProduct services.products productId
        system := services.system.withInventory (services.system.inventory.deleteProduct productId) } := by
      simp only [Services.next, Services.deleteProduct, deleteProductEndpoint, getProductOr404, found] at step
      exact (Option.some.inj step).symm
    rw [result] at cancellable
    rcases (cancellable orderId order stored reserved).outstanding line member with
      owns | ⟨id, pending, released, served, early⟩
    · have erased : order.owned (services.system.inventory.deleteProduct productId) (order.key line) = 0 :=
        Inventory.deleteProduct_outstanding.trans (if_pos same)
      have positive := line.quantityPositive
      have kept : order.owned (services.system.inventory.deleteProduct productId) (order.key line) =
        line.quantity := owns
      omega
    · exact owned ((h.sound_of_releasing served).released_owned served early)
  | order action undisturbed =>
    cases action with
    | create | confirm | cancel | stock => exact careless trivial
    | advance id event =>
      simp only [Careful, not_forall] at careless
      obtain ⟨order, reserved, served, line, member, missing⟩ := careless
      obtain ⟨sys', transition, rfl⟩ := Option.map_eq_some_iff.mp step
      obtain ⟨stored, inventory, requests⟩ := stores_reserved undisturbed served rfl transition
      have gone : services.system.inventory.products line.productId = none := by simpa using missing
      rcases (cancellable order.id _ stored rfl).outstanding line member with
        owns | ⟨other, pending, released, served', early⟩
      · have absent : order.owned services.system.inventory (order.key line) = 0 :=
          h.accounted.outstanding_missing gone
        have kept : order.owned sys'.inventory (order.key line) = line.quantity := owns
        have positive := line.quantityPositive
        rw [inventory] at kept
        omega
      · -- the creation was the only request that wrote
        simp only [requests, Function.update_apply] at served'
        split at served'
        · cases served'
        · have row := (h.sound_of_releasing served').fits other _ served' rfl
          have unstored : services.system.orders order.id = none := by
            cases h.standing order.id with
            | sound sound => exact (sound.fits id _ served rfl).1
            | confirmed confirmed => exact (confirmed.passive id _ served rfl).elim
            | spoiled spoiled => exact spoiled.unstored
          cases unstored.symm.trans row.1

end Steady

/-- In a run of the two services every reserved order can be cancelled at any time, exactly if every step
of it is careful. -/
theorem reserved_orders_cancellable {labels : List ServiceAction}
    (run : Run (fun before action after => next before action = some after) initial labels services) :
    (∀ before later middle, labels = before ++ later →
        Run (fun before action after => next before action = some after) initial before middle →
          middle.ReservedCancellable) ↔
      Run (fun before action after => next before action = some after ∧ before.Careful action)
        initial labels services :=
  Run.guarded_iff Steady.initial (fun _ _ _ steady step careful => steady.next step careful)
    (fun _ steady => steady.reservedCancellable) (fun _ _ _ steady step careless => steady.broken step careless) run

def widget : ProductCreate where
  sku := "WIDGET-1"
  name := "Widget"
  unitPrice := ⟨5, five_nonneg⟩

/-- Ten units of a new product arrive, three of them are reserved for an order, and the product is
deleted. -/
def deletingRun : List ServiceAction :=
  [.createProduct widget 1,
    .order (.stock (.receipt stockReceipt) ⟨1, 2, 3⟩ 0) trivial,
    .order (.create 1 9 threeUnits) trivial,
    .order (.advance 1 (.build (.ok true) (fun _ => .ok ⟨true, some 5⟩) (.ok ()))) ⟨trivial, fun _ => trivial, rfl⟩,
    .order (.advance 1 (.call (.delivered ⟨7, 8, 9⟩ 1))) trivial,
    .order (.advance 1 (.commit (.ok ()))) rfl,
    .order (.advance 1 .reload) trivial,
    .deleteProduct 1]

/-- Every call of the cancellation arrives, and its commit succeeds. -/
def cancelling : Environment := answering (.delivered ⟨10, 11, 12⟩ 2) (.delivered ⟨10, 11, 12⟩ 2)

theorem deletingRun_strands : ∃ services, deletingRun.foldlM next initial = some services ∧
    ¬ services.ReservedCancellable := by
  have facts : (deletingRun.foldlM next initial).any (fun services =>
      services.system.lockedBy 9 == none && (services.system.orders 9).any fun order =>
        order.id == 9 && order.status == .reserved &&
          !(cancelOrder cancelling order.id services.system.world).1.isOk) = true := by
    decide +kernel
  simp only [Option.any_eq_true, Bool.and_eq_true, beq_iff_eq, Bool.not_eq_true'] at facts
  obtain ⟨services, reached, free, order, stored, ⟨own, reserved⟩, fails⟩ := facts
  refine ⟨services, reached, fun cancellable => ?_⟩
  have reliable : cancelling.Reliable := ⟨fun _ => trivial, rfl⟩
  obtain ⟨after, cancelled, -⟩ := (cancellable 9 order stored reserved).cancels (own ▸ free) cancelling reliable
  rw [cancelled] at fails
  cases fails

theorem reserved_order_not_cancellable :
    ¬ ∀ services, Reached (fun before action after => next before action = some after) initial services →
      services.ReservedCancellable := by
  intro always
  obtain ⟨services, reached, stranded⟩ := deletingRun_strands
  exact stranded (always services (Reached.of_foldlM reached))

theorem reserved_orders_cancellable_deleting :
    ∃ services, Run (fun before action after => next before action = some after) initial deletingRun services ∧
      ¬ Run (fun before action after => next before action = some after ∧ before.Careful action)
        initial deletingRun services := by
  obtain ⟨services, reached, stranded⟩ := deletingRun_strands
  have run := Run.of_foldlM reached
  refine ⟨services, run, fun careful => stranded ?_⟩
  exact (reserved_orders_cancellable run).mpr careful deletingRun [] services (by simp) run

end Services

end CareerProjects.Warehouse
