import CareerProjects.Warehouse.OrderProgress

/-! Who has the stock of an order. Each line of a stored order is in one place: in the
inventory under the order number, in the hands of one cancellation that released it, or
given up when the order is cancelled. Steps move lines between these places. -/

namespace CareerProjects.Warehouse

open Library

inductive Custody
  | inventory
  | request (id : RequestId)
  | spent

/-- What the state of a request says about the row, the lock and the reservations of
its order. -/
def OrderRequest.Fits (id : RequestId) (row : Option Order) (lockedBy : Option RequestId)
    (owned : BalanceKey → Int) : OrderRequest → Prop
  | .building .. | .abandoning .. => row = none
  | .reserving order pending reserved => row = none ∧ order.lines = reserved ++ pending ∧
      ∀ line ∈ reserved, owned (order.key line) = line.quantity
  | .confirmable order => row = some order ∧ order.status = .reserved ∧ lockedBy = some id
  | .releasing order pending released => row = some order ∧ order.status = .reserved ∧
      lockedBy = some id ∧ order.lines = released ++ pending
  | .restoring order pending failures _ => (∃ status, row = some (order.withStatus status)) ∧
      (pending ++ failures.map Prod.fst).Nodup ∧
      ∀ line ∈ pending ++ failures.map Prod.fst, line ∈ order.lines
  | .unrestored order failures => (∃ status, row = some (order.withStatus status)) ∧
      ∀ line ∈ failures.map Prod.fst, line ∈ order.lines
  | _ => True

namespace System

def owned (sys : System) (orderId : Uuid) (key : BalanceKey) : Int :=
  sys.inventory.outstanding key (generateOrderNumber orderId).1

theorem owned_eq (sys : System) (order : Order) (key : BalanceKey) :
    order.owned sys.inventory key = sys.owned order.id key := by
  rw [Order.owned, order.numbered, owned]

def Owes (sys : System) (orderId : Uuid) (id : RequestId) (line : ReservationLine) : Prop :=
  ∃ request, sys.requests id = some request ∧ request.orderId = orderId ∧ line ∈ request.owed

/-- No cancellation of the order still has to put back a line, or failed to. -/
def NoDebt (sys : System) (orderId : Uuid) : Prop :=
  ∀ id line, ¬ sys.Owes orderId id line

/-- The places of the lines of a stored order. -/
structure Keeps (sys : System) (order : Order) (custody : ReservationLine → Custody) : Prop where
  owned : ∀ line ∈ order.lines, sys.owned order.id (order.key line) =
    match custody line with
    | .inventory => line.quantity
    | _ => 0
  spent : ∀ line ∈ order.lines, custody line = .spent ↔ order.status = .cancelled
  owes : ∀ line ∈ order.lines, ∀ id, sys.Owes order.id id line ↔ custody line = .request id

structure OrderSound (sys : System) (orderId : Uuid) : Prop where
  fits : ∀ id request, sys.requests id = some request → request.orderId = orderId →
    request.Fits id (sys.orders orderId) (sys.lockedBy orderId) (sys.owned orderId)
  creator : ∀ id id' request request', sys.requests id = some request →
    sys.requests id' = some request' → request.orderId = orderId → request'.orderId = orderId →
    request.creates = true → request'.creates = true → id = id'
  created : ∀ id request, sys.requests id = some request → request.orderId = orderId →
    request.creates = true → orderId ∈ sys.generated
  stored : ∀ order, sys.orders orderId = some order →
    order.id = orderId ∧ order.status ≠ .pending ∧ orderId ∈ sys.generated
  custody : ∀ order, sys.orders orderId = some order → ∃ custody, sys.Keeps order custody

variable {sys sys' : System} {orderId : Uuid}

/-- Nothing of the order changed. -/
structure Agrees (sys sys' : System) (orderId : Uuid) : Prop where
  orders : sys'.orders orderId = sys.orders orderId
  lockedBy : sys'.lockedBy orderId = sys.lockedBy orderId
  requests : ∀ id request, request.orderId = orderId →
    (sys'.requests id = some request ↔ sys.requests id = some request)
  history : orderId ∈ sys.generated → sys'.inventory.history (generateOrderNumber orderId).1 =
    sys.inventory.history (generateOrderNumber orderId).1
  generated : orderId ∈ sys.generated → orderId ∈ sys'.generated

namespace Agrees

theorem owned (agrees : Agrees sys sys' orderId) (known : orderId ∈ sys.generated) :
    sys'.owned orderId = sys.owned orderId := by
  funext key
  exact Inventory.outstanding_of_history (agrees.history known) key

theorem owes (agrees : Agrees sys sys' orderId) (id : RequestId) (line : ReservationLine) :
    sys'.Owes orderId id line ↔ sys.Owes orderId id line := by
  constructor
  · rintro ⟨request, served, own, member⟩
    exact ⟨request, (agrees.requests id request own).mp served, own, member⟩
  · rintro ⟨request, served, own, member⟩
    exact ⟨request, (agrees.requests id request own).mpr served, own, member⟩

theorem noDebt (agrees : Agrees sys sys' orderId) (h : sys.NoDebt orderId) :
    sys'.NoDebt orderId := by
  intro id line
  rw [agrees.owes]
  exact h id line

theorem keeps (agrees : Agrees sys sys' orderId) {order : Order} (own : order.id = orderId)
    (known : orderId ∈ sys.generated) {custody : ReservationLine → Custody}
    (keeps : sys.Keeps order custody) : sys'.Keeps order custody where
  owned line member := by
    rw [own, agrees.owned known, ← own]
    exact keeps.owned line member
  spent := keeps.spent
  owes line member id := by
    rw [own, agrees.owes, ← own]
    exact keeps.owes line member id

theorem sound (agrees : Agrees sys sys' orderId) (h : OrderSound sys orderId) :
    OrderSound sys' orderId where
  fits id request served own := by
    have before := h.fits id request ((agrees.requests id request own).mp served) own
    rw [agrees.orders, agrees.lockedBy]
    by_cases known : orderId ∈ sys.generated
    · rwa [agrees.owned known]
    · cases request with
      | reserving order pending reserved =>
        have creating := (agrees.requests id _ own).mp served
        exact absurd (h.created id _ creating own rfl) known
      | _ => exact before
  creator id id' request request' served served' own own' :=
    h.creator id id' request request' ((agrees.requests id request own).mp served)
      ((agrees.requests id' request' own').mp served') own own'
  created id request served own creates :=
    agrees.generated (h.created id request ((agrees.requests id request own).mp served) own creates)
  stored order found := by
    rw [agrees.orders] at found
    obtain ⟨own, notPending, known⟩ := h.stored order found
    exact ⟨own, notPending, agrees.generated known⟩
  custody order found := by
    rw [agrees.orders] at found
    obtain ⟨own, -, known⟩ := h.stored order found
    obtain ⟨custody, keeps⟩ := h.custody order found
    exact ⟨custody, agrees.keeps own known keeps⟩

end Agrees

@[simp] theorem put_orders (sys : System) (id : RequestId) (orderId : Uuid)
    (session : OrderSession) : (sys.put id orderId session).orders orderId = session.row :=
  Function.update_self ..

@[simp] theorem put_lockedBy (sys : System) (id : RequestId) (orderId : Uuid)
    (session : OrderSession) : (sys.put id orderId session).lockedBy orderId = session.lockedBy :=
  Function.update_self ..

theorem put_requests (sys : System) (id other : RequestId) (orderId : Uuid)
    (session : OrderSession) : (sys.put id orderId session).requests other =
      if other = id then some session.request else sys.requests other :=
  Function.update_apply ..

theorem put_owes (session : OrderSession) (id other : RequestId) (line : ReservationLine)
    (own : session.request.orderId = orderId) :
    (sys.put id orderId session).Owes orderId other line ↔
      if other = id then line ∈ session.request.owed else sys.Owes orderId other line := by
  simp only [Owes, put_requests]
  by_cases same : other = id
  · simp [same, own]
  · simp [same]

theorem owes_served {id : RequestId} {request : OrderRequest}
    (served : sys.requests id = some request) (line : ReservationLine) :
    sys.Owes request.orderId id line ↔ line ∈ request.owed := by
  simp [Owes, served]

end System

namespace OrderRequest

variable {request : OrderRequest} {id : RequestId} {row row' : Option Order}
  {lockedBy lockedBy' : Option RequestId} {owned owned' : BalanceKey → Int}

theorem Fits.owed_nil (h : request.Fits id none lockedBy owned) : request.owed = [] := by
  cases request with
  | releasing | restoring | unrestored => simp [Fits] at h
  | _ => rfl

/-- A step of another request: the row changes at most its status and is then not locked
by this request; while this request creates the order, nothing changes. -/
theorem Fits.other (h : request.Fits id row lockedBy owned)
    (holder : row.isSome → lockedBy = some id → lockedBy' = lockedBy ∧ row' = row)
    (kept : ∀ order, row = some order → ∃ status, row' = some (order.withStatus status))
    (creator : request.creates = true → row = none → row' = none ∧ owned' = owned) :
    request.Fits id row' lockedBy' owned' := by
  cases request with
  | building => exact (creator rfl h).1
  | abandoning => exact (creator rfl h).1
  | reserving order pending reserved =>
    obtain ⟨unstored, lines, owns⟩ := h
    obtain ⟨unstored', same⟩ := creator rfl unstored
    exact ⟨unstored', lines, same ▸ owns⟩
  | confirmable order =>
    obtain ⟨stored, reserved, locked⟩ := h
    obtain ⟨sameLock, sameRow⟩ := holder (by simp [stored]) locked
    exact ⟨sameRow.trans stored, reserved, sameLock.trans locked⟩
  | releasing order pending released =>
    obtain ⟨stored, reserved, locked, lines⟩ := h
    obtain ⟨sameLock, sameRow⟩ := holder (by simp [stored]) locked
    exact ⟨sameRow.trans stored, reserved, sameLock.trans locked, lines⟩
  | restoring order pending failures error =>
    obtain ⟨⟨status, stored⟩, nodup, lines⟩ := h
    obtain ⟨status', stored'⟩ := kept _ stored
    exact ⟨⟨status', stored'⟩, nodup, lines⟩
  | unrestored order failures =>
    obtain ⟨⟨status, stored⟩, lines⟩ := h
    obtain ⟨status', stored'⟩ := kept _ stored
    exact ⟨⟨status', stored'⟩, lines⟩
  | confirming | cancelling | returning | finished => trivial

end OrderRequest

namespace System

variable {sys : System}

theorem put_owned (session : OrderSession) (id : RequestId) (orderId : Uuid) (order : Order)
    (key : BalanceKey) :
    (sys.put id orderId session).owned order.id key = order.owned session.inventory key := by
  rw [owned, put, Order.owned, order.numbered]

theorem Keeps.moveLine {sys' : System} {order : Order} {custody : ReservationLine → Custody}
    (keeps : sys.Keeps order custody) (line : ReservationLine) (place : Custody)
    (ownedElsewhere : ∀ other ∈ order.lines, other ≠ line →
      sys'.owned order.id (order.key other) = sys.owned order.id (order.key other))
    (owesElsewhere : ∀ other ∈ order.lines, other ≠ line → ∀ id,
      sys'.Owes order.id id other ↔ sys.Owes order.id id other)
    (owned : sys'.owned order.id (order.key line) =
      match place with
      | .inventory => line.quantity
      | _ => 0)
    (spent : place = .spent ↔ order.status = .cancelled)
    (owes : ∀ id, sys'.Owes order.id id line ↔ place = .request id) :
    sys'.Keeps order (Function.update custody line place) where
  owned other member := by
    by_cases same : other = line
    · rw [same, Function.update_self, owned]
    · rw [Function.update_of_ne same, ownedElsewhere other member same, keeps.owned other member]
  spent other member := by
    by_cases same : other = line
    · rw [same, Function.update_self, spent]
    · rw [Function.update_of_ne same, keeps.spent other member]
  owes other member id := by
    by_cases same : other = line
    · rw [same, Function.update_self, owes]
    · rw [Function.update_of_ne same, owesElsewhere other member same, keeps.owes other member]

end System

theorem Order.Moved.line {order : Order} {line other : ReservationLine} {delta : Int}
    {inventory inventory' : Inventory} (h : order.Moved line delta inventory inventory')
    (member : line ∈ order.lines) (known : other ∈ order.lines) :
    order.owned inventory' (order.key other) =
      order.owned inventory (order.key other) + if other = line then delta else 0 := by
  by_cases same : other = line
  · rw [h, same, if_pos rfl, if_pos rfl]
  · have different : other.productId ≠ line.productId :=
      fun products => same (order.line_eq known member products)
    rw [h.other different, if_neg same, add_zero]

namespace System.OrderSound

variable {sys : System} {id : RequestId} {request : OrderRequest}

/-- A step that leaves the owned stock to the row it found: what remains to be shown of
the new state. -/
theorem put (h : OrderSound sys request.orderId) (served : sys.requests id = some request)
    {session : OrderSession}
    (fits : session.request.Fits id session.row session.lockedBy
      ((sys.put id request.orderId session).owned request.orderId))
    (holder : ∀ other ≠ id, (sys.orders request.orderId).isSome →
      sys.lockedBy request.orderId = some other →
      session.lockedBy = sys.lockedBy request.orderId ∧
        session.row = sys.orders request.orderId)
    (kept : ∀ order, sys.orders request.orderId = some order →
      ∃ status, session.row = some (order.withStatus status))
    (creator : sys.orders request.orderId = none → request.creates = false →
      session.row = none ∧ session.inventory = sys.inventory)
    (creates : session.request.creates = true → request.creates = true)
    (stored : ∀ order, session.row = some order → order.id = request.orderId ∧
      order.status ≠ .pending ∧ request.orderId ∈ sys.generated)
    (custody : ∀ order, session.row = some order →
      ∃ custody, (sys.put id request.orderId session).Keeps order custody) :
    OrderSound (sys.put id request.orderId session) request.orderId where
  fits other request' served' own' := by
    rw [put_requests] at served'
    rw [put_orders, put_lockedBy]
    split at served'
    · next same =>
      cases served'
      rwa [same]
    · next different =>
      refine (h.fits other request' served' own').other (holder other different) kept
        fun creating unstored => ?_
      have passive : request.creates = false := by
        by_contra active
        exact different (h.creator other id request' request served' served own' rfl creating
          (by simpa using active))
      obtain ⟨same, inventory⟩ := creator unstored passive
      refine ⟨same, ?_⟩
      funext key
      simp only [System.owned, System.put, inventory]
  creator other other' request' request'' served' served'' own' own'' creating creating' := by
    rw [put_requests] at served' served''
    have known : ∀ other request', (if other = id then some session.request
        else sys.requests other) = some request' → request'.creates = true →
        request'.orderId = request.orderId → ∃ before, sys.requests other = some before ∧
          before.orderId = request.orderId ∧ before.creates = true := by
      intro other request' found creating own'
      split at found
      · next same =>
        cases found
        exact ⟨request, same ▸ served, rfl, creates creating⟩
      · exact ⟨request', found, own', creating⟩
    obtain ⟨before, found, mine, active⟩ := known other request' served' creating own'
    obtain ⟨before', found', mine', active'⟩ := known other' request'' served'' creating' own''
    exact h.creator other other' before before' found found' mine mine' active active'
  created other request' served' own' creating := by
    rw [put_requests] at served'
    split at served'
    · cases served'
      exact h.created id request served rfl (creates creating)
    · exact h.created other request' served' own' creating
  stored order found := by
    rw [put_orders] at found
    exact stored order found
  custody order found := by
    rw [put_orders] at found
    exact custody order found

theorem quiet (h : OrderSound sys request.orderId) (served : sys.requests id = some request)
    {session : OrderSession} (own : session.request.orderId = request.orderId)
    (row : session.row = sys.orders request.orderId) (inventory : session.inventory = sys.inventory)
    (owed : ∀ line, line ∈ session.request.owed ↔ line ∈ request.owed)
    (holder : ∀ other ≠ id, sys.lockedBy request.orderId = some other →
      session.lockedBy = sys.lockedBy request.orderId)
    (creates : session.request.creates = true → request.creates = true)
    (fits : session.request.Fits id (sys.orders request.orderId) session.lockedBy
      (sys.owned request.orderId)) :
    OrderSound (sys.put id request.orderId session) request.orderId := by
  have owned : (sys.put id request.orderId session).owned request.orderId =
      sys.owned request.orderId := by
    funext key
    simp only [System.owned, System.put, inventory]
  have owes : ∀ other line, (sys.put id request.orderId session).Owes request.orderId other line ↔
      sys.Owes request.orderId other line := by
    intro other line
    rw [put_owes session id other line own]
    split
    · next same => rw [owed, same, owes_served served]
    · rfl
  refine h.put served (by rwa [owned, row]) 
    (fun other different _ held => ⟨holder other different held, row⟩)
    (fun order found => ⟨order.status, row.trans found⟩)
    (fun unstored _ => ⟨row.trans unstored, inventory⟩) creates
    (fun order found => h.stored order (row.symm.trans found)) fun order found => ?_
  rw [row] at found
  obtain ⟨custody, keeps⟩ := h.custody order found
  have mine := (h.stored order found).1
  refine ⟨custody, fun line member => ?_, keeps.spent, fun line member other => ?_⟩
  · rw [mine, owned, ← mine]
    exact keeps.owned line member
  · rw [mine, owes, ← mine]
    exact keeps.owes line member other

/-- A step of the request that creates the order, before the order is stored. -/
theorem creating (h : OrderSound sys request.orderId) (served : sys.requests id = some request)
    (active : request.creates = true) (unstored : sys.orders request.orderId = none)
    {session : OrderSession} (row : session.row = sys.orders request.orderId)
    (fits : session.request.Fits id none session.lockedBy
      ((sys.put id request.orderId session).owned request.orderId)) :
    OrderSound (sys.put id request.orderId session) request.orderId := by
  have missing : session.row = none := row.trans unstored
  exact h.put served (by rwa [missing]) (by simp [unstored]) (by simp [unstored]) (by simp [active])
    (fun _ => active) (by simp [missing]) (by simp [missing])

theorem moveLine (h : OrderSound sys request.orderId) (served : sys.requests id = some request)
    {session : OrderSession} (own : session.request.orderId = request.orderId)
    {order : Order} (stored : sys.orders request.orderId = some order)
    (row : session.row = sys.orders request.orderId)
    (lockedBy : session.lockedBy = sys.lockedBy request.orderId)
    (passive : session.request.creates = false)
    (fits : session.request.Fits id (some order) (sys.lockedBy request.orderId)
      ((sys.put id request.orderId session).owned request.orderId))
    {line : ReservationLine} {delta : Int} (member : line ∈ order.lines)
    (moved : order.Moved line delta sys.inventory session.inventory)
    (owed : ∀ other ≠ line, other ∈ session.request.owed ↔ other ∈ request.owed)
    (place : Custody)
    (effect : ∀ custody, sys.Keeps order custody →
      (sys.owned order.id (order.key line) + delta =
        match place with
        | .inventory => line.quantity
        | _ => 0) ∧
      (place = .spent ↔ order.status = .cancelled) ∧
      ∀ other, (if other = id then line ∈ session.request.owed
        else sys.Owes order.id other line) ↔ place = .request other) :
    OrderSound (sys.put id request.orderId session) request.orderId := by
  have mine := (h.stored order stored).1
  have balance : ∀ other ∈ order.lines,
      (sys.put id request.orderId session).owned order.id (order.key other) =
        sys.owned order.id (order.key other) + if other = line then delta else 0 := by
    intro other known
    rw [put_owned, moved.line member known, sys.owned_eq]
  have owes : ∀ other l, (sys.put id request.orderId session).Owes order.id other l ↔
      if other = id then l ∈ session.request.owed else sys.Owes order.id other l := by
    intro other l
    rw [mine, put_owes session id other l own]
  refine h.put served (by rwa [row, stored, lockedBy]) (fun _ _ _ _ => ⟨lockedBy, row⟩)
    (fun before found => ⟨before.status, row.trans found⟩) (by simp [stored]) (by simp [passive])
    (fun before found => h.stored before (row.symm.trans found)) fun before found => ?_
  rw [row, stored] at found
  cases found
  obtain ⟨custody, keeps⟩ := h.custody order stored
  obtain ⟨ownedLine, spent, owesLine⟩ := effect custody keeps
  refine ⟨_, keeps.moveLine line place (fun other known different => ?_)
    (fun other known different holder => ?_) ?_ spent fun holder => ?_⟩
  · rw [balance other known, if_neg different, add_zero]
  · rw [owes]
    split
    · next same =>
      rw [owed other different, same, mine, owes_served served]
    · rfl
  · rw [balance line member, if_pos rfl, ownedLine]
  · rw [owes, owesLine]

theorem reserves (h : OrderSound sys request.orderId) (served : sys.requests id = some request)
    (accounted : sys.inventory.Accounted) {order : Order} {line : ReservationLine}
    {pending reserved : List ReservationLine} {inventory : Inventory}
    (phase : request = .reserving order (line :: pending) reserved)
    (reserving : order.Reserves line sys.inventory inventory) :
    OrderSound (sys.put id request.orderId
      { sys.session request with
        request := .reserving order pending (reserved ++ [line]), inventory := inventory }) request.orderId := by
  subst phase
  obtain ⟨unstored, lines, owns⟩ := h.fits id _ served rfl
  have member : line ∈ order.lines := by simp [lines]
  obtain ⟨unowned, moved⟩ := reserving.moved accounted
  refine h.creating served rfl unstored rfl ⟨rfl, by simp [lines], fun other known => ?_⟩
  have inside : other ∈ order.lines := by
    rw [lines]
    simp only [List.mem_append, List.mem_cons, List.not_mem_nil, or_false] at known ⊢
    exact known.imp_right .inl
  refine (put_owned ..).trans ((moved.line member inside).trans ?_)
  by_cases same : other = line
  · rw [same, if_pos rfl]
    omega
  · have earlier : other ∈ reserved := by simpa [same] using known
    rw [if_neg same, add_zero, sys.owned_eq]
    exact owns other earlier

theorem creates (h : OrderSound sys request.orderId) (served : sys.requests id = some request)
    {order : Order} {reserved : List ReservationLine}
    (phase : request = .reserving order [] reserved) :
    OrderSound (sys.put id request.orderId
      { sys.session request with
        request := .returning order.id, row := some (order.withStatus .reserved) }) request.orderId := by
  subst phase
  obtain ⟨unstored, lines, owns⟩ := h.fits id _ served rfl
  have debtless : ∀ other line, ¬ sys.Owes order.id other line := by
    rintro other line ⟨request', served', own, member⟩
    have before := h.fits other request' served' own
    rw [unstored] at before
    simp [before.owed_nil] at member
  refine h.put served trivial (by simp [unstored]) (by simp [unstored])
    (by simp [OrderRequest.creates]) (fun _ => rfl) ?_ ?_
  · rintro _ ⟨⟩
    exact ⟨rfl, by simp, h.created id _ served rfl rfl⟩
  · rintro _ ⟨⟩
    refine ⟨fun _ => .inventory, fun line member => ?_, by simp, fun line member other => ?_⟩
    · have known : line ∈ reserved := by simpa [lines] using member
      exact owns line known
    · refine (put_owes _ id other line rfl).trans ?_
      split
      · simp [OrderRequest.owed]
      · exact iff_of_false (debtless other line) (by simp)

theorem confirms (h : OrderSound sys request.orderId) (served : sys.requests id = some request)
    {order : Order}
    (phase : request = .confirmable order) :
    OrderSound (sys.put id request.orderId
      ((sys.session request).commitRow (order.withStatus .confirmed))) request.orderId := by
  subst phase
  obtain ⟨stored, reserved, locked⟩ := h.fits id _ served rfl
  obtain ⟨custody, keeps⟩ := h.custody order stored
  refine h.put served trivial (fun other different _ held => ?_) (fun before found => ?_)
    (by simp [stored]) (by simp [OrderSession.commitRow, OrderRequest.creates]) ?_ ?_
  · exact absurd (Option.some.inj (held.symm.trans locked)) different
  · cases stored.symm.trans found
    exact ⟨.confirmed, rfl⟩
  · rintro _ ⟨⟩
    exact ⟨rfl, by simp, (h.stored order stored).2.2⟩
  · rintro _ ⟨⟩
    refine ⟨custody, keeps.owned, fun line member => ?_, fun line member other => ?_⟩
    · rw [keeps.spent line member, reserved]
      simp
    · rw [← keeps.owes line member]
      refine (put_owes _ id other line rfl).trans ?_
      split
      · next same =>
        rw [same]
        exact (owes_served served line).symm
      · rfl

theorem releases (h : OrderSound sys request.orderId) (served : sys.requests id = some request)
    {order : Order} {line : ReservationLine} {pending released : List ReservationLine} {inventory : Inventory}
    (phase : request = .releasing order (line :: pending) released)
    (releasing : order.Releases line sys.inventory inventory) :
    OrderSound (sys.put id request.orderId
      { sys.session request with
        request := .releasing order pending (released ++ [line]), inventory := inventory }) request.orderId := by
  subst phase
  obtain ⟨stored, reserved, locked, lines⟩ := h.fits id _ served rfl
  obtain ⟨enough, moved⟩ := releasing.moved
  have enough : line.quantity ≤ order.owned sys.inventory (order.key line) := enough
  have positive := line.quantityPositive
  have member : line ∈ order.lines := by simp [lines]
  refine h.moveLine served rfl stored rfl rfl rfl ⟨rfl, reserved, locked, by simp [lines]⟩ member
    moved (fun other different => by simp [OrderRequest.owed, different]) (.request id)
    fun custody keeps => ?_
  rw [sys.owned_eq] at enough
  have share := keeps.owned line member
  have place : custody line = .inventory := by
    cases place : custody line with
    | inventory => rfl
    | request | spent =>
      simp only [place] at share
      omega
  simp only [place] at share
  refine ⟨by simp [share], by simp [reserved], fun other => ?_⟩
  split
  · next same => simp [OrderRequest.owed, same]
  · next different =>
    rw [keeps.owes line member, place]
    simp [Ne.symm different]

theorem rollsBack (h : OrderSound sys request.orderId) (served : sys.requests id = some request)
    {order : Order} {pending released : List ReservationLine} {error : ServiceError}
    (phase : request = .releasing order pending released) :
    OrderSound (sys.put id request.orderId
      ((sys.session request).rollback order released error)) request.orderId := by
  subst phase
  obtain ⟨stored, reserved, locked, lines⟩ := h.fits id _ served rfl
  refine h.quiet served rfl rfl rfl (by simp [OrderSession.rollback, OrderRequest.owed])
    (fun other different held => ?_) (by simp [OrderSession.rollback, OrderRequest.creates]) ?_
  · exact absurd (Option.some.inj (held.symm.trans locked)) different
  · have nodup : (released ++ pending).Nodup := lines ▸ order.lines_nodup.of_map _
    simp only [OrderSession.rollback, OrderRequest.Fits, List.map_nil, List.append_nil]
    refine ⟨⟨order.status, stored⟩, nodup.of_append_left, fun line member => ?_⟩
    rw [lines]
    exact List.mem_append_left _ member

theorem cancels (h : OrderSound sys request.orderId) (served : sys.requests id = some request)
    {order : Order} {released : List ReservationLine}
    (phase : request = .releasing order [] released) :
    OrderSound (sys.put id request.orderId
      ((sys.session request).commitRow (order.withStatus .cancelled))) request.orderId := by
  subst phase
  obtain ⟨stored, reserved, locked, lines⟩ := h.fits id _ served rfl
  obtain ⟨custody, keeps⟩ := h.custody order stored
  have places : ∀ line ∈ order.lines, custody line = .request id := by
    intro line member
    rw [← keeps.owes line member]
    refine (owes_served served line).mpr ?_
    simpa [lines, OrderRequest.owed] using member
  refine h.put served trivial (fun other different _ held => ?_) (fun before found => ?_)
    (by simp [stored]) (by simp [OrderSession.commitRow, OrderRequest.creates]) ?_ ?_
  · exact absurd (Option.some.inj (held.symm.trans locked)) different
  · cases stored.symm.trans found
    exact ⟨.cancelled, rfl⟩
  · rintro _ ⟨⟩
    exact ⟨rfl, by simp, (h.stored order stored).2.2⟩
  · rintro _ ⟨⟩
    refine ⟨fun _ => .spent, fun line member => ?_, by simp, fun line member other => ?_⟩
    · have share := keeps.owned line member
      rwa [places line member] at share
    · refine (put_owes _ id other line rfl).trans ?_
      split
      · simp [OrderSession.commitRow, OrderRequest.owed]
      · next different =>
        refine (keeps.owes line member other).trans ?_
        simp [places line member, Ne.symm different]

theorem restores (h : OrderSound sys request.orderId) (served : sys.requests id = some request)
    (accounted : sys.inventory.Accounted) {order : Order} {line : ReservationLine} {pending : List ReservationLine}
    {failures : List (ReservationLine × ServiceError)} {error : ServiceError} {inventory : Inventory}
    (phase : request = .restoring order (line :: pending) failures error)
    (reserving : order.Reserves line sys.inventory inventory) :
    OrderSound (sys.put id request.orderId
      { sys.session request with
        request := .restoring order pending failures error, inventory := inventory }) request.orderId := by
  subst phase
  obtain ⟨⟨status, stored⟩, nodup, lines⟩ := h.fits id _ served rfl
  have member : line ∈ order.lines := lines line (by simp)
  obtain ⟨unowned, moved⟩ := reserving.moved accounted
  refine h.moveLine served rfl stored rfl rfl rfl ⟨⟨status, rfl⟩, (List.nodup_cons.mp nodup).2,
    fun other known => lines other (List.mem_cons_of_mem _ known)⟩ member moved
    (fun other different => by simp [OrderRequest.owed, different]) .inventory
    fun custody keeps => ?_
  have place : custody line = .request id := by
    rw [← keeps.owes line member]
    exact (owes_served served line).mpr (by simp [OrderRequest.owed])
  have spent := keeps.spent line member
  rw [place] at spent
  refine ⟨?_, by simpa using spent, fun other => ?_⟩
  · have unowned : order.owned sys.inventory (order.key line) = 0 := unowned
    rw [sys.owned_eq] at unowned
    exact (congrArg (· + line.quantity) unowned).trans (zero_add _)
  · split
    · simpa [OrderRequest.owed] using (List.nodup_cons.mp nodup).1
    · next different =>
      rw [keeps.owes line member, place]
      simp [Ne.symm different]

theorem restoreFails (h : OrderSound sys request.orderId) (served : sys.requests id = some request)
    {order : Order} {line : ReservationLine} {pending : List ReservationLine}
    {failures : List (ReservationLine × ServiceError)} {error failure : ServiceError}
    (phase : request = .restoring order (line :: pending) failures error) :
    OrderSound (sys.put id request.orderId
      { sys.session request with
        request := .restoring order pending (failures ++ [(line, failure)]) error }) request.orderId := by
  subst phase
  obtain ⟨stored, nodup, lines⟩ := h.fits id _ served rfl
  have reordered : (pending ++ (failures ++ [(line, failure)]).map Prod.fst).Perm
      ((line :: pending) ++ failures.map Prod.fst) := by
    simp only [List.map_append, List.map_cons, List.map_nil, ← List.append_assoc]
    exact List.perm_append_singleton line (pending ++ failures.map Prod.fst)
  exact h.quiet served rfl rfl rfl (fun other => reordered.mem_iff) (fun _ _ _ => rfl)
    (fun creating => creating)
    ⟨stored, reordered.nodup_iff.mpr nodup, fun other member => lines other (reordered.mem_iff.mp member)⟩

theorem advance (h : OrderSound sys request.orderId) (served : sys.requests id = some request)
    (accounted : sys.inventory.Accounted) {event : OrderEvent} {session : OrderSession}
    (advances : OrderSession.Advances id (sys.session request) event session) :
    OrderSound (sys.put id request.orderId session) request.orderId := by
  have fits := h.fits id request served rfl
  cases advances with
  | finishes result debtless =>
    have debtless : request.owed = [] := debtless
    exact h.quiet served rfl rfl rfl (fun line => by rw [debtless]; rfl) (fun _ _ _ => rfl)
      (by simp [OrderSession.finish, OrderRequest.creates]) trivial
  | builds orderId createRequest order phase same =>
    obtain rfl : request = .building orderId createRequest := phase
    exact h.quiet served same rfl rfl (by simp [OrderRequest.owed]) (fun _ _ _ => rfl)
      (fun _ => rfl) ⟨fits, rfl, by simp⟩
  | abandons order pending reserved error phase =>
    obtain rfl : request = .reserving order pending reserved := phase
    exact h.quiet served rfl rfl rfl (by simp [OrderRequest.owed]) (fun _ _ _ => rfl)
      (fun _ => rfl) fits.1
  | locksToConfirm order phase stored free reserved =>
    have stored : sys.orders request.orderId = some order := stored
    have free : sys.lockedBy request.orderId = none := free
    have waiting : request = .confirming request.orderId := phase
    exact h.quiet served (h.stored order stored).1 rfl rfl (by rw [waiting]; simp [OrderRequest.owed])
      (by simp [free]) (by simp [OrderRequest.creates]) ⟨stored, reserved, rfl⟩
  | locksToCancel order phase stored free reserved =>
    have stored : sys.orders request.orderId = some order := stored
    have free : sys.lockedBy request.orderId = none := free
    have waiting : request = .cancelling request.orderId := phase
    exact h.quiet served (h.stored order stored).1 rfl rfl (by rw [waiting]; simp [OrderRequest.owed])
      (by simp [free]) (by simp [OrderRequest.creates]) ⟨stored, reserved, rfl, rfl⟩
  | confirmFails order error phase =>
    obtain rfl : request = .confirmable order := phase
    refine h.quiet served rfl rfl rfl (by simp [OrderSession.finish, OrderRequest.owed])
      (fun other different held => ?_) (by simp [OrderSession.finish, OrderRequest.creates]) trivial
    exact absurd (Option.some.inj (held.symm.trans fits.2.2)) different
  | rollsBack order pending released error phase => exact h.rollsBack served phase
  | restoreFails order line pending failures error failure phase => exact h.restoreFails served phase
  | givesUp order failures error phase =>
    obtain rfl : request = .restoring order [] failures error := phase
    exact h.quiet served rfl rfl rfl (by simp [OrderRequest.owed]) (fun _ _ _ => rfl)
      (fun creating => creating) ⟨fits.1, fits.2.2⟩
  | reserves order line pending reserved inventory phase reserving => exact h.reserves served accounted phase reserving
  | creates order reserved phase => exact h.creates served phase
  | compensates order pending pending' failures failures' error inventory phase moves =>
    obtain rfl : request = .abandoning order pending failures error := phase
    exact h.creating served rfl fits rfl rfl
  | confirms order phase committed => exact h.confirms served phase
  | releases order line pending released inventory phase releasing => exact h.releases served phase releasing
  | cancels order released phase => exact h.cancels served phase
  | restores order line pending failures error inventory phase reserving => exact h.restores served accounted phase reserving

end System.OrderSound

namespace System

variable {sys sys' : System} {id : RequestId} {request : OrderRequest} {action : OrderAction}

theorem start_cases (h : sys.start id request = some sys') : sys.requests id = none ∧
    sys' = { sys with requests := Function.update sys.requests id (some request) } := by
  rw [start] at h
  split at h
  · next free => exact ⟨free, (Option.some.inj h).symm⟩
  · cases h

theorem transition_cases (h : Transition sys action sys') :
    sys.Admissible action ∧ sys.step action = some sys' := by
  rw [Transition, transition] at h
  split at h
  · next admissible => exact ⟨admissible, h⟩
  · cases h

theorem advance_cases {event : OrderEvent} (h : Transition sys (.advance id event) sys') :
    ∃ request session, sys.requests id = some request ∧
      OrderSession.Advances id (sys.session request) event session ∧
      sys' = sys.put id request.orderId session := by
  obtain ⟨admissible, step⟩ := transition_cases h
  simp only [System.step] at step
  split at step
  · cases step
  · next request served =>
    obtain ⟨session, advance, rfl⟩ := Option.map_eq_some_iff.mp step
    refine ⟨request, session, served, OrderSession.advance_cases (fun outcome same => ?_) advance, rfl⟩
    rw [same] at admissible
    exact admissible

structure Sound (sys : System) : Prop where
  accounted : sys.inventory.Accounted
  orders : ∀ orderId, sys.OrderSound orderId

theorem Sound.session_orderId (h : Sound sys) {event : OrderEvent} {session : OrderSession}
    (advances : OrderSession.Advances id (sys.session request) event session) :
    session.request.orderId = request.orderId :=
  advances.orderId fun order found => ((h.orders request.orderId).stored order found).1

theorem Agrees.put {orderId : Uuid} (served : sys.requests id = some request)
    {event : OrderEvent} {session : OrderSession}
    (advances : OrderSession.Advances id (sys.session request) event session)
    (own : session.request.orderId = request.orderId) (other : orderId ≠ request.orderId) :
    Agrees sys (sys.put id request.orderId session) orderId where
  orders := Function.update_of_ne other ..
  lockedBy := Function.update_of_ne other ..
  requests holder request' mine := by
    rw [put_requests]
    split
    · next same =>
      rw [same, served]
      refine iff_of_false (fun found => ?_) (fun found => ?_)
      · cases found
        exact other (mine.symm.trans own)
      · cases found
        exact other mine.symm
    · rfl
  history _ := advances.history other
  generated := fun known => known

theorem Agrees.start {orderId : Uuid} (free : sys.requests id = none)
    (other : orderId ≠ request.orderId) (generated : sys.generated ⊆ sys'.generated)
    (same : sys' = { sys with
      requests := Function.update sys.requests id (some request), generated := sys'.generated }) :
    Agrees sys sys' orderId := by
  rw [same]
  refine ⟨rfl, rfl, fun holder request' mine => ?_, fun _ => rfl, fun known => generated known⟩
  simp only [Function.update_apply]
  split
  · next here =>
    rw [here, free]
    refine iff_of_false (fun found => ?_) (by simp)
    cases found
    exact other mine.symm
  · rfl

theorem start_requests
    (same : sys' = { sys with
      requests := Function.update sys.requests id (some request), generated := sys'.generated })
    {other : RequestId} {request' : OrderRequest} (found : sys'.requests other = some request') :
    other = id ∧ request' = request ∨ sys.requests other = some request' := by
  rw [same] at found
  simp only [Function.update_apply] at found
  split at found
  · next here => exact .inl ⟨here, (Option.some.inj found).symm⟩
  · exact .inr found

theorem start_owes (free : sys.requests id = none)
    (same : sys' = { sys with
      requests := Function.update sys.requests id (some request), generated := sys'.generated })
    (debtless : request.owed = []) (orderId : Uuid) (other : RequestId) (line : ReservationLine) :
    sys'.Owes orderId other line ↔ sys.Owes orderId other line := by
  constructor
  · rintro ⟨request', found, own, member⟩
    rcases start_requests same found with ⟨-, rfl⟩ | before
    · simp [debtless] at member
    · exact ⟨request', before, own, member⟩
  · rintro ⟨request', found, own, member⟩
    have different : other ≠ id := by
      rintro rfl
      simp [free] at found
    refine ⟨request', ?_, own, member⟩
    rw [same]
    simpa [Function.update_of_ne different] using found

theorem OrderSound.start (h : OrderSound sys request.orderId) (free : sys.requests id = none)
    (generated : sys.generated ⊆ sys'.generated)
    (same : sys' = { sys with
      requests := Function.update sys.requests id (some request), generated := sys'.generated })
    (debtless : request.owed = [])
    (fits : request.Fits id (sys.orders request.orderId) (sys.lockedBy request.orderId)
      (sys.owned request.orderId))
    (fresh : request.creates = true →
      request.orderId ∉ sys.generated ∧ request.orderId ∈ sys'.generated) :
    OrderSound sys' request.orderId := by
  have orders : sys'.orders = sys.orders := by rw [same]
  have lockedBy : sys'.lockedBy = sys.lockedBy := by rw [same]
  have owned : sys'.owned = sys.owned := by
    funext orderId key
    rw [System.owned, System.owned, same]
  refine ⟨fun other request' found own => ?_, fun other other' request' request'' found found' own
    own' creating creating' => ?_, fun other request' found own creating => ?_, fun order found => ?_,
    fun order found => ?_⟩
  · rw [orders, lockedBy, owned]
    rcases start_requests same found with ⟨rfl, rfl⟩ | before
    · exact fits
    · exact h.fits other request' before own
  · rcases start_requests same found with ⟨rfl, rfl⟩ | before <;>
      rcases start_requests same found' with ⟨rfl, rfl⟩ | before'
    · rfl
    · exact absurd (h.created _ _ before' own' creating') (fresh creating).1
    · exact absurd (h.created _ _ before own creating) (fresh creating').1
    · exact h.creator other other' request' request'' before before' own own' creating creating'
  · rcases start_requests same found with ⟨rfl, rfl⟩ | before
    · exact (fresh creating).2
    · exact generated (h.created other request' before own creating)
  · rw [orders] at found
    obtain ⟨mine, notPending, known⟩ := h.stored order found
    exact ⟨mine, notPending, generated known⟩
  · rw [orders] at found
    obtain ⟨custody, keeps⟩ := h.custody order found
    refine ⟨custody, fun line member => ?_, keeps.spent, fun line member other => ?_⟩
    · rw [owned]
      exact keeps.owned line member
    · rw [start_owes free same debtless]
      exact keeps.owes line member other

theorem Sound.initial (products : Uuid → Option Product) : Sound (initial products) where
  accounted := (Inventory.Sound.empty products).toAccounted
  orders orderId := by constructor <;> simp [System.initial]

theorem Agrees.stock {stockRequest : StockRequest} {draw : Draw} {now : Time}
    (h : Transition sys (.stock stockRequest draw now) sys') (orderId : Uuid) :
    Agrees sys sys' orderId := by
  obtain ⟨admissible, step⟩ := transition_cases h
  simp only [System.step] at step
  split at step
  · cases step
    exact ⟨rfl, rfl, fun _ _ _ => .rfl, fun _ => rfl, fun known => known⟩
  · next postings inventory run =>
    cases step
    refine ⟨rfl, rfl, fun _ _ _ => .rfl, fun known => ?_, fun known => known⟩
    exact Inventory.run_history run (admissible orderId known)

theorem Sound.start (h : Sound sys) (free : sys.requests id = none)
    (generated : sys.generated ⊆ sys'.generated)
    (same : sys' = { sys with
      requests := Function.update sys.requests id (some request), generated := sys'.generated })
    (debtless : request.owed = [])
    (fits : request.Fits id (sys.orders request.orderId) (sys.lockedBy request.orderId)
      (sys.owned request.orderId))
    (fresh : request.creates = true →
      request.orderId ∉ sys.generated ∧ request.orderId ∈ sys'.generated) : Sound sys' where
  accounted := by
    rw [same]
    exact h.accounted
  orders orderId := by
    by_cases mine : orderId = request.orderId
    · rw [mine]
      exact (h.orders _).start free generated same debtless fits fresh
    · exact (Agrees.start free mine generated same).sound (h.orders orderId)

theorem Sound.transition (h : Sound sys) (transition : Transition sys action sys') : Sound sys' := by
  cases action with
  | create id orderId request =>
    obtain ⟨admissible, step⟩ := transition_cases transition
    obtain ⟨free, rfl⟩ := start_cases step
    have unstored : sys.orders orderId = none := by
      by_contra stored
      obtain ⟨order, found⟩ := Option.ne_none_iff_exists'.mp stored
      exact admissible.1 ((h.orders orderId).stored order found).2.2
    exact h.start free (by simp) rfl rfl unstored fun _ => ⟨admissible.1, by simp [OrderRequest.orderId]⟩
  | confirm id orderId =>
    obtain ⟨free, rfl⟩ := start_cases (transition_cases transition).2
    exact h.start free (by simp) rfl rfl trivial (by simp [OrderRequest.creates])
  | cancel id orderId =>
    obtain ⟨free, rfl⟩ := start_cases (transition_cases transition).2
    exact h.start free (by simp) rfl rfl trivial (by simp [OrderRequest.creates])
  | advance id event =>
    obtain ⟨request, session, served, advances, rfl⟩ := advance_cases transition
    refine ⟨advances.accounted h.accounted, fun orderId => ?_⟩
    by_cases mine : orderId = request.orderId
    · rw [mine]
      exact (h.orders _).advance served h.accounted advances
    · exact (Agrees.put served advances (h.session_orderId advances) mine).sound (h.orders orderId)
  | stock request draw now =>
    refine ⟨?_, fun orderId => (Agrees.stock transition orderId).sound (h.orders orderId)⟩
    have step := (transition_cases transition).2
    simp only [System.step] at step
    split at step
    · cases step
      exact h.accounted
    · next postings inventory run =>
      cases step
      exact Inventory.run_accounted h.accounted run

theorem Reachable.sound {products : Uuid → Option Product} (h : Reachable products sys) :
    Sound sys :=
  Reached.invariant h (.initial products) fun _ _ _ sound transition => sound.transition transition

end System

end CareerProjects.Warehouse
