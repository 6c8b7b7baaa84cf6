import CareerProjects.Warehouse.Isolation

/-! What holds in every committed state of the inventory, under any interleaving of the
five stock operations: the ledger agrees with the balances, and reservations belong to
the references that made them. -/

namespace CareerProjects.Warehouse

open Library

namespace Database

theorem Reachable.sound {products : Uuid → Option Product} {database : Database}
    (h : Reachable products database) : database.inventory.Sound :=
  h.inventory.sound

/-- A step changes the committed tables only by posting what its request asks for. -/
theorem step_posts {database database' : Database} (h : Isolated database) {action : Action}
    (step : database.step action = some database') :
    database'.inventory = database.inventory ∨ ∃ session draw loaded postings,
      database.sessions action.session = some session ∧
      session.request.operation.change draw session.startedAt loaded
        (session.request.operation.sums database.movements) = .ok postings ∧
      database'.inventory = database.inventory.post postings := by
  rcases step_inventory h step with quiet | ⟨draw, session, postings, -, present, -, -, run⟩
  · exact .inl quiet
  · obtain ⟨-, change, posted⟩ := Inventory.run_ok.mp run
    exact .inr ⟨session, draw, _, postings, present, change, posted⟩

structure LedgerHolds (database : Database) : Prop where
  balances : ∀ key row, database.balances.committed key = some row →
    row.quantityOnHand = onHandTotal database.movements key ∧
    row.quantityReserved = reservedTotal database.movements key ∧
    0 ≤ row.quantityReserved ∧ row.quantityReserved ≤ row.quantityOnHand
  onHandAfter : RunningTotals StockMovement.key StockMovement.onHandDelta
    StockMovement.onHandBalanceAfter database.movements
  reservedAfter : RunningTotals StockMovement.key StockMovement.reservedDelta
    StockMovement.reservedBalanceAfter database.movements
  transfersConserve : ∀ action database' session request,
    database.step action = some database' → database.sessions action.session = some session →
    session.request = .transfer request → ∀ productId,
      database'.inventory.productOnHand productId = database.inventory.productOnHand productId
  transferPairs : ∀ movement ∈ database.movements, ∀ transferId,
    movement.transferId = some transferId → TransferPair transferId database.movements

theorem stock_ledger (products : Uuid → Option Product) (database : Database)
    (reachable : Reachable products database) : LedgerHolds database where
  balances key row committed := by
    have sound := reachable.sound
    have balance : database.inventory.balance key = row := by
      simp [Inventory.balance, inventory, committed]
    have valid := sound.totals.valid key row committed
    have onHand := sound.totals.onHand key
    have reserved := sound.totals.reserved key
    rw [balance] at onHand reserved
    exact ⟨onHand, reserved, valid.2⟩
  onHandAfter := reachable.sound.totals.onHandAfter
  reservedAfter := reachable.sound.totals.reservedAfter
  transfersConserve action database' session request step present transfer productId := by
    have isolated := Isolated.of_reachable reachable
    have after : Reachable products database' := reachable.tail step
    rcases step_posts isolated step with quiet |
      ⟨session', draw, loaded, postings, present', change, posted⟩
    · rw [quiet]
    · obtain rfl : session' = session := Option.some.inj (present'.symm.trans present)
      rw [transfer] at change
      have totals := after.sound.totals
      rw [posted] at totals ⊢
      exact Inventory.productOnHand_transfer reachable.sound.totals totals change productId
  transferPairs := reachable.sound.transfers.paired

def outstanding (database : Database) (key : BalanceKey) (referenceId : String) : Int :=
  database.inventory.outstanding key referenceId

structure ReservationsHold (database : Database) : Prop where
  nonnegative : ∀ key referenceId, 0 ≤ database.outstanding key referenceId
  shares : ∀ key row, database.balances.committed key = some row →
    (Function.support (database.outstanding key)).Finite ∧
      finsum (database.outstanding key) = row.quantityReserved
  otherReferences : ∀ action database' session, database.step action = some database' →
    database.sessions action.session = some session →
    ∀ key referenceId, session.request.referenceId ≠ some referenceId →
      database'.outstanding key referenceId = database.outstanding key referenceId
  reservesOnce : ∀ id draw database' session request postings,
    database.step (.commit id draw) = some database' → database.sessions id = some session →
    session.request = .reservation request →
    database'.sessions id = some { session with phase := .refresh postings [] } →
      database.outstanding request.key request.referenceId = 0
  releaseLooksUp : ∀ id database' session request, database.sessions id = some session →
    session.request = .release request → session.phase = .lookup →
    database.execute id = some database' →
      (database'.sessions id = some { session with phase := .insert } ↔
        (database.products request.productId).isSome)
  releaseFinds : ∀ id database' session request, database.sessions id = some session →
    session.request = .release request → session.phase = .select →
    database.execute id = some database' →
      ∃ found, database'.sessions id = some { session with phase := .lock found found } ∧
        (request.key ∈ found ↔ (database.balances.committed request.key).isSome)
  releaseCommits : ∀ id draw database' session request found reserved,
    database.sessions id = some session → session.request = .release request →
    session.phase = .commit found reserved →
    database.step (.commit id draw) = some database' →
      ((∃ postings, database'.sessions id = some { session with phase := .refresh postings [] }) ↔
        (database.products request.productId).isSome ∧ request.key ∈ found ∧
          request.quantity ≤ database.outstanding request.key request.referenceId)
  releaseMinimum : ∀ id session request found reserved balance,
    database.sessions id = some session → session.request = .release request →
    session.phase = .commit found reserved →
    database.loaded id found request.key = some balance →
      min reserved balance.quantityReserved = reserved

/-- The aggregate a release works with is still current when it decides. -/
theorem release_reserved {database : Database} {id : SessionId} {session : Session}
    (sound : SessionSound database id session) {request : StockReleaseRequest}
    (release : session.request = .release request) {found : List BalanceKey} {reserved : Int}
    (phase : session.phase = .commit found reserved)
    (held : database.balances.holder request.key = some id) :
    reserved = database.outstanding request.key request.referenceId := by
  have knows := sound.knows
  rw [phase, release] at knows
  refine knows.2.1 fun key locked => ?_
  rw [List.mem_singleton.mp locked, held]

theorem release_minimum {database : Database} (reserving : Reservations database.movements)
    (totals : database.inventory.Totals) {id : SessionId} {session : Session}
    (sound : SessionSound database id session) {request : StockReleaseRequest}
    (release : session.request = .release request) {found : List BalanceKey} {reserved : Int}
    (phase : session.phase = .commit found reserved) {balance : InventoryBalance}
    (load : database.loaded id found request.key = some balance) :
    min reserved balance.quantityReserved = reserved := by
  obtain ⟨held, rfl⟩ := loaded_eq_some load
  rw [release_reserved sound release phase held, min_eq_left_iff]
  calc database.outstanding request.key request.referenceId
      ≤ reservedTotal database.movements request.key :=
        reserving.referenceReservedQuantity_le _ _
    _ = (database.inventory.balance request.key).quantityReserved :=
        (totals.reserved request.key).symm

theorem reserves_once {database database' : Database} (isolated : Isolated database)
    (reserving : Reservations database.movements) {id : SessionId} {draw : Draw}
    {session : Session} {request : StockReservationRequest} {postings : List Posting}
    (step : database.step (.commit id draw) = some database')
    (present : database.sessions id = some session)
    (reservation : session.request = .reservation request)
    (commits : database'.sessions id = some { session with phase := .refresh postings [] }) :
    database.outstanding request.key request.referenceId = 0 := by
  obtain ⟨session', found, reserved, present', phase, decision⟩ := commit_cases step
  obtain rfl : session' = session := Option.some.inj (present'.symm.trans present)
  rcases decision with ⟨error, -, rfl⟩ | ⟨written, change, -, rfl⟩
  · rw [rollback, goto_sessions_self, Option.some.injEq] at commits
    cases congrArg Session.phase commits
  · have run := commit_inventory (isolated.sessions id session' present) phase change
    obtain ⟨-, atomic, -⟩ := Inventory.run_ok.mp run
    rw [reservation] at atomic
    have none_left := (reserveStock_ok.mp atomic).1
    exact le_antisymm none_left (reserving.nonnegative request.key request.referenceId)

theorem release_commits {database database' : Database} (isolated : Isolated database)
    (reserving : Reservations database.movements) (totals : database.inventory.Totals)
    {id : SessionId} {draw : Draw} {session : Session} {request : StockReleaseRequest}
    {found : List BalanceKey} {reserved : Int} (present : database.sessions id = some session)
    (release : session.request = .release request)
    (phase : session.phase = .commit found reserved)
    (step : database.step (.commit id draw) = some database') :
    (∃ postings, database'.sessions id = some { session with phase := .refresh postings [] }) ↔
      (database.products request.productId).isSome ∧ request.key ∈ found ∧
        request.quantity ≤ database.outstanding request.key request.referenceId := by
  have sound := isolated.sessions id session present
  have knows := sound.knows
  rw [phase, release] at knows
  have operation : session.request.operation = releaseStock request := by rw [release]; rfl
  obtain ⟨session', found', reserved', present', phase', decision⟩ := commit_cases step
  obtain rfl : session' = session := Option.some.inj (present'.symm.trans present)
  obtain ⟨rfl, rfl⟩ : found' = found ∧ reserved' = reserved := by
    simpa using phase'.symm.trans phase
  constructor
  · rintro ⟨postings, commits⟩
    rcases decision with ⟨error, -, rfl⟩ | ⟨written, change, -, -⟩
    · rw [rollback, goto_sessions_self, Option.some.injEq] at commits
      cases congrArg Session.phase commits
    · rw [operation] at change
      obtain ⟨row, load, enough, -⟩ := releaseStock_ok.mp change
      have current := release_reserved sound release phase (loaded_eq_some load).1
      rw [release_minimum reserving totals sound release phase load, current] at enough
      refine ⟨knows.1, ?_, enough⟩
      by_contra missing
      simp [loaded, missing] at load
  · rintro ⟨-, finds, enough⟩
    rcases decision with ⟨error, change, -⟩ | ⟨written, -, -, rfl⟩
    · have held := knows.2.2 request.key finds
      have load : ∃ row, database.loaded id found' request.key = some row := by
        simp [loaded, finds, RowStore.own, held]
      obtain ⟨row, load⟩ := load
      have minimum := release_minimum reserving totals sound release phase load
      have current := release_reserved sound release phase held
      have success := (@releaseStock_ok draw session'.startedAt (database.loaded id found')
        reserved' _ request).mpr ⟨row, load, by rw [minimum, current]; exact enough, rfl⟩
      rw [operation, success] at change
      cases change
    · exact ⟨written, goto_sessions_self ..⟩

theorem release_finds {database database' : Database} (isolated : Isolated database)
    {id : SessionId} {session : Session} {request : StockReleaseRequest}
    (present : database.sessions id = some session) (release : session.request = .release request)
    (phase : session.phase = .select) (step : database.execute id = some database') :
    ∃ found, database'.sessions id = some { session with phase := .lock found found } ∧
      (request.key ∈ found ↔ (database.balances.committed request.key).isSome) := by
  have operation : session.request.operation = releaseStock request := by rw [release]; rfl
  have sound := isolated.sessions id session present
  simp only [execute, present, Option.bind_some, phase, operation, Option.some.injEq] at step
  subst step
  refine ⟨_, goto_sessions_self .., ?_⟩
  have unheld : database.balances.holder request.key = some id →
      (database.balances.committed request.key).isSome := by
    intro held
    by_contra missing
    have inserts := (sound.held request.key held).2 (by simpa using missing)
    rw [operation] at inserts
    cases inserts
  simp only [releaseStock, List.mem_filter, List.mem_singleton, true_and, RowStore.visible,
    Bool.or_eq_true, beq_iff_eq]
  exact ⟨fun visible => visible.elim (fun committed => committed) unheld, .inl⟩

theorem release_looksUp {database database' : Database} {id : SessionId} {session : Session}
    {request : StockReleaseRequest} (present : database.sessions id = some session)
    (release : session.request = .release request) (phase : session.phase = .lookup)
    (step : database.execute id = some database') :
    database'.sessions id = some { session with phase := .insert } ↔
      (database.products request.productId).isSome := by
  have operation : session.request.operation = releaseStock request := by rw [release]; rfl
  simp only [execute, present, Option.bind_some, phase, operation, releaseStock] at step
  cases found : database.products request.productId with
  | none =>
    simp only [found, Option.some.injEq] at step
    subst step
    simp [rollback]
  | some product =>
    simp only [found, Option.some.injEq] at step
    subst step
    simp

theorem order_scoped_reservations (products : Uuid → Option Product) (database : Database)
    (reachable : Reachable products database) : ReservationsHold database where
  nonnegative := reachable.sound.reservations.nonnegative
  shares key row committed := by
    obtain ⟨finite, sum⟩ := reachable.sound.reservations.reservedTotal_eq key
    have reserved := reachable.sound.totals.reserved key
    have balance : database.inventory.balance key = row := by
      simp [Inventory.balance, inventory, committed]
    rw [balance] at reserved
    exact ⟨finite, (reserved.trans sum).symm⟩
  otherReferences action database' session step present key referenceId other := by
    rcases step_posts (.of_reachable reachable) step with quiet |
      ⟨session', draw, loaded, postings, present', change, posted⟩
    · exact congrArg (fun inventory => referenceReservedQuantity inventory.movements key
        referenceId) quiet
    · obtain rfl : session' = session := Option.some.inj (present'.symm.trans present)
      have after := @referenceReservedQuantity_post database.inventory _ _ _ _ _ _ change key
        referenceId
      rw [← posted] at after
      have untouched : session'.request.reservationDelta key referenceId = 0 := by
        cases request : session'.request with
        | reservation | release =>
          simp only [request, StockRequest.referenceId, ne_eq, Option.some.injEq] at other
          simp [StockRequest.reservationDelta, other]
        | receipt | issue | transfer => rfl
      rw [untouched, add_zero] at after
      exact after
  reservesOnce _ _ _ _ _ _ step present reservation commits :=
    reserves_once (.of_reachable reachable) reachable.sound.reservations step present
      reservation commits
  releaseLooksUp _ _ _ _ present release phase step := release_looksUp present release phase step
  releaseFinds _ _ _ _ present release phase step :=
    release_finds (.of_reachable reachable) present release phase step
  releaseCommits _ _ _ _ _ _ _ present release phase step :=
    release_commits (.of_reachable reachable) reachable.sound.reservations reachable.sound.totals
      present release phase step
  releaseMinimum id session _ _ _ _ present release phase load :=
    release_minimum reachable.sound.reservations reachable.sound.totals
      ((Isolated.of_reachable reachable).sessions id session present) release phase load

/-- A receipt of five units commits, then a reservation of three of them. -/
def reservingRun : List Action :=
  .start 0 (.receipt fiveUnits) 0 ::
    List.replicate 6 (.execute 0) ++ [.commit 0 ⟨1, 2, 3⟩] ++
  .start 1 (.reservation
      ⟨1, 2, 3, "ORD-1", none, transferOfThree.quantityPositive, by decide, transferOfThree.reasonLength⟩) 1 ::
    List.replicate 6 (.execute 1) ++ [.commit 1 ⟨4, 5, 6⟩]

theorem stock_ledger_reserving : ∃ database, Reachable oneProduct database ∧
    database.movements.map StockMovement.reservedBalanceAfter = [0, 3] ∧
    LedgerHolds database := by
  have facts : (reservingRun.foldlM step (initial oneProduct)).any (fun database =>
      database.movements.map StockMovement.reservedBalanceAfter == [0, 3]) = true := by
    decide +kernel
  simp only [Option.any_eq_true, beq_iff_eq] at facts
  obtain ⟨database, run, movements⟩ := facts
  have reachable : Reachable oneProduct database := Reached.of_foldlM run
  exact ⟨database, reachable, movements, stock_ledger oneProduct database reachable⟩

theorem order_scoped_reservations_reserving : ∃ database, Reachable oneProduct database ∧
    database.outstanding ⟨1, 2⟩ "ORD-1" = 3 ∧ ReservationsHold database := by
  have facts : (reservingRun.foldlM step (initial oneProduct)).any (fun database =>
      database.outstanding ⟨1, 2⟩ "ORD-1" == 3) = true := by
    decide +kernel
  simp only [Option.any_eq_true, beq_iff_eq] at facts
  obtain ⟨database, run, owned⟩ := facts
  have reachable : Reachable oneProduct database := Reached.of_foldlM run
  exact ⟨database, reachable, owned, order_scoped_reservations oneProduct database reachable⟩

end Database

end CareerProjects.Warehouse
