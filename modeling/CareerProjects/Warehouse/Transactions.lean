import CareerProjects.Library.RowLock
import CareerProjects.Library.Runs
import CareerProjects.Warehouse.Stock

/-! The stock operations as database transactions. A session runs one request, one
statement at a time, and any statement of another session may come between two of its
own. Statements that wait for a row lock are not possible until the lock is free. Any
database call may also fail, which rolls the transaction back. -/

namespace CareerProjects.Warehouse

open Library

abbrev SessionId := Nat

inductive Phase
  | lookup
  | insert
  | select
  | lock (found waiting : List BalanceKey)
  | aggregate (found : List BalanceKey)
  | commit (found : List BalanceKey) (reservedForReference : Int)
  | refresh (waiting : List Posting) (refreshed : List Posting)
  | returned (result : List Posting)
  | raised (error : StockError)
  deriving DecidableEq

def Phase.finished : Phase → Bool
  | .returned _ | .raised _ => true
  | _ => false

structure Session where
  request : StockRequest
  startedAt : Time
  phase : Phase

structure Database where
  products : Uuid → Option Product
  balances : RowStore SessionId BalanceKey InventoryBalance
  movements : List StockMovement
  sessions : SessionId → Option Session

namespace Database

def initial (products : Uuid → Option Product) : Database :=
  ⟨products, .empty, [], fun _ => none⟩

def inventory (database : Database) : Inventory :=
  ⟨database.products, database.balances.committed, database.movements⟩

def goto (database : Database) (id : SessionId) (session : Session) (phase : Phase) : Database :=
  { database with
    sessions := Function.update database.sessions id (some { session with phase := phase }) }

def rollback (database : Database) (id : SessionId) (session : Session) (error : StockError) :
    Database :=
  { database with balances := database.balances.rollback id }.goto id session (.raised error)

def loaded (database : Database) (id : SessionId) (found : List BalanceKey) (key : BalanceKey) :
    Option InventoryBalance :=
  if key ∈ found then database.balances.own .empty id key else none

def writtenBalance (postings : List Posting) (key : BalanceKey) : Option InventoryBalance :=
  (postings.find? fun posting => posting.key == key).map Posting.balance

inductive Action
  | start (id : SessionId) (request : StockRequest) (startedAt : Time)
  | execute (id : SessionId)
  | commit (id : SessionId) (draw : Draw)
  | fail (id : SessionId)

def Action.session : Action → SessionId
  | .start id _ _ | .execute id | .commit id _ | .fail id => id

def start (database : Database) (id : SessionId) (request : StockRequest) (startedAt : Time) :
    Option Database :=
  match database.sessions id with
  | some _ => none
  | none => some (database.goto id ⟨request, startedAt, .lookup⟩ .lookup)

def execute (database : Database) (id : SessionId) : Option Database :=
  (database.sessions id).bind fun session =>
    let operation := session.request.operation
    let done := database.goto id session
    match session.phase with
    | .lookup =>
      match database.products operation.productId with
      | none => some (database.rollback id session (.productNotFound operation.productId))
      | some _ => some (done .insert)
    | .insert =>
      match operation.insertsIfMissing with
      | none => some (done .select)
      | some key => (database.balances.insertIfMissing id key).map fun balances =>
          { database with balances := balances }.goto id session .select
    | .select =>
      -- the statement's snapshot decides which rows it will return
      let found := operation.locks.filter (database.balances.visible id)
      some (done (.lock found found))
    | .lock found (key :: waiting) => (database.balances.lock id key).map fun balances =>
        { database with balances := balances }.goto id session (.lock found waiting)
    | .lock found [] => some (done (.aggregate found))
    | .aggregate found => some (done (.commit found (operation.sums database.movements)))
    | .refresh (posting :: waiting) refreshed =>
      -- another transaction may have changed the balance since the commit
      match database.balances.committed posting.key with
      | none => some (done (.raised .databaseError))
      | some balance =>
        some (done (.refresh waiting (refreshed ++ [{ posting with balance := balance }])))
    | .refresh [] refreshed => some (done (.returned refreshed))
    | .commit .. | .returned _ | .raised _ => none

/-- The decision and, unless it raises, the flush and the commit of both tables. -/
def commit (database : Database) (id : SessionId) (draw : Draw) : Option Database :=
  (database.sessions id).bind fun session =>
    match session.phase with
    | .commit found reservedForReference =>
      match session.request.operation.change draw session.startedAt
          (database.loaded id found) reservedForReference with
      | .error error => some (database.rollback id session error)
      | .ok postings =>
        if draw.Fresh database.movements then
          some ({ database with
            balances := database.balances.commit .empty id (writtenBalance postings)
            movements := database.movements ++ postings.map Posting.movement }.goto id session
              (.refresh postings []))
        else none
    | _ => none

/-- A database call raises; after the commit there is nothing left to roll back. -/
def fail (database : Database) (id : SessionId) : Option Database :=
  (database.sessions id).bind fun session =>
    if session.phase.finished then none
    else some (database.rollback id session .databaseError)

def step (database : Database) : Action → Option Database
  | .start id request startedAt => database.start id request startedAt
  | .execute id => database.execute id
  | .commit id draw => database.commit id draw
  | .fail id => database.fail id

/-- The databases that some interleaving of stock operations reaches from empty tables. -/
def Reachable (products : Uuid → Option Product) (database : Database) : Prop :=
  Reached (fun a action b => a.step action = some b) (initial products) database

end Database

end CareerProjects.Warehouse
