import Mathlib.Algebra.Order.Ring.Rat
import Mathlib.Data.List.Induction
import Mathlib.Data.List.Sort
import Mathlib.Data.List.Pairwise
import CareerProjects.Library.Keyed

/-! The `jobs` table of the distributed job-processing system: the row with its
lifecycle columns, the submission schema, and the table under its primary key and
its unique idempotency key. Clock readings and durations are exact rational seconds.
The payload and result columns hold JSON objects and stay a parameter, because no
queue operation looks inside them. -/

namespace CareerProjects.JobQueue

abbrev Uuid := BitVec 128

abbrev Time := ℚ

inductive JobStatus
  | queued | running | retryScheduled | succeeded | deadLettered | cancelled
  deriving DecidableEq, Repr

def JobStatus.terminal : JobStatus → Bool
  | .succeeded | .deadLettered => true
  | _ => false

structure Job (Json : Type) where
  id : Uuid
  queue : String
  taskName : String
  payload : Json
  status : JobStatus
  priority : Int
  idempotencyKey : Option String
  attemptCount : Nat
  maxAttempts : Nat
  availableAt : Time
  workerId : Option String
  result : Option Json
  lastError : Option String
  startedAt : Option Time
  completedAt : Option Time
  leaseExpiresAt : Option Time
  heartbeatAt : Option Time
  createdAt : Time
  updatedAt : Time
  deriving DecidableEq

def nameCharacter (c : Char) : Bool :=
  c.isAlphanum || c == '_' || c == '.' || c == '-'

def keyCharacter (c : Char) : Bool := nameCharacter c || c == ':'

def matchesField (allowed : Char → Bool) (maxLength : Nat) (text : String) : Bool :=
  1 ≤ text.length && text.length ≤ maxLength && text.toList.all allowed

/-- A submission that passed validation; the bounds are those of the schema. -/
structure JobCreate (Json : Type) where
  queue : String
  taskName : String
  payload : Json
  priority : Int
  maxAttempts : Nat
  idempotencyKey : Option String
  queueValid : matchesField nameCharacter 100 queue = true
  taskNameValid : matchesField nameCharacter 200 taskName = true
  priorityRange : -100 ≤ priority ∧ priority ≤ 100
  attemptsRange : 1 ≤ maxAttempts ∧ maxAttempts ≤ 100
  keyValid : idempotencyKey.all (matchesField keyCharacter 200) = true

def echoJob : JobCreate String :=
  ⟨"default", "echo", "{}", 0, 3, none, by decide, by decide, by decide, by decide, by decide⟩

variable {Json : Type}

/-- Two rows of the table must differ in the primary key and, where both have
one, in the idempotency key. -/
def Job.Compatible (a b : Job Json) : Prop :=
  a.id ≠ b.id ∧ (a.idempotencyKey ≠ none → a.idempotencyKey ≠ b.idempotencyKey)

instance : Std.Symm (@Job.Compatible Json) where
  symm _ _ h := ⟨h.1.symm, fun hasKey equal => h.2 (equal ▸ hasKey) equal.symm⟩

structure JobTable (Json : Type) where
  rows : List (Job Json)
  unique : rows.Pairwise Job.Compatible

/-- New values for some columns of a row. The two constrained columns are never
among them, so writing rows cannot break a constraint. -/
structure RowWrite (Json : Type) where
  apply : Job Json → Job Json
  keepsId : ∀ job, (apply job).id = job.id
  keepsKey : ∀ job, (apply job).idempotencyKey = job.idempotencyKey

namespace JobTable

def empty : JobTable Json := ⟨[], .nil⟩

/-- `UPDATE jobs SET ... WHERE`, and equally the flush of changed row objects. -/
def updateWhere (table : JobTable Json) (touched : Job Json → Bool)
    (write : RowWrite Json) : JobTable Json where
  rows := table.rows.map fun job => if touched job then write.apply job else job
  unique := by
    have column : ∀ job : Job Json, (if touched job then write.apply job else job).id = job.id ∧
        (if touched job then write.apply job else job).idempotencyKey = job.idempotencyKey := by
      intro job
      split
      · exact ⟨write.keepsId job, write.keepsKey job⟩
      · exact ⟨rfl, rfl⟩
    rw [List.pairwise_map]
    refine table.unique.imp fun {a b} compatible => ?_
    simpa only [Job.Compatible, (column a).1, (column b).1, (column a).2, (column b).2]
      using compatible

def find (table : JobTable Json) (id : Uuid) : Option (Job Json) :=
  table.rows.find? fun job => job.id == id

theorem eq_of_id {table : JobTable Json} {a b : Job Json} (ha : a ∈ table.rows)
    (hb : b ∈ table.rows) (same : a.id = b.id) : a = b := by
  by_contra different
  exact (table.unique.forall ha hb different).1 same

theorem find_eq_some {table : JobTable Json} {id : Uuid} {job : Job Json} :
    table.find id = some job ↔ job ∈ table.rows ∧ job.id = id := by
  rw [find, Library.find?_unique, beq_iff_eq]
  intro a member b member' first second
  rw [beq_iff_eq] at first second
  exact eq_of_id member member' (first.trans second.symm)

theorem mem_updateWhere {table : JobTable Json} {touched : Job Json → Bool}
    {write : RowWrite Json} {row : Job Json} :
    row ∈ (table.updateWhere touched write).rows ↔
      ∃ job ∈ table.rows, row = if touched job then write.apply job else job := by
  simp only [updateWhere, List.mem_map, eq_comm]

def insert (table : JobTable Json) (job : Job Json)
    (fresh : ∀ row ∈ table.rows, row.Compatible job) : JobTable Json where
  rows := table.rows ++ [job]
  unique := by
    rw [List.pairwise_append]
    exact ⟨table.unique, List.pairwise_singleton _ _, fun row hrow other hother => by
      rw [List.mem_singleton.mp hother]; exact fresh row hrow⟩

end JobTable

end CareerProjects.JobQueue
