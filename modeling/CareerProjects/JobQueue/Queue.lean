import CareerProjects.JobQueue.Model

/-! The repository's insert and the five queue operations. Each of the five is one
transaction: it reads its clock, selects rows under a lock, and writes columns of
the selected rows. `FOR UPDATE SKIP LOCKED` leaves out the rows that another open
transaction holds; which ones those are is an argument of the call. -/

namespace CareerProjects.JobQueue

variable {Json : Type}

def shouldRetryJob (retryable : Bool) (attemptCount maxAttempts : Nat) : Bool :=
  retryable && attemptCount < maxAttempts

/-- Subtraction on `Nat` is cut off at zero, as the source's `max(attempt_count - 1, 0)`. -/
def calculateRetryDelaySeconds (attemptCount : Nat) (baseDelaySeconds maxDelaySeconds : ℚ) : ℚ :=
  min (baseDelaySeconds * 2 ^ (attemptCount - 1)) maxDelaySeconds

inductive CreateError
  | integrityError
  deriving DecidableEq, Repr

/-- The inserted row: the submitted columns, and the server defaults at `now`. -/
def addJob (data : JobCreate Json) (id : Uuid) (now : Time) : Job Json where
  id := id
  queue := data.queue
  taskName := data.taskName
  payload := data.payload
  status := .queued
  priority := data.priority
  idempotencyKey := data.idempotencyKey
  attemptCount := 0
  maxAttempts := data.maxAttempts
  availableAt := now
  workerId := none
  result := none
  lastError := none
  startedAt := none
  completedAt := none
  leaseExpiresAt := none
  heartbeatAt := none
  createdAt := now
  updatedAt := now

/-- The committed row that already owns the submission's idempotency key. -/
def existingJob (data : JobCreate Json) (table : JobTable Json) : Option (Job Json) :=
  data.idempotencyKey.bind fun key => table.rows.find? fun row => row.idempotencyKey == some key

theorem addJob_compatible {data : JobCreate Json} {id : Uuid} {now : Time}
    {table : JobTable Json} (newId : table.find id = none)
    (newKey : existingJob data table = none) :
    ∀ row ∈ table.rows, row.Compatible (addJob data id now) := by
  intro row hrow
  refine ⟨fun same => ?_, fun hasKey same => ?_⟩
  · exact absurd (List.find?_eq_none.mp newId row hrow) (by simp [same, addJob])
  · obtain ⟨key, hkey⟩ := Option.ne_none_iff_exists'.mp hasKey
    have key_eq : data.idempotencyKey = some key := by rw [← hkey, same]; rfl
    simp only [existingJob, key_eq, Option.bind_some, List.find?_eq_none] at newKey
    exact newKey row hrow (by simp [hkey])

/-- `INSERT ... ON CONFLICT ON CONSTRAINT uq_jobs_idempotency_key DO NOTHING`, then
the lookup of the row that won. A second row under one primary key is refused. -/
def createOrGetIdempotentJob (data : JobCreate Json) (id : Uuid) (now : Time)
    (table : JobTable Json) : Except CreateError ((Job Json × Bool) × JobTable Json) :=
  match newId : table.find id with
  | some _ => .error .integrityError
  | none =>
    match newKey : existingJob data table with
    | some existing => .ok ((existing, false), table)
    | none =>
      .ok ((addJob data id now, true),
        table.insert (addJob data id now) (addJob_compatible newId newKey))

structure ClaimJobs where
  workerId : String
  queues : List String
  limit : Int
  leaseDurationSeconds : ℚ
  claimedAt : Time
  /-- Rows held by other open transactions when the statement runs. -/
  locked : Uuid → Bool

def claimable (queues : List String) (claimedAt : Time) (job : Job Json) : Bool :=
  (job.status == .queued || job.status == .retryScheduled) &&
    queues.contains job.queue && decide (job.availableAt ≤ claimedAt)

def ClaimOrder (a b : Job Json) : Prop :=
  b.priority < a.priority ∨ a.priority = b.priority ∧
    (a.availableAt < b.availableAt ∨ a.availableAt = b.availableAt ∧
      (a.createdAt < b.createdAt ∨ a.createdAt = b.createdAt ∧ a.id ≤ b.id))

instance : DecidableRel (@ClaimOrder Json) := fun a b => by
  unfold ClaimOrder; infer_instance

def ClaimJobs.selection (call : ClaimJobs) (table : JobTable Json) : List (Job Json) :=
  ((table.rows.filter fun job =>
      claimable call.queues call.claimedAt job && !call.locked job.id).insertionSort
    ClaimOrder).take call.limit.toNat

def ClaimJobs.write (call : ClaimJobs) : RowWrite Json where
  apply job :=
    { job with
      status := .running
      workerId := some call.workerId
      attemptCount := job.attemptCount + 1
      startedAt := some call.claimedAt
      leaseExpiresAt := some (call.claimedAt + call.leaseDurationSeconds)
      heartbeatAt := some call.claimedAt
      completedAt := none
      result := none
      updatedAt := call.claimedAt }
  keepsId _ := rfl
  keepsKey _ := rfl

def holdsRow (jobs : List (Job Json)) (job : Job Json) : Bool :=
  jobs.any fun selected => selected.id == job.id

def claimJobs (call : ClaimJobs) (table : JobTable Json) : List (Job Json) × JobTable Json :=
  if call.queues.isEmpty || call.limit < 1 then ([], table)
  else
    let jobs := call.selection table
    (jobs.map call.write.apply, table.updateWhere (holdsRow jobs) call.write)

/-- The `WHERE` clause shared by the three reports of a worker: the row is running,
owned by that worker, and its lease is later than the report's clock reading. -/
def ownedRow (jobId : Uuid) (workerId : String) (now : Time) (job : Job Json) : Bool :=
  job.id == jobId && job.status == .running && job.workerId == some workerId &&
    job.leaseExpiresAt.any fun lease => decide (now < lease)

structure RenewLease where
  jobId : Uuid
  workerId : String
  leaseDurationSeconds : ℚ
  heartbeatAt : Time

def RenewLease.write (call : RenewLease) : RowWrite Json where
  apply job :=
    { job with
      heartbeatAt := some call.heartbeatAt
      leaseExpiresAt := some (call.heartbeatAt + call.leaseDurationSeconds)
      updatedAt := call.heartbeatAt }
  keepsId _ := rfl
  keepsKey _ := rfl

def renewLease (call : RenewLease) (table : JobTable Json) : Bool × JobTable Json :=
  let owned := ownedRow call.jobId call.workerId call.heartbeatAt
  (table.rows.countP owned == 1, table.updateWhere owned call.write)

structure MarkSucceeded (Json : Type) where
  jobId : Uuid
  workerId : String
  resultPayload : Json
  completedAt : Time

def MarkSucceeded.write (call : MarkSucceeded Json) : RowWrite Json where
  apply job :=
    { job with
      status := .succeeded
      result := some call.resultPayload
      lastError := none
      completedAt := some call.completedAt
      leaseExpiresAt := none
      heartbeatAt := none
      updatedAt := call.completedAt }
  keepsId _ := rfl
  keepsKey _ := rfl

def markSucceeded (call : MarkSucceeded Json) (table : JobTable Json) : Bool × JobTable Json :=
  let owned := ownedRow call.jobId call.workerId call.completedAt
  (table.rows.countP owned == 1, table.updateWhere owned call.write)

structure MarkFailed where
  jobId : Uuid
  workerId : String
  errorMessage : String
  retryable : Bool
  retryBaseDelaySeconds : ℚ
  retryMaxDelaySeconds : ℚ
  failedAt : Time

def MarkFailed.write (call : MarkFailed) : RowWrite Json where
  apply job :=
    let job :=
      { job with
        result := none
        lastError := some (String.ofList (call.errorMessage.toList.take 4000))
        updatedAt := call.failedAt
        leaseExpiresAt := none
        heartbeatAt := none }
    if shouldRetryJob call.retryable job.attemptCount job.maxAttempts then
      { job with
        status := .retryScheduled
        availableAt := call.failedAt + calculateRetryDelaySeconds job.attemptCount
          call.retryBaseDelaySeconds call.retryMaxDelaySeconds
        workerId := none
        completedAt := none }
    else
      { job with
        status := .deadLettered
        completedAt := some call.failedAt }
  keepsId _ := by dsimp only; split <;> rfl
  keepsKey _ := by dsimp only; split <;> rfl

def markFailed (call : MarkFailed) (table : JobTable Json) : Option JobStatus × JobTable Json :=
  let owned := ownedRow call.jobId call.workerId call.failedAt
  match table.rows.find? owned with
  | none => (none, table)
  | some job => (some (call.write.apply job).status, table.updateWhere owned call.write)

structure RecoverStaleJobs where
  limit : Int
  recoveredAt : Time
  locked : Uuid → Bool

def stale (recoveredAt : Time) (job : Job Json) : Bool :=
  job.status == .running && job.leaseExpiresAt.all fun lease => decide (lease ≤ recoveredAt)

def RecoveryOrder (a b : Job Json) : Prop :=
  match a.leaseExpiresAt, b.leaseExpiresAt with
  | none, none => a.id ≤ b.id
  | none, some _ => True
  | some _, none => False
  | some x, some y => x < y ∨ x = y ∧ a.id ≤ b.id

instance : DecidableRel (@RecoveryOrder Json) := fun a b => by
  unfold RecoveryOrder; split <;> infer_instance

def RecoverStaleJobs.selection (call : RecoverStaleJobs) (table : JobTable Json) :
    List (Job Json) :=
  ((table.rows.filter fun job => stale call.recoveredAt job && !call.locked job.id).insertionSort
    RecoveryOrder).take call.limit.toNat

def recoveryError : String := "Worker lease expired before job completion"

def RecoverStaleJobs.write (call : RecoverStaleJobs) : RowWrite Json where
  apply job :=
    let job :=
      { job with
        workerId := none
        heartbeatAt := none
        leaseExpiresAt := none
        result := none
        lastError := some recoveryError
        updatedAt := call.recoveredAt }
    if shouldRetryJob true job.attemptCount job.maxAttempts then
      { job with
        status := .retryScheduled
        availableAt := call.recoveredAt
        completedAt := none }
    else
      { job with
        status := .deadLettered
        completedAt := some call.recoveredAt }
  keepsId _ := by dsimp only; split <;> rfl
  keepsKey _ := by dsimp only; split <;> rfl

/-- Returns the numbers of jobs scheduled for retry and dead-lettered. -/
def recoverStaleJobs (call : RecoverStaleJobs) (table : JobTable Json) :
    (Nat × Nat) × JobTable Json :=
  if call.limit < 1 then ((0, 0), table)
  else
    let jobs := call.selection table
    let retried := jobs.countP fun job => shouldRetryJob true job.attemptCount job.maxAttempts
    ((retried, jobs.length - retried), table.updateWhere (holdsRow jobs) call.write)

end CareerProjects.JobQueue
