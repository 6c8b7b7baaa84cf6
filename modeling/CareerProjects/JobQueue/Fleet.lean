import CareerProjects.JobQueue.Lifecycle
import CareerProjects.Library.Runs

/-! Worker processes on one queue. A process runs slots that share its worker
identifier; a slot claims at most one job at a time and, while it works on it,
issues reports about that job at any moment. The claimants of each job and the
mark left by a recovery are history: no transaction reads them. -/

namespace CareerProjects.JobQueue

variable {Json : Type}

structure SlotId where
  process : String
  number : Nat
  deriving DecidableEq

/-- The claim a busy slot works for: claim number `claim` of the job, counted from one. -/
structure Attempt where
  jobId : Uuid
  claim : Nat
  deriving DecidableEq

/-- The three calls `_process_job` and `_maintain_lease` make about a claimed job. -/
inductive Report (Json : Type)
  | renewLease (leaseDurationSeconds : ℚ) (heartbeatAt : Time)
  | markSucceeded (resultPayload : Json) (completedAt : Time)
  | markFailed (errorMessage : String) (retryable : Bool)
      (retryBaseDelaySeconds retryMaxDelaySeconds : ℚ) (failedAt : Time)

namespace Report

def op (report : Report Json) (workerId : String) (jobId : Uuid) : QueueOp Json :=
  match report with
  | .renewLease lease at_ => .renewLease ⟨jobId, workerId, lease, at_⟩
  | .markSucceeded payload at_ => .markSucceeded ⟨jobId, workerId, payload, at_⟩
  | .markFailed message retryable base max at_ =>
    .markFailed ⟨jobId, workerId, message, retryable, base, max, at_⟩

def clock : Report Json → Time
  | .renewLease _ at_ => at_
  | .markSucceeded _ at_ => at_
  | .markFailed _ _ _ _ at_ => at_

def answer (report : Report Json) (workerId : String) (jobId : Uuid)
    (table : JobTable Json) : Bool :=
  match report with
  | .renewLease lease at_ => (JobQueue.renewLease ⟨jobId, workerId, lease, at_⟩ table).1
  | .markSucceeded payload at_ =>
    (JobQueue.markSucceeded ⟨jobId, workerId, payload, at_⟩ table).1
  | .markFailed message retryable base max at_ =>
    (JobQueue.markFailed ⟨jobId, workerId, message, retryable, base, max, at_⟩ table).1.isSome

end Report

structure Fleet (Json : Type) where
  table : JobTable Json
  slots : SlotId → Option Attempt
  claimants : Uuid → List SlotId
  recovered : Uuid → Bool

namespace Fleet

def initial : Fleet Json := ⟨.empty, fun _ => none, fun _ => [], fun _ => false⟩

inductive Action (Json : Type)
  | createJob (data : JobCreate Json) (id : Uuid) (now : Time)
  | claimJob (slot : SlotId) (queues : List String) (leaseDurationSeconds : ℚ)
      (claimedAt : Time) (locked : Uuid → Bool)
  | report (slot : SlotId) (report : Report Json)
  | finish (slot : SlotId)
  | recoverStaleJobs (call : RecoverStaleJobs)

def claimJob (fleet : Fleet Json) (slot : SlotId) (call : ClaimJobs) : Fleet Json :=
  match (JobQueue.claimJobs call fleet.table).1.head? with
  | none => { fleet with table := (JobQueue.claimJobs call fleet.table).2 }
  | some job =>
    { table := (JobQueue.claimJobs call fleet.table).2
      slots := Function.update fleet.slots slot
        (some ⟨job.id, (fleet.claimants job.id).length + 1⟩)
      claimants := Function.update fleet.claimants job.id (fleet.claimants job.id ++ [slot])
      recovered := Function.update fleet.recovered job.id false }

def step (fleet : Fleet Json) : Action Json → Option (Fleet Json)
  | .createJob data id now =>
    some { fleet with table := (QueueOp.createJob data id now).step fleet.table }
  | .claimJob slot queues lease claimedAt locked =>
    match fleet.slots slot with
    | some _ => none
    | none => some (fleet.claimJob slot ⟨slot.process, queues, 1, lease, claimedAt, locked⟩)
  | .report slot report =>
    (fleet.slots slot).map fun attempt =>
      { fleet with table := (report.op slot.process attempt.jobId).step fleet.table }
  | .finish slot =>
    (fleet.slots slot).map fun _ =>
      { fleet with slots := Function.update fleet.slots slot none }
  | .recoverStaleJobs call =>
    let op : QueueOp Json := .recoverStaleJobs call
    some { fleet with
      table := op.step fleet.table
      recovered := fun id => fleet.recovered id ||
        fleet.table.rows.any fun job => job.id == id && op.touched fleet.table job }

def Reachable (fleet : Fleet Json) : Prop :=
  Library.Reached (fun a action b => a.step action = some b) initial fleet

def IsLatest (fleet : Fleet Json) (attempt : Attempt) : Prop :=
  attempt.claim = (fleet.claimants attempt.jobId).length ∧
    fleet.recovered attempt.jobId = false

def TakesEffect (fleet : Fleet Json) (slot : SlotId) (attempt : Attempt)
    (report : Report Json) : Prop :=
  report.answer slot.process attempt.jobId fleet.table = true ∨
    ((report.op slot.process attempt.jobId).step fleet.table).rows ≠ fleet.table.rows

end Fleet

end CareerProjects.JobQueue
