import Mathlib.Algebra.Order.Field.Basic
import Mathlib.Tactic.Linarith
import CareerProjects.JobQueue.Recovery

/-! Retry backoff over runs of the queue. A job that failed waits in its row until a claim whose clock has
reached the end of the delay; the delay grows with the number of claims, however the attempts ended. -/

namespace CareerProjects.JobQueue

variable {Json : Type}

theorem calculateRetryDelaySeconds_le (attemptCount : Nat) (base max : ℚ) :
    calculateRetryDelaySeconds attemptCount base max ≤ max :=
  min_le_right _ _

theorem calculateRetryDelaySeconds_mono {base : ℚ} (positive : 0 < base) (max : ℚ) {n m : Nat} (ordered : n ≤ m) :
    calculateRetryDelaySeconds n base max ≤ calculateRetryDelaySeconds m base max := by
  have exponent : n - 1 ≤ m - 1 := by omega
  have power : (2 : ℚ) ^ (n - 1) ≤ 2 ^ (m - 1) := pow_le_pow_right₀ (by norm_num) exponent
  have scaled : base * 2 ^ (n - 1) ≤ base * 2 ^ (m - 1) := mul_le_mul_of_nonneg_left power positive.le
  exact min_le_min_right max scaled

namespace QueueOp

variable {ops between : List (QueueOp Json)} {table : JobTable Json} {job : Job Json} {id : Uuid}

theorem timesClaimed_append (id : Uuid) (table : JobTable Json) (ops later : List (QueueOp Json)) :
    timesClaimed id table (ops ++ later) = timesClaimed id table ops +
      timesClaimed id (ops.foldl (fun table op => op.step table) table) later := by
  induction ops generalizing table with
  | nil => simp [timesClaimed]
  | cons op ops ih =>
    simp only [List.cons_append, timesClaimed, ih, List.foldl_cons]
    omega

theorem run_append (ops later : List (QueueOp Json)) :
    run (ops ++ later) = later.foldl (fun table op => op.step table) (run ops) := by
  simp [run]

theorem untouched_of_scheduled {op : QueueOp Json} (member : job ∈ table.rows)
    (scheduled : job.status = .retryScheduled) (unclaimed : op.claims table job.id = false) :
    op.touched table job = false := by
  by_contra touch
  have touch' : op.touched table job = true := by simpa using touch
  have guard := touched_guard member touch'
  have running : job.status = .running := by
    cases op with
    | createJob => cases guard
    | claimJobs call =>
      rw [claims_eq_touched, touch'] at unclaimed
      cases unclaimed
    | renewLease => exact (ownedRow_iff.mp guard).2.1
    | markSucceeded => exact (ownedRow_iff.mp guard).2.1
    | markFailed => exact (ownedRow_iff.mp guard).2.1
    | recoverStaleJobs => exact stale_status guard
  rw [scheduled] at running
  cases running

theorem scheduled_run (member : job ∈ table.rows) (scheduled : job.status = .retryScheduled)
    (unclaimed : timesClaimed job.id table between = 0) :
    job ∈ (between.foldl (fun table op => op.step table) table).rows := by
  induction between generalizing table with
  | nil => exact member
  | cons op between ih =>
    rw [timesClaimed, Nat.add_eq_zero_iff, Bool.toNat_eq_zero] at unclaimed
    have untouched := untouched_of_scheduled member scheduled unclaimed.1
    have kept := @mem_step_of_mem _ op _ _ member
    rw [untouched, if_neg Bool.false_ne_true] at kept
    exact ih kept unclaimed.2

theorem available_of_claims {call : ClaimJobs} (member : job ∈ table.rows)
    (claimed : (claimJobs call).claims table job.id = true) : job.availableAt ≤ call.claimedAt := by
  rw [claims_eq_touched] at claimed
  have guard := touched_guard member claimed
  simp only [QueueOp.guard, claimable, Bool.and_eq_true, decide_eq_true_eq] at guard
  exact guard.2

/-- A retryable `mark_failed` that takes effect after the transactions before it, on an attempt that is
not the last. -/
structure Rescheduled (base max : ℚ) (before : List (QueueOp Json)) (call : MarkFailed) (job : Job Json) :
    Prop where
  member : job ∈ (run before).rows
  owned : ownedRow call.jobId call.workerId call.failedAt job = true
  retryable : call.retryable = true
  attemptLeft : job.attemptCount < job.maxAttempts
  baseDelay : call.retryBaseDelaySeconds = base
  maxDelay : call.retryMaxDelaySeconds = max

def grantedDelay (before : List (QueueOp Json)) (call : MarkFailed) : Option ℚ :=
  ((run (before ++ [.markFailed call])).find call.jobId).map fun row => row.availableAt - call.failedAt

variable {base max : ℚ} {before : List (QueueOp Json)} {call : MarkFailed}
  {claims : Nat}

theorem Rescheduled.written (failed : Rescheduled base max before call job) :
    call.write.apply job ∈ (run (before ++ [.markFailed call])).rows := by
  have kept := @mem_step_of_mem _ (.markFailed call) _ _ failed.member
  rw [run_append_singleton]
  rwa [touched, if_pos failed.owned] at kept

theorem Rescheduled.write_eq (failed : Rescheduled base max before call job) :
    (call.write.apply job).status = .retryScheduled ∧
      (call.write.apply job).availableAt =
        call.failedAt + calculateRetryDelaySeconds job.attemptCount base max := by
  have retry : shouldRetryJob call.retryable job.attemptCount job.maxAttempts = true := by
    simp [shouldRetryJob, failed.retryable, failed.attemptLeft]
  simp [MarkFailed.write, retry, failed.baseDelay, failed.maxDelay]

theorem Rescheduled.id_eq (failed : Rescheduled base max before call job) : job.id = call.jobId :=
  (ownedRow_iff.mp failed.owned).1

theorem Rescheduled.attempts (failed : Rescheduled base max before call job) :
    job.attemptCount = timesClaimed job.id .empty before ∧ 1 ≤ job.attemptCount := by
  have lifecycle := lifecycle_run before job failed.member
  exact ⟨lifecycle.attempts, (lifecycle.running (ownedRow_iff.mp failed.owned).2.1).1⟩

theorem Rescheduled.granted (failed : Rescheduled base max before call job) :
    grantedDelay before call = some (calculateRetryDelaySeconds job.attemptCount base max) := by
  have found : (run (before ++ [.markFailed call])).find call.jobId = some (call.write.apply job) := by
    refine JobTable.find_eq_some.mpr ⟨failed.written, ?_⟩
    rw [call.write.keepsId, failed.id_eq]
  rw [grantedDelay, found, Option.map_some, failed.write_eq.2, add_sub_cancel_left]

theorem Rescheduled.next_claim (failed : Rescheduled base max before call job) {claim : ClaimJobs}
    (unclaimed : timesClaimed job.id (run (before ++ [.markFailed call])) between = 0)
    (claimed : (claimJobs claim).claims (run (before ++ .markFailed call :: between)) job.id = true) :
    call.failedAt + calculateRetryDelaySeconds job.attemptCount base max ≤ claim.claimedAt := by
  rw [List.append_cons, run_append] at claimed
  rw [← call.write.keepsId job] at unclaimed claimed
  have waiting := scheduled_run failed.written failed.write_eq.1 unclaimed
  have available := available_of_claims waiting claimed
  rwa [failed.write_eq.2] at available

theorem Rescheduled.delay_mono {later : MarkFailed} {latest : Job Json} (positive : 0 < base)
    (failed : Rescheduled base max before call job)
    (again : Rescheduled base max (before ++ .markFailed call :: between) later latest)
    (same : latest.id = job.id) :
    calculateRetryDelaySeconds job.attemptCount base max ≤
      calculateRetryDelaySeconds latest.attemptCount base max := by
  refine calculateRetryDelaySeconds_mono positive max ?_
  rw [failed.attempts.1, again.attempts.1, same, timesClaimed_append]
  omega

/-- Whether the attempt that this transaction ends, if it is one, may be tried again. -/
def retries : QueueOp Json → Bool
  | .markSucceeded _ => false
  | .markFailed call => call.retryable
  | _ => true

/-- Every attempt of the job that has ended, ended in a retryable failure or by its lease. -/
def EndsRetryably (id : Uuid) (ops : List (QueueOp Json)) : Prop :=
  ∀ before op after, ops = before ++ op :: after →
    (∃ job ∈ (run before).rows, job.id = id ∧ op.touched (run before) job = true) → op.retries = true

theorem endsRetryably_of_all (all : ∀ op ∈ ops, op.retries = true) : EndsRetryably id ops := by
  intro before op after split _
  refine all op ?_
  rw [split]
  exact List.mem_append_right _ List.mem_cons_self

structure Retried (job : Job Json) : Prop where
  unfinished : job.status ≠ .succeeded
  exhausted : job.status = .deadLettered → job.attemptCount = job.maxAttempts

theorem retried_of_decision {row : Job Json} (lifecycle : Lifecycle claims job)
    (count : row.attemptCount = job.attemptCount) (limit : row.maxAttempts = job.maxAttempts)
    (decision : row.status = if job.attemptCount < job.maxAttempts then .retryScheduled else .deadLettered) :
    Retried row := by
  have bounded := lifecycle.bounded
  by_cases left : job.attemptCount < job.maxAttempts
  · rw [if_pos left] at decision
    exact ⟨by simp [decision], fun dead => by simp [decision] at dead⟩
  · rw [if_neg left] at decision
    refine ⟨by simp [decision], fun _ => ?_⟩
    omega

theorem retried_write {op : QueueOp Json} (lifecycle : Lifecycle claims job) (guard : op.guard job = true)
    (retries : op.retries = true) : Retried (op.write.apply job) := by
  cases op with
  | createJob => cases guard
  | claimJobs call => exact ⟨by simp [write, ClaimJobs.write], fun dead => by cases dead⟩
  | renewLease call =>
    have running : ((renewLease call).write.apply job).status = .running := (ownedRow_iff.mp guard).2.1
    exact ⟨by simp [running], fun dead => by simp [running] at dead⟩
  | markSucceeded call => cases retries
  | markFailed call =>
    have retryable : call.retryable = true := retries
    refine retried_of_decision lifecycle ?_ ?_ ?_ <;>
      by_cases left : job.attemptCount < job.maxAttempts <;>
      simp [write, MarkFailed.write, shouldRetryJob, retryable, left]
  | recoverStaleJobs call =>
    refine retried_of_decision lifecycle ?_ ?_ ?_ <;>
      by_cases left : job.attemptCount < job.maxAttempts <;>
      simp [write, RecoverStaleJobs.write, shouldRetryJob, left]

theorem EndsRetryably.init {op : QueueOp Json} (ends : EndsRetryably id (ops ++ [op])) :
    EndsRetryably id ops := by
  intro before other after split took
  refine ends before other (after ++ [op]) ?_ took
  rw [split, List.append_assoc, List.cons_append]

theorem retried_run (ops : List (QueueOp Json)) :
    ∀ job ∈ (run ops).rows, EndsRetryably job.id ops → Retried job := by
  induction ops using List.reverseRecOn with
  | nil =>
    intro job member
    cases member
  | append_singleton ops op ih =>
    intro row member ends
    rw [run_append_singleton] at member
    rcases mem_step member with ⟨job, old, -, rfl⟩ | ⟨job, old, touch, guard, rfl⟩ | ⟨data, id, now, -, rfl, -⟩
    · exact ih row old ends.init
    · rw [op.write.keepsId] at ends
      have retries := ends ops op [] rfl ⟨job, old, rfl, touch⟩
      exact retried_write (lifecycle_run ops job old) guard retries
    · exact ⟨by simp [addJob], fun dead => by cases dead⟩

theorem exhausted_iff (member : job ∈ (run ops).rows) (ends : EndsRetryably job.id ops) :
    job.status = .deadLettered ↔
      timesClaimed job.id .empty ops = job.maxAttempts ∧ job.status ≠ .running := by
  have lifecycle := lifecycle_run ops job member
  have retried := retried_run ops job member ends
  rw [← lifecycle.attempts]
  constructor
  · intro dead
    exact ⟨retried.exhausted dead, by simp [dead]⟩
  · rintro ⟨all, stopped⟩
    have started := lifecycle.startable
    cases status : job.status with
    | queued =>
      have none_yet := lifecycle.queued status
      omega
    | running => exact absurd status stopped
    | retryScheduled =>
      have left := (lifecycle.retryScheduled status).2.1
      omega
    | succeeded => exact absurd status retried.unfinished
    | deadLettered => rfl
    | cancelled => exact absurd status (never_cancelled ops job member)

end QueueOp

open QueueOp

/-- Backoff over every run: the next claim after a retryable failure waits for the capped exponential
delay of its attempt, which is the number of claims so far; the delays of a job never shrink and never
exceed the maximum; and a job that is only ever retried is a dead letter exactly when its last attempt has
ended. -/
theorem retry_backoff {base max : ℚ} (positive : 0 < base) :
    (∀ (before : List (QueueOp Json)) (call : MarkFailed) (job : Job Json),
      Rescheduled base max before call job →
        1 ≤ job.attemptCount ∧ job.attemptCount = timesClaimed job.id .empty before ∧
        grantedDelay before call = some (min (base * 2 ^ (job.attemptCount - 1)) max) ∧
        ∀ (between : List (QueueOp Json)) (claim : ClaimJobs),
          timesClaimed job.id (run (before ++ [.markFailed call])) between = 0 →
          (QueueOp.claimJobs claim).claims (run (before ++ .markFailed call :: between)) job.id = true →
            call.failedAt + min (base * 2 ^ (job.attemptCount - 1)) max ≤ claim.claimedAt) ∧
    (∀ (before between : List (QueueOp Json)) (call later : MarkFailed) (job latest : Job Json),
      Rescheduled base max before call job →
      Rescheduled base max (before ++ .markFailed call :: between) later latest → latest.id = job.id →
        ∃ delay delay', grantedDelay before call = some delay ∧
          grantedDelay (before ++ .markFailed call :: between) later = some delay' ∧
          delay ≤ delay' ∧ delay' ≤ max) ∧
    ∀ (ops : List (QueueOp Json)) (job : Job Json), job ∈ (run ops).rows → EndsRetryably job.id ops →
      (job.status = .deadLettered ↔
        timesClaimed job.id .empty ops = job.maxAttempts ∧ job.status ≠ .running) := by
  refine ⟨?_, ?_, fun ops job member ends => exhausted_iff member ends⟩
  · intro before call job failed
    refine ⟨failed.attempts.2, failed.attempts.1, failed.granted, ?_⟩
    intro between claim unclaimed claimed
    exact failed.next_claim unclaimed claimed
  · intro before between call later job latest failed again same
    exact ⟨_, _, failed.granted, again.granted, failed.delay_mono positive again same,
      calculateRetryDelaySeconds_le _ _ _⟩

def expiredRun : List (QueueOp String) :=
  [.createJob echoJob 7 0,
    .claimJobs ⟨"worker-a", ["default"], 1, 30, 1, fun _ => false⟩,
    .recoverStaleJobs ⟨10, 40, fun _ => false⟩,
    .claimJobs ⟨"worker-b", ["default"], 1, 30, 41, fun _ => false⟩]

def secondAttempt : Job String where
  id := 7
  queue := "default"
  taskName := "echo"
  payload := "{}"
  status := .running
  priority := 0
  idempotencyKey := none
  attemptCount := 2
  maxAttempts := 3
  availableAt := 40
  workerId := some "worker-b"
  result := none
  lastError := some recoveryError
  startedAt := some 41
  completedAt := none
  leaseExpiresAt := some 71
  heartbeatAt := some 41
  createdAt := 0
  updatedAt := 41

def failsAt (failedAt : Time) : MarkFailed := ⟨7, "worker-b", "TimeoutError", true, 5, 300, failedAt⟩

/-- The second attempt fails, the third is claimed after its delay and fails too. -/
def exhaustedRun : List (QueueOp String) :=
  expiredRun ++ [.markFailed (failsAt 42),
    .claimJobs ⟨"worker-b", ["default"], 1, 30, 60, fun _ => false⟩,
    .markFailed (failsAt 61)]

theorem retry_backoff_exhaustedRun :
    (∀ claim : ClaimJobs, (QueueOp.claimJobs claim).claims (run (expiredRun ++ [.markFailed (failsAt 42)])) 7 = true →
      52 ≤ claim.claimedAt) ∧
    ∃ job ∈ (run exhaustedRun).rows, job.status = .deadLettered ∧ timesClaimed job.id .empty exhaustedRun = 3 := by
  have backoff := @retry_backoff String 5 300 (by norm_num)
  constructor
  · intro claim claimed
    have failed : Rescheduled 5 300 expiredRun (failsAt 42) secondAttempt :=
      ⟨by decide +kernel, by decide +kernel, rfl, by decide, rfl, rfl⟩
    have delayed := (backoff.1 expiredRun (failsAt 42) secondAttempt failed).2.2.2 [] claim rfl claimed
    norm_num [secondAttempt, failsAt] at delayed
    exact delayed
  · have columns : (run exhaustedRun).rows.map (fun job => (job.maxAttempts, job.status)) = [(3, .deadLettered)] := by
      decide +kernel
    obtain ⟨job, single, facts⟩ := List.map_eq_singleton_iff.mp columns
    rw [Prod.mk.injEq] at facts
    have member : job ∈ (run exhaustedRun).rows := by simp [single]
    have claims := ((backoff.2.2 exhaustedRun job member (endsRetryably_of_all (by decide))).mp facts.2).1
    exact ⟨job, member, facts.2, claims.trans facts.1⟩

end CareerProjects.JobQueue
