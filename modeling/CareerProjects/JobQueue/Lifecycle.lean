import CareerProjects.JobQueue.Runs

/-! The lifecycle of a job row. The invariant ties the status to the attempt counter
and to the nullable columns; each writer restores it from its guard alone, and the
bound on the attempts comes from the retry decision of the two writers that
reschedule: a row is claimable only with an attempt left. -/

namespace CareerProjects.JobQueue

variable {Json : Type}

/-- What holds of a row that has been claimed `claims` times. -/
structure Lifecycle (claims : Nat) (job : Job Json) : Prop where
  attempts : job.attemptCount = claims
  startable : 1 ≤ job.maxAttempts
  bounded : job.attemptCount ≤ job.maxAttempts
  queued : job.status = .queued → job.attemptCount = 0
  running : job.status = .running →
    1 ≤ job.attemptCount ∧ job.workerId.isSome ∧ job.leaseExpiresAt.isSome ∧
      job.heartbeatAt.isSome ∧ job.startedAt.isSome ∧
      job.completedAt = none ∧ job.result = none
  retryScheduled : job.status = .retryScheduled →
    1 ≤ job.attemptCount ∧ job.attemptCount < job.maxAttempts ∧
      job.workerId = none ∧ job.leaseExpiresAt = none ∧ job.heartbeatAt = none ∧
      job.completedAt = none ∧ job.result = none
  finished : job.status.terminal = true →
    job.completedAt.isSome ∧ job.leaseExpiresAt = none ∧ job.heartbeatAt = none
  resultKept : job.result.isSome → job.status = .succeeded

theorem claimable_status {queues : List String} {claimedAt : Time} {job : Job Json}
    (h : claimable queues claimedAt job = true) :
    job.status = .queued ∨ job.status = .retryScheduled := by
  simp only [claimable, Bool.and_eq_true, Bool.or_eq_true, beq_iff_eq] at h
  exact h.1.1

theorem ownedRow_iff {jobId : Uuid} {workerId : String} {now : Time} {job : Job Json} :
    ownedRow jobId workerId now job = true ↔
      job.id = jobId ∧ job.status = .running ∧ job.workerId = some workerId ∧
        ∃ lease, job.leaseExpiresAt = some lease ∧ now < lease := by
  simp only [ownedRow, Bool.and_eq_true, beq_iff_eq, Option.any_eq_true, decide_eq_true_eq,
    and_assoc]

theorem stale_status {recoveredAt : Time} {job : Job Json}
    (h : stale recoveredAt job = true) : job.status = .running := by
  simp only [stale, Bool.and_eq_true, beq_iff_eq] at h
  exact h.1

namespace Lifecycle

variable {claims : Nat} {job : Job Json}

theorem created (data : JobCreate Json) (id : Uuid) (now : Time) :
    Lifecycle 0 (addJob data id now) where
  attempts := rfl
  startable := data.attemptsRange.1
  bounded := Nat.zero_le _
  queued _ := rfl
  running h := by cases h
  retryScheduled h := by cases h
  finished h := by cases h
  resultKept h := by cases h

theorem has_attempt_left (h : Lifecycle claims job)
    (claimable : job.status = .queued ∨ job.status = .retryScheduled) :
    job.attemptCount < job.maxAttempts := by
  rcases claimable with queued | scheduled
  · have none_yet := h.queued queued
    have := h.startable
    omega
  · exact (h.retryScheduled scheduled).2.1

theorem claimed (h : Lifecycle claims job) (call : ClaimJobs)
    (guard : claimable call.queues call.claimedAt job = true) :
    Lifecycle (claims + 1) (call.write.apply job) where
  attempts := congrArg (· + 1) h.attempts
  startable := h.startable
  bounded := h.has_attempt_left (claimable_status guard)
  queued status := by cases status
  running _ := ⟨Nat.le_add_left 1 _, rfl, rfl, rfl, rfl, rfl, rfl⟩
  retryScheduled status := by cases status
  finished status := by cases status
  resultKept result := by cases result

theorem renewed (h : Lifecycle claims job) (call : RenewLease)
    (running : job.status = .running) : Lifecycle claims (call.write.apply job) where
  attempts := h.attempts
  startable := h.startable
  bounded := h.bounded
  queued := h.queued
  running status := by
    obtain ⟨count, worker, -, -, started, rest⟩ := h.running status
    exact ⟨count, worker, rfl, rfl, started, rest⟩
  retryScheduled status := by
    have scheduled : job.status = .retryScheduled := status
    rw [running] at scheduled
    cases scheduled
  finished status := by
    have terminal : job.status.terminal = true := status
    rw [running] at terminal
    cases terminal
  resultKept := h.resultKept

theorem succeeded (h : Lifecycle claims job) (call : MarkSucceeded Json) :
    Lifecycle claims (call.write.apply job) where
  attempts := h.attempts
  startable := h.startable
  bounded := h.bounded
  queued status := by cases status
  running status := by cases status
  retryScheduled status := by cases status
  finished _ := ⟨rfl, rfl, rfl⟩
  resultKept _ := rfl

/-- Both `mark_failed` and `recover_stale_jobs` end an attempt: the row goes back to
the queue if an attempt is left and becomes a dead letter otherwise. -/
theorem attempt_ended (h : Lifecycle claims job) (running : job.status = .running)
    {row : Job Json} (count : row.attemptCount = job.attemptCount)
    (max : row.maxAttempts = job.maxAttempts) (lease : row.leaseExpiresAt = none)
    (heartbeat : row.heartbeatAt = none) (result : row.result = none)
    (decision :
      (row.status = .retryScheduled ∧ job.attemptCount < job.maxAttempts ∧
        row.workerId = none ∧ row.completedAt = none) ∨
      (row.status = .deadLettered ∧ row.completedAt.isSome)) :
    Lifecycle claims row where
  attempts := count.trans h.attempts
  startable := max ▸ h.startable
  bounded := by rw [count, max]; exact h.bounded
  queued status := by
    rcases decision with ⟨scheduled, -⟩ | ⟨dead, -⟩
    · rw [status] at scheduled; cases scheduled
    · rw [status] at dead; cases dead
  running status := by
    rcases decision with ⟨scheduled, -⟩ | ⟨dead, -⟩
    · rw [status] at scheduled; cases scheduled
    · rw [status] at dead; cases dead
  retryScheduled status := by
    rcases decision with ⟨-, left, worker, completed⟩ | ⟨dead, -⟩
    · rw [count, max]
      exact ⟨(h.running running).1, left, worker, lease, heartbeat, completed, result⟩
    · rw [status] at dead; cases dead
  finished status := by
    rcases decision with ⟨scheduled, -⟩ | ⟨-, completed⟩
    · rw [scheduled] at status; cases status
    · exact ⟨completed, lease, heartbeat⟩
  resultKept some_result := by rw [result] at some_result; cases some_result

theorem failed (h : Lifecycle claims job) (call : MarkFailed)
    (running : job.status = .running) : Lifecycle claims (call.write.apply job) := by
  by_cases retry : shouldRetryJob call.retryable job.attemptCount job.maxAttempts = true
  · have left : job.attemptCount < job.maxAttempts := by
      simp only [shouldRetryJob, Bool.and_eq_true, decide_eq_true_eq] at retry
      exact retry.2
    refine h.attempt_ended running ?_ ?_ ?_ ?_ ?_ (.inl ⟨?_, left, ?_, ?_⟩) <;>
      simp [MarkFailed.write, retry]
  · refine h.attempt_ended running ?_ ?_ ?_ ?_ ?_ (.inr ⟨?_, ?_⟩) <;>
      simp [MarkFailed.write, retry]

theorem recovered (h : Lifecycle claims job) (call : RecoverStaleJobs)
    (running : job.status = .running) : Lifecycle claims (call.write.apply job) := by
  by_cases retry : shouldRetryJob true job.attemptCount job.maxAttempts = true
  · have left : job.attemptCount < job.maxAttempts := by
      simpa [shouldRetryJob] using retry
    refine h.attempt_ended running ?_ ?_ ?_ ?_ ?_ (.inl ⟨?_, left, ?_, ?_⟩) <;>
      simp [RecoverStaleJobs.write, retry]
  · refine h.attempt_ended running ?_ ?_ ?_ ?_ ?_ (.inr ⟨?_, ?_⟩) <;>
      simp [RecoverStaleJobs.write, retry]

end Lifecycle

namespace QueueOp

theorem lifecycle_write {op : QueueOp Json} {table : JobTable Json} {job : Job Json}
    {claims : Nat} (h : Lifecycle claims job) (member : job ∈ table.rows)
    (touch : op.touched table job = true) :
    Lifecycle (claims + (op.claims table job.id).toNat) (op.write.apply job) := by
  have guard := touched_guard member touch
  cases op with
  | createJob => cases touch
  | claimJobs call =>
    rw [claims_eq_touched, touch]
    exact h.claimed call guard
  | renewLease call => exact h.renewed call (ownedRow_iff.mp guard).2.1
  | markSucceeded call => exact h.succeeded call
  | markFailed call => exact h.failed call (ownedRow_iff.mp guard).2.1
  | recoverStaleJobs call => exact h.recovered call (stale_status guard)

theorem claims_of_untouched {op : QueueOp Json} {table : JobTable Json} {job : Job Json}
    (untouched : op.touched table job = false) : op.claims table job.id = false := by
  cases op with
  | claimJobs call => rw [claims_eq_touched, untouched]
  | _ => rfl

theorem timesClaimed_of_absent {ops : List (QueueOp Json)} {id : Uuid}
    (absent : ∀ job ∈ (run ops).rows, job.id ≠ id) : timesClaimed id .empty ops = 0 := by
  induction ops using List.reverseRecOn with
  | nil => rfl
  | append_singleton ops op ih =>
    have before : ∀ job ∈ (run ops).rows, job.id ≠ id := by
      intro job member same
      rw [run_append_singleton] at absent
      refine absent _ (mem_step_of_mem member) ?_
      split
      · rw [op.write.keepsId, same]
      · exact same
    rw [timesClaimed_append_singleton, ih before, Nat.zero_add]
    exact congrArg Bool.toNat (claims_of_not_mem before)

theorem lifecycle_run (ops : List (QueueOp Json)) :
    ∀ job ∈ (run ops).rows, Lifecycle (timesClaimed job.id .empty ops) job := by
  induction ops using List.reverseRecOn with
  | nil => intro job member; cases member
  | append_singleton ops op ih =>
    intro row member
    rw [run_append_singleton] at member
    rw [timesClaimed_append_singleton]
    rcases mem_step member with ⟨job, old, untouched, rfl⟩ | ⟨job, old, touch, -, rfl⟩ |
      ⟨data, id, now, rfl, rfl, absent⟩
    · have unclaimed := claims_of_untouched untouched
      simp only [run] at unclaimed
      simpa [unclaimed] using ih row old
    · rw [op.write.keepsId]
      exact lifecycle_write (ih job old) old touch
    · rw [addJob, timesClaimed_of_absent absent]
      exact .created data id now

theorem untouched_of_terminal {op : QueueOp Json} {table : JobTable Json} {job : Job Json}
    (member : job ∈ table.rows) (terminal : job.status.terminal = true) :
    op.touched table job = false := by
  by_contra touch
  have guard := touched_guard member (by simpa using touch)
  have started : job.status = .queued ∨ job.status = .retryScheduled ∨ job.status = .running := by
    cases op with
    | createJob => cases guard
    | claimJobs => exact (claimable_status guard).imp_right .inl
    | renewLease => exact .inr (.inr (ownedRow_iff.mp guard).2.1)
    | markSucceeded => exact .inr (.inr (ownedRow_iff.mp guard).2.1)
    | markFailed => exact .inr (.inr (ownedRow_iff.mp guard).2.1)
    | recoverStaleJobs => exact .inr (.inr (stale_status guard))
  rcases started with status | status | status <;> rw [status] at terminal <;> cases terminal

theorem terminal_run {ops : List (QueueOp Json)} {job : Job Json}
    (member : job ∈ (run ops).rows) (terminal : job.status.terminal = true)
    (later : List (QueueOp Json)) : job ∈ (run (ops ++ later)).rows := by
  induction later using List.reverseRecOn with
  | nil => simpa using member
  | append_singleton later op ih =>
    rw [← List.append_assoc, run_append_singleton]
    simpa [untouched_of_terminal ih terminal] using @mem_step_of_mem _ op _ _ ih

end QueueOp

/-- The row lifecycle over every run of the queue, and its absorbing end: a finished
row is found unchanged after any further transactions. -/
theorem job_lifecycle (ops : List (QueueOp Json)) (job : Job Json)
    (member : job ∈ (QueueOp.run ops).rows) :
    Lifecycle (QueueOp.timesClaimed job.id .empty ops) job ∧
      (job.status.terminal = true →
        ∀ later, (QueueOp.run (ops ++ later)).find job.id = some job) :=
  ⟨QueueOp.lifecycle_run ops job member, fun terminal later =>
    JobTable.find_eq_some.mpr ⟨QueueOp.terminal_run member terminal later, rfl⟩⟩

/-- One job is submitted, claimed once, and reported as failed for good. -/
def deadLetterRun : List (QueueOp String) :=
  [.createJob echoJob 7 0,
    .claimJobs ⟨"worker-a", ["default"], 1, 30, 1, fun _ => false⟩,
    .markFailed ⟨7, "worker-a", "InvalidTaskPayloadError", false, 5, 300, 2⟩]

def deadLetterRow : Job String where
  id := 7
  queue := "default"
  taskName := "echo"
  payload := "{}"
  status := .deadLettered
  priority := 0
  idempotencyKey := none
  attemptCount := 1
  maxAttempts := 3
  availableAt := 0
  workerId := some "worker-a"
  result := none
  lastError := some "InvalidTaskPayloadError"
  startedAt := some 1
  completedAt := some 2
  leaseExpiresAt := none
  heartbeatAt := none
  createdAt := 0
  updatedAt := 2

theorem job_lifecycle_deadLetterRow :
    Lifecycle (QueueOp.timesClaimed 7 .empty deadLetterRun) deadLetterRow ∧
      ∀ later, (QueueOp.run (deadLetterRun ++ later)).find 7 = some deadLetterRow := by
  obtain ⟨lifecycle, final⟩ := job_lifecycle deadLetterRun deadLetterRow (by decide +kernel)
  exact ⟨lifecycle, final rfl⟩

end CareerProjects.JobQueue
