import CareerProjects.JobQueue.Fencing
import CareerProjects.JobQueue.Recovery
import CareerProjects.JobQueue.Worker
import CareerProjects.Library.Potentials
import Mathlib.Algebra.BigOperators.Ring.Finset

/-! The counters of the workers account for the table. Every increment stands for a row that a transaction wrote, and
what a transaction does to a quantity of the rows is read off its increments. -/

namespace CareerProjects.JobQueue
open Library

variable {Json : Type}

namespace QueueOp

/-- The increment that a row stands for, by what the transaction made of it. -/
def metric : QueueOp Json → Job Json → Metric
  | .createJob .., _ => .leaseRenewals .renewed
  | .claimJobs _, _ => .jobsClaimed
  | .renewLease _, _ => .leaseRenewals .renewed
  | .markSucceeded _, row => .jobTransitions row.status
  | .markFailed _, row => .jobTransitions row.status
  | .recoverStaleJobs _, row => .staleJobRecoveries row.status

theorem sum_step (f : Job Json → ℤ) (created : ∀ data id now, f (addJob data id now) = 0) (op : QueueOp Json)
    (table : JobTable Json) : ((op.step table).rows.map f).sum = (table.rows.map f).sum +
      ((table.rows.filter (op.touched table)).map fun job => f (op.write.apply job) - f job).sum := by
  by_cases create : ∃ data id now, op = .createJob data id now
  · obtain ⟨data, id, now, rfl⟩ := create
    have untouched : table.rows.filter ((createJob data id now).touched table) = [] := by
      simp [touched]
    rw [untouched]
    rcases step_createJob data id now table with rows | rows
    · simp [rows]
    · simp [rows, created]
  · rw [step_rows op table fun data id now equal => create ⟨data, id, now, equal⟩]
    exact sum_rewritten f (op.touched table) op.write.apply table.rows

theorem filter_holdsRow {table : JobTable Json} {jobs : List (Job Json)}
    (selected : ∀ row ∈ jobs, row ∈ table.rows) (distinct : jobs.Nodup) :
    (table.rows.filter (holdsRow jobs)).Perm jobs := by
  rw [List.perm_ext_iff_of_nodup (table.nodup.filter _) distinct]
  intro job
  rw [List.mem_filter]
  constructor
  · rintro ⟨member, holds⟩
    exact (holdsRow_selected selected member).mp holds
  · intro chosen
    exact ⟨selected job chosen, (holdsRow_selected selected (selected job chosen)).mpr chosen⟩

theorem selection_nodup (qualifies : Job Json → Bool) (r : Job Json → Job Json → Prop) [DecidableRel r]
    (limit : ℕ) (table : JobTable Json) : (batch qualifies r limit table.rows).Nodup :=
  (List.nodup_append.mp (@batch_nodup _ qualifies r _ limit table.rows table.nodup)).1

theorem filter_ownedRow (table : JobTable Json) (jobId : Uuid) (workerId : String) (now : Time) :
    table.rows.filter (ownedRow jobId workerId now) = [] ∨
      ∃ job, table.rows.filter (ownedRow jobId workerId now) = [job] := by
  have distinct := table.nodup.filter (ownedRow jobId workerId now)
  cases rows : table.rows.filter (ownedRow jobId workerId now) with
  | nil => exact .inl rfl
  | cons job others =>
    refine .inr ⟨job, ?_⟩
    cases others with
    | nil => rfl
    | cons other others =>
      have first : job ∈ table.rows.filter (ownedRow jobId workerId now) := by simp [rows]
      have second : other ∈ table.rows.filter (ownedRow jobId workerId now) := by simp [rows]
      rw [List.mem_filter] at first second
      have same : job = other := JobTable.eq_of_id first.1 second.1
        ((ownedRow_iff.mp first.2).1.trans (ownedRow_iff.mp second.2).1.symm)
      rw [rows, same] at distinct
      simp at distinct

variable {g : Metric → ℤ}

theorem sum_claimed (call : ClaimJobs) (table : JobTable Json) :
    (((claimJobs call : QueueOp Json).increments table).map g).sum =
      ((table.rows.filter ((claimJobs call : QueueOp Json).touched table)).map fun _ => g .jobsClaimed).sum := by
  simp only [increments, touched, JobQueue.claimJobs]
  by_cases refused : (call.queues.isEmpty || decide (call.limit < 1)) = true
  · simp [refused]
  · have rows := filter_holdsRow (fun row hrow => (ClaimJobs.mem_selection hrow).1)
      (selection_nodup (fun job => claimable call.queues call.claimedAt job && !call.locked job.id) ClaimOrder
        call.limit.toNat table)
    simp only [refused, if_false, Bool.false_eq_true, List.length_map]
    rw [(rows.map _).sum_eq, List.map_replicate, List.map_const']

theorem sum_succeeded (call : MarkSucceeded Json) (table : JobTable Json) :
    (((markSucceeded call).increments table).map g).sum =
      ((table.rows.filter ((markSucceeded call).touched table)).map fun job =>
        g (.jobTransitions (call.write.apply job).status)).sum := by
  simp only [increments, touched, JobQueue.markSucceeded, List.countP_eq_length_filter]
  rcases filter_ownedRow table call.jobId call.workerId call.completedAt with rows | ⟨job, rows⟩
  · simp [rows]
  · simp [rows, MarkSucceeded.write]

theorem sum_failed (call : MarkFailed) (table : JobTable Json) :
    (((markFailed call : QueueOp Json).increments table).map g).sum =
      ((table.rows.filter ((markFailed call : QueueOp Json).touched table)).map fun job =>
        g (.jobTransitions (call.write.apply job).status)).sum := by
  simp only [increments, touched, JobQueue.markFailed, ← List.head?_filter]
  rcases filter_ownedRow table call.jobId call.workerId call.failedAt with rows | ⟨job, rows⟩
  · simp [rows]
  · simp [rows]

theorem recovered_status (call : RecoverStaleJobs) (job : Job Json) :
    (call.write.apply job).status =
      if shouldRetryJob true job.attemptCount job.maxAttempts then .retryScheduled else .deadLettered := by
  simp only [RecoverStaleJobs.write]
  split <;> rfl

theorem sum_kinds (retried : Job Json → Bool) (x y : ℤ) (jobs : List (Job Json)) :
    (List.replicate (jobs.countP retried) x ++ List.replicate (jobs.length - jobs.countP retried) y).sum =
      (jobs.map fun job => if retried job then x else y).sum := by
  induction jobs with
  | nil => rfl
  | cons job jobs ih =>
    have bound : jobs.countP retried ≤ jobs.length := List.countP_le_length
    rw [List.map_cons, List.sum_cons, ← ih]
    by_cases kind : retried job = true
    · rw [List.countP_cons_of_pos kind, List.length_cons, Nat.add_sub_add_right, if_pos kind,
        List.replicate_succ, List.cons_append, List.sum_cons]
    · rw [List.countP_cons_of_neg kind, List.length_cons, Nat.sub_add_comm bound, if_neg kind,
        List.replicate_succ, List.sum_append, List.sum_append, List.sum_cons]
      ring

theorem sum_recovered (call : RecoverStaleJobs) (table : JobTable Json) :
    (((recoverStaleJobs call : QueueOp Json).increments table).map g).sum =
      ((table.rows.filter ((recoverStaleJobs call : QueueOp Json).touched table)).map fun job =>
        g (.staleJobRecoveries (call.write.apply job).status)).sum := by
  simp only [increments, touched, JobQueue.recoverStaleJobs]
  by_cases refused : call.limit < 1
  · simp [refused]
  · have rows := filter_holdsRow (fun row hrow => (RecoverStaleJobs.mem_selection hrow).1)
      (selection_nodup (fun job => stale call.recoveredAt job && !call.locked job.id) RecoveryOrder
        call.limit.toNat table)
    simp only [refused, if_false, List.map_append, List.map_replicate]
    rw [(rows.map _).sum_eq]
    refine (sum_kinds _ _ _ _).trans (congrArg List.sum (List.map_congr_left fun job _ => ?_))
    rw [recovered_status]
    split <;> rfl

theorem sum_increments (renewals : ∀ outcome, g (.leaseRenewals outcome) = 0) (op : QueueOp Json)
    (table : JobTable Json) : ((op.increments table).map g).sum =
      ((table.rows.filter (op.touched table)).map fun job => g (op.metric (op.write.apply job))).sum := by
  cases op with
  | createJob => simp [increments, metric, renewals]
  | claimJobs call => exact sum_claimed call table
  | renewLease call => simp [increments, metric, renewals]
  | markSucceeded call => exact sum_succeeded call table
  | markFailed call => exact sum_failed call table
  | recoverStaleJobs call => exact sum_recovered call table

end QueueOp

/-- A quantity of a row, and what each increment says about its change. -/
structure Follows (f : Job Json → ℤ) (g : Metric → ℤ) : Prop where
  created : ∀ data id now, f (addJob data id now) = 0
  renewals : ∀ outcome, g (.leaseRenewals outcome) = 0
  processing : g .jobProcessing = 0
  written : ∀ (op : QueueOp Json) job, op.guard job = true →
    f (op.write.apply job) - f job = g (op.metric (op.write.apply job))

namespace Follows

variable {f : Job Json → ℤ} {g : Metric → ℤ}

theorem step (follows : Follows f g) (op : QueueOp Json) (table : JobTable Json) :
    ((op.step table).rows.map f).sum = (table.rows.map f).sum + ((op.increments table).map g).sum := by
  rw [QueueOp.sum_step f follows.created, QueueOp.sum_increments follows.renewals]
  congr 2
  refine List.map_congr_left fun job inside => ?_
  obtain ⟨member, touch⟩ := List.mem_filter.mp inside
  exact follows.written op job (QueueOp.touched_guard member touch)

/-- The increments that an effect makes or misses are those of its transaction. -/
def Accounts {Phase : Type} (g : Metric → ℤ) (table : JobTable Json) (effect : Effect Json Phase) : Prop :=
  ((effect.counted ++ effect.missed).map g).sum = (effect.op.elim [] fun op => (op.increments table).map g).sum

theorem accounts_goto {Phase : Type} (table : JobTable Json) (phase : Phase) :
    Accounts g table (.goto phase) := rfl

theorem accounts_call {Phase : Type} {op : QueueOp Json} {table : JobTable Json} {answered : Phase}
    {raised : String → Phase} {onError : List Metric} (silent : (onError.map g).sum = 0) (delivery : Delivery) :
    Accounts g table (.call op table answered raised onError delivery) := by
  cases delivery with
  | answered => simp [Accounts, Effect.call]
  | unanswered => simp [Accounts, Effect.call, silent]
  | failed => simp [Accounts, Effect.call, silent]

theorem accounts_slot (follows : Follows f g) {config : WorkerConfig} {workerId : String}
    {handlers : TaskHandlers Json} {stopRequested : Bool} {table : JobTable Json} {phase : SlotPhase Json}
    {event : SlotEvent} {effect : Effect Json (SlotPhase Json)}
    (taken : JobWorker.slotStep config workerId handlers stopRequested table phase event = some effect) :
    Accounts g table effect := by
  have error : ([Metric.leaseRenewals .error].map g).sum = 0 := by simp [follows.renewals]
  unfold JobWorker.slotStep at taken
  split at taken <;> cases taken
  all_goals first
    | exact accounts_goto _ _
    | exact accounts_call rfl _
    | exact accounts_call error _
    | simp [Accounts, follows.processing]

theorem accounts_recovery {stopRequested : Bool} {table : JobTable Json} {phase : RecoveryPhase}
    {event : RecoveryEvent} {effect : Effect Json RecoveryPhase}
    (taken : JobWorker.recoveryStep stopRequested table phase event = some effect) : Accounts g table effect := by
  unfold JobWorker.recoveryStep at taken
  split at taken <;> cases taken
  · exact accounts_goto _ _
  · exact accounts_call rfl _
  · exact accounts_goto _ _

/-- The rows have as much of the quantity as the increments say, counted or missed. -/
def Balanced (f : Job Json → ℤ) (g : Metric → ℤ) (system : WorkerSystem Json) : Prop :=
  (system.table.rows.map f).sum = ((system.counted ++ system.missed).map fun entry => g entry.2).sum

theorem balanced_after {Phase : Type} (follows : Follows f g) {system : WorkerSystem Json}
    (balanced : Balanced f g system) {workerId : String} {effect : Effect Json Phase} {worker : Worker Json}
    (accounts : Accounts g system.table effect) : Balanced f g (system.after workerId effect worker) := by
  have table : ((system.after workerId effect worker).table.rows.map f).sum =
      (system.table.rows.map f).sum + ((effect.counted ++ effect.missed).map g).sum := by
    rw [accounts]
    unfold WorkerSystem.after Effect.tableAfter
    cases effect.op with
    | none => simp
    | some op => exact follows.step op system.table
  unfold Balanced at balanced ⊢
  rw [table, balanced]
  simp only [WorkerSystem.after, List.map_append, List.sum_append, List.map_map, Function.comp_def]
  ring

theorem balanced_step (follows : Follows f g) {configs : String → WorkerConfig} {handlers : TaskHandlers Json}
    {system after : WorkerSystem Json} {action : WorkerSystem.Action Json} (balanced : Balanced f g system)
    (taken : system.step configs handlers action = some after) : Balanced f g after := by
  cases action with
  | createJob data id now =>
    cases taken
    have created := follows.step (.createJob data id now) system.table
    unfold Balanced
    rw [created, balanced]
    simp [QueueOp.increments]
  | slot workerId number event =>
    simp only [WorkerSystem.step, Option.ite_none_right_eq_some, Option.map_eq_some_iff] at taken
    obtain ⟨-, effect, moves, rfl⟩ := taken
    exact balanced_after follows balanced (accounts_slot follows moves)
  | recovery workerId event =>
    obtain ⟨effect, moves, rfl⟩ := Option.map_eq_some_iff.mp taken
    exact balanced_after follows balanced (accounts_recovery moves)
  | requestStop workerId =>
    cases taken
    exact balanced

theorem balanced (follows : Follows f g) {configs : String → WorkerConfig} {handlers : TaskHandlers Json}
    {system : WorkerSystem Json} (reachable : system.Reachable configs handlers) : Balanced f g system :=
  reachable.invariant rfl fun _ _ _ => balanced_step follows

end Follows

def claimed : Metric → ℤ
  | .jobsClaimed => 1
  | _ => 0

/-- The increments that say that a job came to this status. -/
def reached (status : JobStatus) : Metric → ℤ
  | .jobTransitions other => if other = status then 1 else 0
  | .staleJobRecoveries other => if other = status then 1 else 0
  | _ => 0

theorem follows_attempts : Follows (fun job : Job Json => (job.attemptCount : ℤ)) claimed where
  created _ _ _ := rfl
  renewals _ := rfl
  processing := rfl
  written op job _ := by
    cases op with
    | claimJobs => simp [QueueOp.write, ClaimJobs.write, QueueOp.metric, claimed]
    | markFailed call =>
      simp only [QueueOp.write, MarkFailed.write, QueueOp.metric, claimed]
      split <;> exact sub_self _
    | recoverStaleJobs call =>
      simp only [QueueOp.write, RecoverStaleJobs.write, QueueOp.metric, claimed]
      split <;> exact sub_self _
    | _ => exact sub_self _

theorem follows_terminal {status : JobStatus} (terminal : status.terminal = true) :
    Follows (fun job : Job Json => if job.status = status then (1 : ℤ) else 0) (reached status) where
  created data id now := if_neg (by rintro rfl; cases terminal)
  renewals _ := rfl
  processing := rfl
  written op job guard := by
    have live : ∀ other : JobStatus, other.terminal = false → other ≠ status := by
      rintro other open_ rfl
      rw [terminal] at open_
      cases open_
    cases op with
    | createJob => cases guard
    | claimJobs call =>
      have before : job.status ≠ status := by
        rcases claimable_status guard with queued | scheduled
        · exact queued ▸ live .queued rfl
        · exact scheduled ▸ live .retryScheduled rfl
      simp [QueueOp.write, ClaimJobs.write, QueueOp.metric, reached, before, live .running rfl]
    | renewLease call => exact sub_self _
    | markSucceeded call =>
      have before : job.status ≠ status := (ownedRow_iff.mp guard).2.1 ▸ live .running rfl
      simp [QueueOp.metric, reached, before]
    | markFailed call =>
      have before : job.status ≠ status := (ownedRow_iff.mp guard).2.1 ▸ live .running rfl
      simp [QueueOp.metric, reached, before]
    | recoverStaleJobs call =>
      have before : job.status ≠ status := stale_status guard ▸ live .running rfl
      simp [QueueOp.metric, reached, before]

def JobStatus.begun : JobStatus → Bool
  | .running | .succeeded | .deadLettered => true
  | _ => false

theorem follows_retries : Follows
    (fun job : Job Json => (job.attemptCount : ℤ) - if job.status.begun then 1 else 0) (reached .retryScheduled) where
  created _ _ _ := rfl
  renewals _ := rfl
  processing := rfl
  written op job guard := by
    cases op with
    | createJob => cases guard
    | claimJobs call =>
      have before : job.status.begun = false := by
        rcases claimable_status guard with queued | scheduled
        · rw [queued]; rfl
        · rw [scheduled]; rfl
      have after : JobStatus.running.begun = true := rfl
      simp [QueueOp.write, ClaimJobs.write, QueueOp.metric, reached, before, after]
    | renewLease call => exact sub_self _
    | markSucceeded call =>
      simp [QueueOp.write, MarkSucceeded.write, QueueOp.metric, reached, (ownedRow_iff.mp guard).2.1, JobStatus.begun]
    | markFailed call =>
      simp only [QueueOp.write, MarkFailed.write, QueueOp.metric, reached, (ownedRow_iff.mp guard).2.1]
      split <;> simp [JobStatus.begun]
    | recoverStaleJobs call =>
      simp only [QueueOp.write, RecoverStaleJobs.write, QueueOp.metric, reached, stale_status guard]
      split <;> simp [JobStatus.begun]

/-- The labels that no report and no recovery has. -/
def unused : Metric → Bool
  | .jobTransitions status => status != .succeeded && status != .retryScheduled && status != .deadLettered
  | .staleJobRecoveries status => status != .retryScheduled && status != .deadLettered
  | _ => false

theorem follows_unused : Follows (fun _ : Job Json => 0) fun metric => if unused metric then 1 else 0 where
  created _ _ _ := rfl
  renewals _ := rfl
  processing := rfl
  written op job _ := by
    cases op with
    | markFailed call =>
      simp only [QueueOp.write, MarkFailed.write, QueueOp.metric]
      split <;> rfl
    | recoverStaleJobs call =>
      simp only [QueueOp.write, RecoverStaleJobs.write, QueueOp.metric]
      split <;> rfl
    | _ => rfl

def SlotPhase.busy : SlotPhase Json → Bool
  | .processing .. => true
  | _ => false

def Worker.busySlots (worker : Worker Json) (concurrency : Nat) : ℕ :=
  (List.range' 1 concurrency).countP fun number => (worker.slots number).busy

namespace JobWorker

theorem busy_step {config : WorkerConfig} {workerId : String} {handlers : TaskHandlers Json} {stopRequested : Bool}
    {table : JobTable Json} {phase : SlotPhase Json} {event : SlotEvent} {effect : Effect Json (SlotPhase Json)}
    (taken : slotStep config workerId handlers stopRequested table phase event = some effect) :
    effect.counted.count .jobsClaimed + phase.busy.toNat =
      effect.counted.count .jobProcessing + effect.phase.busy.toNat := by
  unfold slotStep at taken
  split at taken <;> cases taken
  case h_1 => cases stopRequested <;> rfl
  case h_2 claimedAt locked delivery =>
    cases delivery with
    | answered =>
      rcases @claimJobs_one _ (claimCall config workerId claimedAt locked) table rfl with
        ⟨empty, -⟩ | ⟨job, one, -⟩
      · simp [Effect.call, QueueOp.increments, empty, SlotPhase.busy]
      · simp [Effect.call, QueueOp.increments, one, SlotPhase.busy]
    | _ => rfl
  case h_5 completedAt delivery =>
    cases delivery with
    | answered =>
      simp only [Effect.call, QueueOp.increments]
      split <;> rfl
    | _ => rfl
  case h_6 failedAt delivery =>
    cases delivery with
    | answered =>
      simp only [Effect.call, QueueOp.increments]
      cases (JobQueue.markFailed _ table).1 <;> rfl
    | _ => rfl
  case h_9 heartbeatAt delivery => cases delivery <;> rfl
  all_goals rfl

theorem recovery_counts {stopRequested : Bool} {table : JobTable Json} {phase : RecoveryPhase} {event : RecoveryEvent}
    {effect : Effect Json RecoveryPhase} (taken : recoveryStep stopRequested table phase event = some effect) :
    effect.counted.count .jobsClaimed = 0 ∧ effect.counted.count .jobProcessing = 0 := by
  unfold recoveryStep at taken
  split at taken <;> cases taken
  · exact ⟨rfl, rfl⟩
  · next recoveredAt locked delivery =>
    cases delivery with
    | answered => simp [Effect.call, QueueOp.increments, List.count_replicate]
    | _ => exact ⟨rfl, rfl⟩
  · exact ⟨rfl, rfl⟩

end JobWorker

namespace WorkerSystem

/-- All increments of a counter, of every process, with those that were missed. -/
def total (system : WorkerSystem Json) (metric : Metric) : ℕ :=
  (system.counted ++ system.missed).countP fun entry => entry.2 == metric

theorem sum_reached (status : JobStatus) (entries : List (String × Metric)) :
    (entries.map fun entry => reached status entry.2).sum =
      (entries.countP fun entry => entry.2 == .jobTransitions status) +
        entries.countP fun entry => entry.2 == .staleJobRecoveries status := by
  rw [← sum_indicator, ← sum_indicator, ← List.sum_map_add]
  refine congrArg List.sum (List.map_congr_left fun entry _ => ?_)
  cases entry.2 <;> simp [reached]

variable {configs : String → WorkerConfig} {handlers : TaskHandlers Json} {system : WorkerSystem Json}

theorem countP_terminal (reachable : system.Reachable configs handlers) {status : JobStatus}
    (terminal : status.terminal = true) : system.table.rows.countP (fun job => job.status == status) =
      system.total (.jobTransitions status) + system.total (.staleJobRecoveries status) := by
  have balanced := (follows_terminal terminal).balanced reachable
  rw [Follows.Balanced, sum_reached] at balanced
  have rows := sum_indicator (fun job : Job Json => job.status == status) system.table.rows
  simp only [beq_iff_eq] at rows
  rw [rows] at balanced
  exact_mod_cast balanced

theorem total_unused (reachable : system.Reachable configs handlers) {metric : Metric}
    (none_such : unused metric = true) : system.total metric = 0 := by
  have balanced := follows_unused.balanced reachable
  rw [Follows.Balanced, sum_indicator (fun entry : String × Metric => unused entry.2), List.map_const',
    List.sum_replicate, nsmul_zero] at balanced
  have never : (system.counted ++ system.missed).countP (fun entry => unused entry.2) = 0 := by
    exact_mod_cast balanced.symm
  rw [List.countP_eq_zero] at never
  refine List.countP_eq_zero.mpr fun entry member same => never entry member ?_
  rw [beq_iff_eq.mp same, none_such]

theorem cast_attempts (rows : List (Job Json)) :
    ((rows.map Job.attemptCount).sum : ℤ) = (rows.map fun job => (job.attemptCount : ℤ)).sum := by
  rw [Nat.cast_list_sum, List.map_map]
  rfl

theorem sum_attempts (reachable : system.Reachable configs handlers) :
    (system.table.rows.map Job.attemptCount).sum = system.total .jobsClaimed := by
  have balanced := follows_attempts.balanced reachable
  have entries := sum_indicator (fun entry : String × Metric => entry.2 == .jobsClaimed)
    (system.counted ++ system.missed)
  have same : ((system.counted ++ system.missed).map fun entry => claimed entry.2) =
      (system.counted ++ system.missed).map fun entry => if entry.2 == .jobsClaimed then (1 : ℤ) else 0 :=
    List.map_congr_left fun entry _ => by cases entry.2 <;> rfl
  rw [Follows.Balanced, same, entries] at balanced
  refine Int.natCast_inj.mp ?_
  rw [total, ← balanced, cast_attempts]

theorem sum_retries (reachable : system.Reachable configs handlers) :
    (system.table.rows.map Job.attemptCount).sum = system.table.rows.countP (·.status == .running) +
      system.table.rows.countP (·.status == .succeeded) + system.table.rows.countP (·.status == .deadLettered) +
      (system.total (.jobTransitions .retryScheduled) + system.total (.staleJobRecoveries .retryScheduled)) := by
  have balanced := follows_retries.balanced reachable
  have begun : (system.table.rows.map fun job => if job.status.begun then (1 : ℤ) else 0).sum =
      (system.table.rows.countP (·.status == .running) + system.table.rows.countP (·.status == .succeeded) +
        system.table.rows.countP (·.status == .deadLettered) : ℕ) := by
    push_cast
    rw [← sum_indicator, ← sum_indicator, ← sum_indicator, ← List.sum_map_add, ← List.sum_map_add]
    refine congrArg List.sum (List.map_congr_left fun job _ => ?_)
    cases job.status <;> rfl
  have split : (system.table.rows.map fun job =>
      (job.attemptCount : ℤ) - if job.status.begun then 1 else 0).sum =
        (system.table.rows.map fun job => (job.attemptCount : ℤ)).sum -
          (system.table.rows.map fun job => if job.status.begun then (1 : ℤ) else 0).sum := by
    induction system.table.rows with
    | nil => rfl
    | cons job rows ih => simp only [List.map_cons, List.sum_cons, ih]; ring
  rw [Follows.Balanced, sum_reached, split, begun, ← cast_attempts] at balanced
  simp only [total]
  omega

def shown (system : WorkerSystem Json) (workerId : String) (metric : Metric) : ℕ :=
  system.counted.count (workerId, metric)

theorem count_entries (workerId other : String) (metric : Metric) (increments : List Metric) :
    (increments.map (other, ·)).count (workerId, metric) = if other = workerId then increments.count metric else 0 := by
  induction increments with
  | nil => simp
  | cons increment increments ih =>
    rw [List.map_cons, List.count_cons, ih, List.count_cons]
    by_cases same : other = workerId
    · simp [same]
    · simp [same]

theorem shown_after {Phase : Type} (system : WorkerSystem Json) (workerId other : String)
    (effect : Effect Json Phase) (worker : Worker Json) (metric : Metric) :
    (system.after other effect worker).shown workerId metric =
      system.shown workerId metric + if other = workerId then effect.counted.count metric else 0 := by
  rw [shown, after, List.count_append, count_entries, shown]

theorem claimed_or_busy (reachable : system.Reachable configs handlers) (workerId : String) :
    system.shown workerId .jobsClaimed = system.shown workerId .jobProcessing +
      (system.workers workerId).busySlots (configs workerId).concurrency := by
  refine reachable.invariant (I := fun system => system.shown workerId .jobsClaimed =
    system.shown workerId .jobProcessing + (system.workers workerId).busySlots (configs workerId).concurrency) ?_ ?_
  · simp [shown, initial, Worker.busySlots, SlotPhase.busy]
  · intro before action next known taken
    cases action with
    | createJob => cases taken; exact known
    | slot other number event =>
      simp only [step, Option.ite_none_right_eq_some, Option.map_eq_some_iff] at taken
      obtain ⟨⟨first, last⟩, effect, moves, rfl⟩ := taken
      rw [shown_after, shown_after]
      by_cases same : other = workerId
      · subst same
        have balance := JobWorker.busy_step moves
        have updated := countP_update SlotPhase.busy (before.workers other).slots effect.phase
          (List.nodup_range' (s := 1) (n := (configs other).concurrency)) (i := number)
          (List.mem_range'_1.mpr ⟨first, by omega⟩)
        simp only [if_true, after, Function.update_self, Worker.busySlots] at known ⊢
        omega
      · simp only [same, if_false, after, Function.update_of_ne (Ne.symm same), Nat.add_zero]
        exact known
    | recovery other event =>
      obtain ⟨effect, moves, rfl⟩ := Option.map_eq_some_iff.mp taken
      obtain ⟨claims, processing⟩ := JobWorker.recovery_counts moves
      rw [shown_after, shown_after, claims, processing]
      by_cases same : other = workerId
      · subst same
        simpa [after, Worker.busySlots] using known
      · simpa [after, Function.update_of_ne (Ne.symm same)] using known
    | requestStop other =>
      cases taken
      by_cases same : other = workerId
      · subst same
        simpa [shown, Worker.busySlots] using known
      · simpa [shown, Function.update_of_ne (Ne.symm same)] using known

/-- In every state that any number of processes reach, in any order of their steps and with calls that raise before or
after their commit, the counters and the increments that were missed say what is in the table: the attempts are the
claims; the finished jobs are those reported or recovered as finished; every attempt is running, was a job's last one,
or was counted as scheduled for a retry; and no other status is ever counted. -/
theorem counters_account (configs : String → WorkerConfig) (handlers : TaskHandlers Json)
    (system : WorkerSystem Json) (reachable : system.Reachable configs handlers) :
    (system.table.rows.map Job.attemptCount).sum = system.total .jobsClaimed ∧
    system.table.rows.countP (·.status == .succeeded) = system.total (.jobTransitions .succeeded) ∧
    system.table.rows.countP (·.status == .deadLettered) =
      system.total (.jobTransitions .deadLettered) + system.total (.staleJobRecoveries .deadLettered) ∧
    (system.table.rows.map Job.attemptCount).sum = system.table.rows.countP (·.status == .running) +
      system.table.rows.countP (·.status == .succeeded) + system.table.rows.countP (·.status == .deadLettered) +
      (system.total (.jobTransitions .retryScheduled) + system.total (.staleJobRecoveries .retryScheduled)) ∧
    (∀ metric, unused metric = true → system.total metric = 0) ∧
    ∀ workerId, system.shown workerId .jobsClaimed = system.shown workerId .jobProcessing +
      (system.workers workerId).busySlots (configs workerId).concurrency := by
  refine ⟨sum_attempts reachable, ?_, countP_terminal reachable rfl, sum_retries reachable,
    fun metric none_such => total_unused reachable none_such, claimed_or_busy reachable⟩
  rw [countP_terminal reachable rfl, total_unused reachable (show unused (.staleJobRecoveries .succeeded) = true from rfl),
    Nat.add_zero]

theorem counters_account_unanswered : ∃ system : WorkerSystem String,
    system.Reachable (fun _ => defaultSettings) (fun _ payload => .ok payload) ∧
    system.counted = [("a", .jobsClaimed)] ∧ system.missed = [("a", .jobTransitions .succeeded)] ∧
    system.table.rows.countP (·.status == .succeeded) = system.total (.jobTransitions .succeeded) := by
  have counts : ((unansweredSuccess.foldlM (step (fun _ => defaultSettings) fun _ payload => .ok payload)
      initial).map fun system => (system.counted, system.missed)) =
        some ([("a", .jobsClaimed)], [("a", .jobTransitions .succeeded)]) := by
    decide +kernel
  obtain ⟨system, found, same⟩ := Option.map_eq_some_iff.mp counts
  have reachable : system.Reachable (fun _ => defaultSettings) (fun _ payload => .ok payload) := Reached.of_foldlM found
  exact ⟨system, reachable, congrArg Prod.fst same, congrArg Prod.snd same,
    (counters_account _ _ system reachable).2.1⟩

end WorkerSystem

end CareerProjects.JobQueue
