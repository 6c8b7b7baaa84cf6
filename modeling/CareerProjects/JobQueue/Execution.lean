import CareerProjects.JobQueue.Fencing
import CareerProjects.JobQueue.Worker

/-! What the workers write into the rows. A slot holds the job as it claimed it, the table goes on meanwhile, and the
columns that the handlers read stay; so a stored result or error is what the handler of this row's task ends with. -/

namespace CareerProjects.JobQueue
open Library

variable {Json : Type} {handlers : TaskHandlers Json}

def lastErrorText (message : String) : String := String.ofList (message.toList.take 4000)

/-- The columns that end a job's attempts, against the task. -/
structure Faithful (handlers : TaskHandlers Json) (row : Job Json) : Prop where
  succeeded : row.status = .succeeded →
    ∃ result, handlers row.taskName row.payload = .ok result ∧ row.result = some result
  blamed : ∀ error, row.lastError = some error → error = recoveryError ∨
    (∃ failure, handlers row.taskName row.payload = .error failure ∧ error = lastErrorText failure.message) ∨
    ∃ result, handlers row.taskName row.payload = .ok result
  retried : ∀ failure, handlers row.taskName row.payload = .error failure → failure.handlerError = true →
    row.status = .retryScheduled → row.lastError = some recoveryError
  givenUp : row.status = .deadLettered → row.maxAttempts ≤ row.attemptCount ∨
    ∃ failure, handlers row.taskName row.payload = .error failure ∧ failure.handlerError = true

def Reported (handlers : TaskHandlers Json) (row : Job Json) : QueueOp Json → Prop
  | .markSucceeded call => handlers row.taskName row.payload = .ok call.resultPayload
  | .markFailed call =>
    (∃ failure, handlers row.taskName row.payload = .error failure ∧ call.errorMessage = failure.message ∧
      call.retryable = !failure.handlerError) ∨
    call.retryable = true ∧ ∃ result, handlers row.taskName row.payload = .ok result
  | _ => True

namespace Faithful

variable {row : Job Json}

theorem created (data : JobCreate Json) (id : Uuid) (now : Time) : Faithful handlers (addJob data id now) where
  succeeded status := by cases status
  blamed error blames := by cases blames
  retried failure _ _ status := by cases status
  givenUp status := by cases status

theorem markFailed (call : MarkFailed) (reported : Reported handlers row (.markFailed call)) :
    Faithful handlers (call.write.apply row) := by
  have blamed : ∀ error, some (lastErrorText call.errorMessage) = some error → error = recoveryError ∨
      (∃ failure, handlers row.taskName row.payload = .error failure ∧ error = lastErrorText failure.message) ∨
      ∃ result, handlers row.taskName row.payload = .ok result := by
    intro error same
    rw [← Option.some.inj same]
    rcases reported with ⟨failure, raises, message, -⟩ | ⟨-, succeeds⟩
    · exact .inr (.inl ⟨failure, raises, by rw [message]⟩)
    · exact .inr (.inr succeeds)
  simp only [MarkFailed.write]
  split
  · next retry =>
    have retryable : call.retryable = true := (Bool.and_eq_true_iff.mp retry).1
    refine ⟨fun status => (by cases status), blamed, fun failure raises final _ => ?_, fun status => (by cases status)⟩
    rcases reported with ⟨other, raises', -, decision⟩ | ⟨-, result, succeeds⟩
    · have raised := raises'.symm.trans raises
      cases raised
      rw [retryable, final] at decision
      cases decision
    · have raised := succeeds.symm.trans raises
      cases raised
  · next noRetry =>
    refine ⟨fun status => (by cases status), blamed, fun _ _ _ status => (by cases status), fun _ => ?_⟩
    rcases reported with ⟨failure, raises, -, decision⟩ | ⟨retryable, -⟩
    · cases final : failure.handlerError with
      | true => exact .inr ⟨failure, raises, final⟩
      | false =>
        rw [final] at decision
        exact .inl (by simpa [shouldRetryJob, decision] using noRetry)
    · exact .inl (by simpa [shouldRetryJob, retryable] using noRetry)

theorem recovered (call : RecoverStaleJobs) : Faithful handlers (call.write.apply row) := by
  simp only [RecoverStaleJobs.write]
  split
  · exact ⟨fun status => (by cases status), fun error same => .inl (Option.some.inj same).symm,
      fun _ _ _ _ => rfl, fun status => (by cases status)⟩
  · next noRetry =>
    exact ⟨fun status => (by cases status), fun error same => .inl (Option.some.inj same).symm,
      fun _ _ _ status => (by cases status), fun _ => .inl (by simpa [shouldRetryJob] using noRetry)⟩

theorem write (faithful : Faithful handlers row) {op : QueueOp Json} (guard : op.guard row = true)
    (reported : Reported handlers row op) : Faithful handlers (op.write.apply row) := by
  cases op with
  | createJob => cases guard
  | claimJobs call =>
    exact ⟨fun status => (by cases status), faithful.blamed, fun _ _ _ status => (by cases status),
      fun status => (by cases status)⟩
  | renewLease call => exact ⟨faithful.succeeded, faithful.blamed, faithful.retried, faithful.givenUp⟩
  | markSucceeded call =>
    exact ⟨fun _ => ⟨call.resultPayload, reported, rfl⟩, fun _ blames => (by cases blames),
      fun _ _ _ status => (by cases status), fun status => (by cases status)⟩
  | markFailed call => exact markFailed call reported
  | recoverStaleJobs call => exact recovered call

theorem step {table : JobTable Json} {op : QueueOp Json} (faithful : ∀ row ∈ table.rows, Faithful handlers row)
    (reported : ∀ row ∈ table.rows, op.guard row = true → Reported handlers row op) :
    ∀ row ∈ (op.step table).rows, Faithful handlers row := by
  intro row member
  rcases QueueOp.mem_step member with ⟨job, old, -, rfl⟩ | ⟨job, old, -, guard, rfl⟩ | ⟨data, id, now, -, rfl, -⟩
  · exact faithful row old
  · exact (faithful job old).write guard (reported job old guard)
  · exact created data id now

end Faithful

/-- The row of the job still has the columns that the handlers read. -/
def Listed (table : JobTable Json) (job : Job Json) : Prop :=
  ∃ row ∈ table.rows, row.id = job.id ∧ row.taskName = job.taskName ∧ row.payload = job.payload

/-- What is about to be reported: what the handler of the job ended with, or that a report failed. -/
def JobPhase.Ends (handlers : TaskHandlers Json) (job : Job Json) : JobPhase Json → Prop
  | .executing | .closing => True
  | .succeeding result => handlers job.taskName job.payload = .ok result
  | .failing failure => handlers job.taskName job.payload = .error failure ∨
    failure.handlerError = false ∧ ∃ result, handlers job.taskName job.payload = .ok result

def SlotPhase.Works (handlers : TaskHandlers Json) (table : JobTable Json) : SlotPhase Json → Prop
  | .processing job phase _ => Listed table job ∧ phase.Ends handlers job
  | _ => True

theorem Listed.step {table : JobTable Json} {job : Job Json} (listed : Listed table job) (op : QueueOp Json) :
    Listed (op.step table) job := by
  obtain ⟨row, member, id, taskName, payload⟩ := listed
  refine ⟨_, @QueueOp.mem_step_of_mem _ op _ _ member, ?_⟩
  split
  · obtain ⟨-, keepsName, keepsPayload, -⟩ := op.write_submitted row
    exact ⟨(op.write.keepsId row).trans id, keepsName.trans taskName, keepsPayload.trans payload⟩
  · exact ⟨id, taskName, payload⟩

theorem SlotPhase.Works.step {table : JobTable Json} {phase : SlotPhase Json} (works : phase.Works handlers table)
    (op : QueueOp Json) : phase.Works handlers (op.step table) := by
  cases phase with
  | processing => exact ⟨works.1.step op, works.2⟩
  | _ => trivial

theorem mem_of_claimed {call : ClaimJobs} {table : JobTable Json} {job : Job Json}
    (claimed : job ∈ (claimJobs call table).1) : ∃ row ∈ table.rows, claimable call.queues call.claimedAt row = true ∧
      call.write.apply row = job ∧ job ∈ ((QueueOp.claimJobs call).step table).rows := by
  have selected : ∃ row ∈ call.selection table, call.write.apply row = job := by
    unfold claimJobs at claimed
    split at claimed
    · cases claimed
    · exact List.mem_map.mp claimed
  obtain ⟨row, chosen, same⟩ := selected
  obtain ⟨member, free⟩ := ClaimJobs.mem_selection chosen
  have touched : (QueueOp.claimJobs call : QueueOp Json).touched table row = true := by
    rw [← QueueOp.claims_eq_touched]
    exact List.any_eq_true.mpr ⟨job, claimed, by rw [← same]; exact beq_self_eq_true _⟩
  have written := @QueueOp.mem_step_of_mem _ (.claimJobs call) table row member
  rw [if_pos touched] at written
  exact ⟨row, member, free, same, same ▸ written⟩

theorem Listed.of_claim {call : ClaimJobs} {table : JobTable Json} {job : Job Json}
    (claimed : job ∈ (claimJobs call table).1) : Listed ((QueueOp.claimJobs call).step table) job := by
  obtain ⟨-, -, -, -, member⟩ := mem_of_claimed claimed
  exact ⟨job, member, rfl, rfl, rfl⟩

theorem Listed.handlers_eq {table : JobTable Json} {job row : Job Json} (listed : Listed table job)
    (member : row ∈ table.rows) (same : row.id = job.id) :
    handlers row.taskName row.payload = handlers job.taskName job.payload := by
  obtain ⟨other, inside, id, taskName, payload⟩ := listed
  rw [JobTable.eq_of_id member inside (same.trans id.symm), taskName, payload]

namespace JobWorker

variable {config : WorkerConfig} {workerId : String} {stopRequested : Bool} {table : JobTable Json}
  {phase : SlotPhase Json} {event : SlotEvent} {effect : Effect Json (SlotPhase Json)}

theorem works_call {op : QueueOp Json} {answered : SlotPhase Json} {raised : String → SlotPhase Json}
    {onError : List Metric} (afterAnswer : answered.Works handlers (op.step table))
    (afterCommit : ∀ error, (raised error).Works handlers (op.step table))
    (afterError : ∀ error, (raised error).Works handlers table) (delivery : Delivery) :
    (Effect.call op table answered raised onError delivery).phase.Works handlers
      ((Effect.call op table answered raised onError delivery).tableAfter table) := by
  cases delivery with
  | answered => exact afterAnswer
  | unanswered error => exact afterCommit error
  | failed error => exact afterError error

theorem works_slot (works : phase.Works handlers table)
    (taken : slotStep config workerId handlers stopRequested table phase event = some effect) :
    effect.phase.Works handlers (effect.tableAfter table) := by
  unfold slotStep at taken
  split at taken <;> cases taken
  case h_1 => cases stopRequested <;> trivial
  case h_2 claimedAt locked delivery =>
    refine works_call ?_ (fun error => ?_) (fun error => ?_) delivery
    · split
      · trivial
      · next job first => exact ⟨Listed.of_claim (List.mem_of_mem_head? first), trivial⟩
    · trivial
    · trivial
  case h_3 => trivial
  case h_4 job heartbeat =>
    refine ⟨works.1, ?_⟩
    cases ends : handlers job.taskName job.payload with
    | ok result => exact ends
    | error failure => exact .inl ends
  case h_5 job result heartbeat completedAt delivery =>
    refine works_call ?_ (fun error => ?_) (fun error => ?_) delivery
    · exact ⟨works.1.step _, trivial⟩
    · exact ⟨works.1.step _, .inr ⟨rfl, result, works.2⟩⟩
    · exact ⟨works.1, .inr ⟨rfl, result, works.2⟩⟩
  case h_6 job failure heartbeat failedAt delivery =>
    refine works_call ?_ (fun error => ?_) (fun error => ?_) delivery
    · exact ⟨works.1.step _, trivial⟩
    · exact ⟨works.1.step _, trivial⟩
    · exact ⟨works.1, trivial⟩
  case h_9 job phase heartbeatAt delivery =>
    refine works_call ?_ (fun error => ?_) (fun error => ?_) delivery
    · exact ⟨works.1.step _, works.2⟩
    · exact ⟨works.1.step _, works.2⟩
    · exact works
  case h_10 => trivial
  all_goals exact works

theorem op_call {Phase : Type} {op made : QueueOp Json} {answered : Phase} {raised : String → Phase}
    {onError : List Metric} {delivery : Delivery}
    (commits : (Effect.call op table answered raised onError delivery).op = some made) : made = op := by
  cases delivery with
  | answered => exact (Option.some.inj commits).symm
  | unanswered => exact (Option.some.inj commits).symm
  | failed => cases commits

theorem reported_slot (works : phase.Works handlers table)
    (taken : slotStep config workerId handlers stopRequested table phase event = some effect) {op : QueueOp Json}
    (commits : effect.op = some op) : ∀ row ∈ table.rows, op.guard row = true → Reported handlers row op := by
  intro row member guard
  unfold slotStep at taken
  split at taken <;> cases taken
  case h_2 =>
    rw [op_call commits]
    trivial
  case h_5 job result heartbeat completedAt delivery =>
    rw [op_call commits] at guard ⊢
    exact (works.1.handlers_eq member (ownedRow_iff.mp guard).1).trans works.2
  case h_6 job failure heartbeat failedAt delivery =>
    rw [op_call commits] at guard ⊢
    have same := @Listed.handlers_eq _ handlers _ _ _ works.1 member (ownedRow_iff.mp guard).1
    rcases works.2 with raises | ⟨temporary, succeeds⟩
    · exact .inl ⟨failure, same.trans raises, rfl, rfl⟩
    · exact .inr ⟨by simp [failureCall, temporary], by rw [same]; exact succeeds⟩
  case h_9 =>
    rw [op_call commits]
    trivial
  all_goals cases commits

theorem reported_recovery {phase : RecoveryPhase} {event : RecoveryEvent} {effect : Effect Json RecoveryPhase}
    (taken : recoveryStep stopRequested table phase event = some effect) {op : QueueOp Json}
    (commits : effect.op = some op) (row : Job Json) : Reported handlers row op := by
  unfold recoveryStep at taken
  split at taken <;> cases taken
  · cases commits
  · rw [op_call commits]
    trivial
  · cases commits

end JobWorker

namespace WorkerSystem

/-- The rows are faithful to their tasks and the slots to their jobs. -/
structure Executes (handlers : TaskHandlers Json) (system : WorkerSystem Json) : Prop where
  rows : ∀ row ∈ system.table.rows, Faithful handlers row
  slots : ∀ workerId number, ((system.workers workerId).slots number).Works handlers system.table

namespace Executes

variable {configs : String → WorkerConfig} {system next : WorkerSystem Json} {action : Action Json}

theorem rows_after {Phase : Type} {effect : Effect Json Phase} (executes : Executes handlers system)
    (reported : ∀ op, effect.op = some op →
      ∀ row ∈ system.table.rows, op.guard row = true → Reported handlers row op) :
    ∀ row ∈ (effect.tableAfter system.table).rows, Faithful handlers row := by
  unfold Effect.tableAfter
  cases made : effect.op with
  | none => exact executes.rows
  | some op => exact Faithful.step executes.rows (reported op made)

theorem rows_step (executes : Executes handlers system) (taken : system.step configs handlers action = some next) :
    ∀ row ∈ next.table.rows, Faithful handlers row := by
  cases action with
  | createJob data id now =>
    cases taken
    exact Faithful.step executes.rows fun _ _ _ => trivial
  | slot worker slot event =>
    simp only [WorkerSystem.step, Option.ite_none_right_eq_some, Option.map_eq_some_iff] at taken
    obtain ⟨-, effect, moves, rfl⟩ := taken
    exact executes.rows_after fun op => JobWorker.reported_slot (executes.slots worker slot) moves
  | recovery worker event =>
    obtain ⟨effect, moves, rfl⟩ := Option.map_eq_some_iff.mp taken
    exact executes.rows_after fun op made row _ _ => JobWorker.reported_recovery moves made row
  | requestStop worker =>
    cases taken
    exact executes.rows

theorem slots_step (executes : Executes handlers system) (taken : system.step configs handlers action = some next)
    (workerId : String) (number : Nat) : ((next.workers workerId).slots number).Works handlers next.table := by
  have works := executes.slots workerId number
  rcases step_slot taken workerId number with ⟨event, effect, -, moves, phase, table⟩ | ⟨-, same⟩
  · rw [phase, table]
    exact JobWorker.works_slot works moves
  · rw [same]
    rcases step_table taken with table | ⟨op, table⟩
    · rw [table]
      exact works
    · rw [table]
      exact works.step op

theorem of_reachable (reachable : system.Reachable configs handlers) : Executes handlers system :=
  reachable.invariant ⟨by simp [initial, JobTable.empty], fun _ _ => trivial⟩ fun _ _ _ known taken =>
    ⟨known.rows_step taken, known.slots_step taken⟩

end Executes

variable {configs : String → WorkerConfig}

/-- In every state that any number of workers reach, whatever handlers they have, in any order of their steps and with
calls that raise before or after their commit: each row is faithful to its task, and a finished one is found as it is
after every further run. -/
theorem tasks_executed_faithfully (system : WorkerSystem Json) (reachable : system.Reachable configs handlers)
    (row : Job Json) (member : row ∈ system.table.rows) :
    Faithful handlers row ∧ (row.status.terminal = true → ∀ labels after,
      Run (fun a action b => a.step configs handlers action = some b) system labels after →
        row ∈ after.table.rows) := by
  refine ⟨(Executes.of_reachable reachable).rows row member, fun terminal labels after run => ?_⟩
  refine run.invariant (I := fun system => row ∈ system.table.rows) member fun before action next inside taken => ?_
  rcases step_table taken with table | ⟨op, table⟩
  · rw [table]
    exact inside
  · rw [table]
    simpa [QueueOp.untouched_of_terminal inside terminal] using @QueueOp.mem_step_of_mem _ op _ _ inside

theorem tasks_executed_faithfully_unanswered : ∃ (system : WorkerSystem String) (row : Job String),
    system.table.rows = [row] ∧ row.status = .succeeded ∧ row.result = some row.payload ∧
    ∀ labels after, Run (fun a action b => a.step (fun _ => defaultSettings) (fun _ payload => .ok payload) action =
      some b) system labels after → row ∈ after.table.rows := by
  have rows : ((unansweredSuccess.foldlM (step (fun _ => defaultSettings) fun _ payload => .ok payload)
      initial).map fun system => system.table.rows.map (·.status)) = some [.succeeded] := by
    decide +kernel
  obtain ⟨system, found, statuses⟩ := Option.map_eq_some_iff.mp rows
  obtain ⟨row, alone, succeeded⟩ := List.map_eq_singleton_iff.mp statuses
  have member : row ∈ system.table.rows := by simp [alone]
  obtain ⟨faithful, kept⟩ := @tasks_executed_faithfully _ (fun _ payload => .ok payload)
    (fun _ => defaultSettings) system (Reached.of_foldlM found) row member
  obtain ⟨result, returns, stored⟩ := faithful.succeeded succeeded
  cases returns
  exact ⟨system, row, alone, succeeded, stored, kept (by rw [succeeded]; rfl)⟩

end WorkerSystem

end CareerProjects.JobQueue
