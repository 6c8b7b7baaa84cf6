import CareerProjects.JobQueue.Fleet

/-! The worker runtime: the slots of a process with their heartbeats, its recovery loop and its counters. What runs
between two awaits is one step. A call of the queue commits and is answered in one step, or it raises, and the
exception may come after the commit. A process that dies is one that takes no more steps. -/

namespace CareerProjects.JobQueue
open Library

variable {Json : Type}

/-- The settings of a worker that decide about its calls; the intervals only delay its steps. -/
structure WorkerConfig where
  queueNames : List String
  concurrency : Nat
  retryBaseDelaySeconds : ℚ
  retryMaxDelaySeconds : ℚ
  leaseDurationSeconds : ℚ

def defaultSettings : WorkerConfig := ⟨["default", "reports", "emails"], 4, 5, 300, 30⟩

/-- An exception: `f"{type(exc).__name__}: {exc}"`, and whether it is a `TaskHandlerError`. -/
structure TaskFailure where
  message : String
  handlerError : Bool
  deriving DecidableEq

abbrev TaskHandlers (Json : Type) := String → Json → Except TaskFailure Json

inductive HeartbeatPhase
  | waiting | renewing | finished
  deriving DecidableEq

/-- Where `_process_job` is: in the handler, in a call of the queue, or waiting for its heartbeat to stop. -/
inductive JobPhase (Json : Type)
  | executing
  | succeeding (result : Json)
  | failing (failure : TaskFailure)
  | closing

inductive SlotPhase (Json : Type)
  | polling
  | claiming
  | waiting
  | processing (job : Job Json) (phase : JobPhase Json) (heartbeat : HeartbeatPhase)
  | stopped

inductive RecoveryPhase
  | polling | recovering | waiting | stopped
  deriving DecidableEq

structure Worker (Json : Type) where
  stopRequested : Bool
  slots : Nat → SlotPhase Json
  recovery : RecoveryPhase

inductive RenewalOutcome
  | renewed | lost | error
  deriving DecidableEq

inductive Metric
  | jobsClaimed
  | jobTransitions (status : JobStatus)
  | leaseRenewals (outcome : RenewalOutcome)
  | staleJobRecoveries (outcome : JobStatus)
  | jobProcessing
  deriving DecidableEq

def QueueOp.increments (table : JobTable Json) : QueueOp Json → List Metric
  | .createJob .. => []
  | .claimJobs call => List.replicate (JobQueue.claimJobs call table).1.length .jobsClaimed
  | .renewLease call => [.leaseRenewals (if (JobQueue.renewLease call table).1 then .renewed else .lost)]
  | .markSucceeded call => if (JobQueue.markSucceeded call table).1 then [.jobTransitions .succeeded] else []
  | .markFailed call => (JobQueue.markFailed call table).1.toList.map .jobTransitions
  | .recoverStaleJobs call =>
    List.replicate (JobQueue.recoverStaleJobs call table).1.1 (.staleJobRecoveries .retryScheduled) ++
      List.replicate (JobQueue.recoverStaleJobs call table).1.2 (.staleJobRecoveries .deadLettered)

inductive Delivery
  | answered
  | unanswered (error : String)
  | failed (error : String)

/-- What a step does: the next phase, the transaction it commits, and the increments it makes or misses. -/
structure Effect (Json Phase : Type) where
  phase : Phase
  op : Option (QueueOp Json)
  counted : List Metric
  missed : List Metric

namespace Effect

variable {Phase : Type}

def goto (phase : Phase) : Effect Json Phase := ⟨phase, none, [], []⟩

def tableAfter (effect : Effect Json Phase) (table : JobTable Json) : JobTable Json :=
  effect.op.elim table fun op => op.step table

def call (op : QueueOp Json) (table : JobTable Json) (answered : Phase) (raised : String → Phase)
    (onError : List Metric) : Delivery → Effect Json Phase
  | .answered => ⟨answered, some op, op.increments table, []⟩
  | .unanswered error => ⟨raised error, some op, onError, op.increments table⟩
  | .failed error => ⟨raised error, none, onError, []⟩

end Effect

inductive SlotEvent
  | poll
  | claim (claimedAt : Time) (locked : Uuid → Bool) (delivery : Delivery)
  | wake
  | execute
  | markSucceeded (completedAt : Time) (delivery : Delivery)
  | markFailed (failedAt : Time) (delivery : Delivery)
  | beat
  | renew (heartbeatAt : Time) (delivery : Delivery)
  | close

def SlotEvent.ofHeartbeat : SlotEvent → Bool
  | .beat | .renew .. => true
  | _ => false

inductive RecoveryEvent
  | poll
  | recover (recoveredAt : Time) (locked : Uuid → Bool) (delivery : Delivery)
  | wake

namespace JobWorker

variable (config : WorkerConfig) (workerId : String) (handlers : TaskHandlers Json)

def claimCall (claimedAt : Time) (locked : Uuid → Bool) : ClaimJobs :=
  ⟨workerId, config.queueNames, 1, config.leaseDurationSeconds, claimedAt, locked⟩

/-- Handler errors describe invalid or unsupported work. Other exceptions may represent temporary failures. -/
def failureCall (jobId : Uuid) (failure : TaskFailure) (failedAt : Time) : MarkFailed :=
  ⟨jobId, workerId, failure.message, !failure.handlerError, config.retryBaseDelaySeconds,
    config.retryMaxDelaySeconds, failedAt⟩

def nextBeat : JobPhase Json → HeartbeatPhase
  | .closing => .finished
  | _ => .waiting

def slotStep (stopRequested : Bool) (table : JobTable Json) :
    SlotPhase Json → SlotEvent → Option (Effect Json (SlotPhase Json))
  | .polling, .poll => some (.goto (if stopRequested then .stopped else .claiming))
  | .claiming, .claim claimedAt locked delivery =>
    let claim := claimCall config workerId claimedAt locked
    some (.call (.claimJobs claim) table
      (match (claimJobs claim table).1.head? with
        | none => .waiting
        | some job => .processing job .executing .waiting)
      (fun _ => .waiting) [] delivery)
  | .waiting, .wake => some (.goto .polling)
  | .processing job .executing heartbeat, .execute =>
    some (.goto (.processing job
      (match handlers job.taskName job.payload with
        | .ok result => .succeeding result
        | .error failure => .failing failure) heartbeat))
  | .processing job (.succeeding result) heartbeat, .markSucceeded completedAt delivery =>
    some (.call (.markSucceeded ⟨job.id, workerId, result, completedAt⟩) table (.processing job .closing heartbeat)
      (fun error => .processing job (.failing ⟨error, false⟩) heartbeat) [] delivery)
  | .processing job (.failing failure) heartbeat, .markFailed failedAt delivery =>
    some (.call (.markFailed (failureCall config workerId job.id failure failedAt)) table
      (.processing job .closing heartbeat) (fun _ => .processing job .closing heartbeat) [] delivery)
  | .processing job .closing .waiting, .beat => some (.goto (.processing job .closing .finished))
  | .processing job phase .waiting, .beat => some (.goto (.processing job phase .renewing))
  | .processing job phase .renewing, .renew heartbeatAt delivery =>
    let renewal : RenewLease := ⟨job.id, workerId, config.leaseDurationSeconds, heartbeatAt⟩
    some (.call (.renewLease renewal) table
      (.processing job phase (if (renewLease renewal table).1 then nextBeat phase else .finished))
      (fun _ => .processing job phase (nextBeat phase)) [.leaseRenewals .error] delivery)
  | .processing _ .closing .finished, .close => some ⟨.polling, none, [.jobProcessing], []⟩
  | _, _ => none

def recoveryStep (stopRequested : Bool) (table : JobTable Json) :
    RecoveryPhase → RecoveryEvent → Option (Effect Json RecoveryPhase)
  | .polling, .poll => some (.goto (if stopRequested then .stopped else .recovering))
  | .recovering, .recover recoveredAt locked delivery =>
    some (.call (.recoverStaleJobs ⟨100, recoveredAt, locked⟩) table .waiting (fun _ => .waiting) [] delivery)
  | .waiting, .wake => some (.goto .polling)
  | _, _ => none

end JobWorker

/-- The table, the worker processes by their `worker_id`, and the increments of their counters. Beside these stand,
as history, the increments for answers that did not come. -/
structure WorkerSystem (Json : Type) where
  table : JobTable Json
  workers : String → Worker Json
  counted : List (String × Metric)
  missed : List (String × Metric)

namespace WorkerSystem

inductive Action (Json : Type)
  | createJob (data : JobCreate Json) (id : Uuid) (now : Time)
  | slot (workerId : String) (number : Nat) (event : SlotEvent)
  | recovery (workerId : String) (event : RecoveryEvent)
  | requestStop (workerId : String)

def initial : WorkerSystem Json := ⟨.empty, fun _ => ⟨false, fun _ => .polling, .polling⟩, [], []⟩

def after {Phase : Type} (system : WorkerSystem Json) (workerId : String) (effect : Effect Json Phase)
    (worker : Worker Json) : WorkerSystem Json where
  table := effect.tableAfter system.table
  workers := Function.update system.workers workerId worker
  counted := system.counted ++ effect.counted.map (workerId, ·)
  missed := system.missed ++ effect.missed.map (workerId, ·)

variable (configs : String → WorkerConfig) (handlers : TaskHandlers Json)

def step (system : WorkerSystem Json) : Action Json → Option (WorkerSystem Json)
  | .createJob data id now =>
    some { system with table := (QueueOp.createJob data id now).step system.table }
  | .slot workerId number event =>
    let worker := system.workers workerId
    if 1 ≤ number ∧ number ≤ (configs workerId).concurrency then
      (JobWorker.slotStep (configs workerId) workerId handlers worker.stopRequested system.table
        (worker.slots number) event).map fun effect =>
          system.after workerId effect { worker with slots := Function.update worker.slots number effect.phase }
    else none
  | .recovery workerId event =>
    let worker := system.workers workerId
    (JobWorker.recoveryStep worker.stopRequested system.table worker.recovery event).map fun effect =>
      system.after workerId effect { worker with recovery := effect.phase }
  | .requestStop workerId =>
    let worker := system.workers workerId
    some { system with
      workers := Function.update system.workers workerId { worker with stopRequested := true } }

def Reachable (system : WorkerSystem Json) : Prop :=
  Reached (fun a action b => step configs handlers a action = some b) initial system

def unansweredSuccess : List (Action String) :=
  [.createJob echoJob 7 0, .slot "a" 1 .poll, .slot "a" 1 (.claim 1 (fun _ => false) .answered),
    .slot "a" 1 .execute, .slot "a" 1 (.markSucceeded 2 (.unanswered "OperationalError: ")),
    .slot "a" 1 (.markFailed 3 .answered)]

variable {configs : String → WorkerConfig} {handlers : TaskHandlers Json} {system next : WorkerSystem Json}
  {action : Action Json}

theorem step_slot (taken : system.step configs handlers action = some next) (workerId : String) (number : Nat) :
    (∃ event effect, action = .slot workerId number event ∧
      JobWorker.slotStep (configs workerId) workerId handlers (system.workers workerId).stopRequested system.table
        ((system.workers workerId).slots number) event = some effect ∧
      (next.workers workerId).slots number = effect.phase ∧ next.table = effect.tableAfter system.table) ∨
    (∀ event, action ≠ .slot workerId number event) ∧
      (next.workers workerId).slots number = (system.workers workerId).slots number := by
  cases action with
  | createJob => cases taken; exact .inr ⟨by simp, rfl⟩
  | slot other number' event =>
    simp only [step, Option.ite_none_right_eq_some, Option.map_eq_some_iff] at taken
    obtain ⟨-, effect, moves, rfl⟩ := taken
    by_cases same : other = workerId
    · subst same
      by_cases slot : number' = number
      · subst slot
        exact .inl ⟨event, effect, rfl, moves, by simp [after], rfl⟩
      · exact .inr ⟨by simp [slot], by simp [after, Ne.symm slot]⟩
    · exact .inr ⟨by simp [same], by simp [after, Ne.symm same]⟩
  | recovery other event =>
    obtain ⟨effect, moves, rfl⟩ := Option.map_eq_some_iff.mp taken
    by_cases same : other = workerId
    · subst same
      exact .inr ⟨by simp, by simp [after]⟩
    · exact .inr ⟨by simp, by simp [after, Ne.symm same]⟩
  | requestStop other =>
    cases taken
    by_cases same : other = workerId
    · subst same
      exact .inr ⟨by simp, by simp⟩
    · exact .inr ⟨by simp, by simp [Ne.symm same]⟩

theorem step_table (taken : system.step configs handlers action = some next) :
    next.table = system.table ∨ ∃ op : QueueOp Json, next.table = op.step system.table := by
  have commits : ∀ {Phase : Type} (effect : Effect Json Phase), effect.tableAfter system.table = system.table ∨
      ∃ op : QueueOp Json, effect.tableAfter system.table = op.step system.table := by
    intro Phase effect
    unfold Effect.tableAfter
    cases effect.op with
    | none => exact .inl rfl
    | some op => exact .inr ⟨op, rfl⟩
  cases action with
  | createJob data id now => cases taken; exact .inr ⟨.createJob data id now, rfl⟩
  | slot other number event =>
    simp only [step, Option.ite_none_right_eq_some, Option.map_eq_some_iff] at taken
    obtain ⟨-, effect, -, rfl⟩ := taken
    exact commits effect
  | recovery other event =>
    obtain ⟨effect, -, rfl⟩ := Option.map_eq_some_iff.mp taken
    exact commits effect
  | requestStop => cases taken; exact .inl rfl

theorem step_of_slot {workerId : String} {number : Nat} {event : SlotEvent} {effect : Effect Json (SlotPhase Json)}
    (first : 1 ≤ number) (last : number ≤ (configs workerId).concurrency)
    (moves : JobWorker.slotStep (configs workerId) workerId handlers (system.workers workerId).stopRequested
      system.table ((system.workers workerId).slots number) event = some effect) :
    ∃ next, system.step configs handlers (.slot workerId number event) = some next ∧
      (next.workers workerId).slots number = effect.phase := by
  simp only [step, first, last, and_self, if_true, moves, Option.map_some, Option.some.injEq, exists_eq_left']
  simp [after]

theorem step_of_recovery {workerId : String} {event : RecoveryEvent} {effect : Effect Json RecoveryPhase}
    (moves : JobWorker.recoveryStep (system.workers workerId).stopRequested system.table
      (system.workers workerId).recovery event = some effect) :
    ∃ next, system.step configs handlers (.recovery workerId event) = some next ∧
      (next.workers workerId).recovery = effect.phase := by
  simp only [step, moves, Option.map_some, Option.some.injEq, exists_eq_left']
  simp [after]

theorem step_recovery (taken : system.step configs handlers action = some next) (workerId : String) :
    (∃ event effect, action = .recovery workerId event ∧
      JobWorker.recoveryStep (system.workers workerId).stopRequested system.table
        (system.workers workerId).recovery event = some effect ∧
      (next.workers workerId).recovery = effect.phase) ∨
    (∀ event, action ≠ .recovery workerId event) ∧
      (next.workers workerId).recovery = (system.workers workerId).recovery := by
  cases action with
  | createJob => cases taken; exact .inr ⟨by simp, rfl⟩
  | slot other number event =>
    simp only [step, Option.ite_none_right_eq_some, Option.map_eq_some_iff] at taken
    obtain ⟨-, effect, moves, rfl⟩ := taken
    by_cases same : other = workerId
    · subst same
      exact .inr ⟨by simp, by simp [after]⟩
    · exact .inr ⟨by simp, by simp [after, Ne.symm same]⟩
  | recovery other event =>
    obtain ⟨effect, moves, rfl⟩ := Option.map_eq_some_iff.mp taken
    by_cases same : other = workerId
    · subst same
      exact .inl ⟨event, effect, rfl, moves, by simp [after]⟩
    · exact .inr ⟨by simp [same], by simp [after, Ne.symm same]⟩
  | requestStop other =>
    cases taken
    by_cases same : other = workerId
    · subst same
      exact .inr ⟨by simp, by simp⟩
    · exact .inr ⟨by simp, by simp [Ne.symm same]⟩

theorem step_stop (taken : system.step configs handlers action = some next) {workerId : String}
    (requested : (system.workers workerId).stopRequested = true) : (next.workers workerId).stopRequested = true := by
  have kept : ∀ (other : String) (worker : Worker Json),
      (worker.stopRequested = true ∨ worker.stopRequested = (system.workers other).stopRequested) →
      (Function.update system.workers other worker workerId).stopRequested = true := by
    intro other worker stop
    by_cases same : workerId = other
    · subst same
      rw [Function.update_self]
      exact stop.elim id fun equal => equal.trans requested
    · rw [Function.update_of_ne same, requested]
  cases action with
  | createJob => cases taken; exact requested
  | slot other number event =>
    simp only [step, Option.ite_none_right_eq_some, Option.map_eq_some_iff] at taken
    obtain ⟨-, effect, -, rfl⟩ := taken
    exact kept _ _ (.inr rfl)
  | recovery other event =>
    obtain ⟨effect, -, rfl⟩ := Option.map_eq_some_iff.mp taken
    exact kept _ _ (.inr rfl)
  | requestStop other =>
    cases taken
    exact kept _ _ (.inl rfl)

end WorkerSystem

end CareerProjects.JobQueue
