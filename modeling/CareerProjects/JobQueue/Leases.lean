import CareerProjects.JobQueue.Execution
import CareerProjects.JobQueue.Shutdown

/-! What the heartbeats are for. As long as no transaction reads its clock after the end of a lease of a job in hand,
no two slots of any processes have the same job in hand, and what a handler returned is stored. -/

namespace CareerProjects.JobQueue
open Library

variable {Json : Type}

def JobPhase.tried : JobPhase Json → Bool
  | .failing _ => true
  | _ => false

/-- The row of a job in hand: it runs for this worker in this attempt. Only where the slot reports a failure the job
may have succeeded, by a report whose answer was lost. -/
structure InHand (workerId : String) (job : Job Json) (phase : JobPhase Json) (row : Job Json) : Prop where
  id : row.id = job.id
  attempt : row.attemptCount = job.attemptCount
  status : row.status = .running ∧ row.workerId = some workerId ∧ row.leaseExpiresAt.isSome = true ∨
    phase.tried = true ∧ row.status = .succeeded

namespace InHand

variable {workerId : String} {job row : Job Json} {phase : JobPhase Json} {table : JobTable Json} {op : QueueOp Json}

theorem not_claimable (inHand : InHand workerId job phase row) (queues : List String) (claimedAt : Time) :
    claimable queues claimedAt row = false := by
  by_contra free
  have waiting := claimable_status (by simpa using free)
  rcases inHand.status with ⟨running, -⟩ | ⟨-, succeeded⟩
  · rw [running] at waiting
    simp at waiting
  · rw [succeeded] at waiting
    simp at waiting

theorem step (inHand : InHand workerId job phase row) (member : row ∈ table.rows)
    (kept : op.touched table row = true → ∃ call, op = .renewLease call) :
    ∃ row ∈ (op.step table).rows, InHand workerId job phase row := by
  have written := @QueueOp.mem_step_of_mem _ op _ _ member
  cases touch : op.touched table row with
  | false =>
    rw [touch] at written
    exact ⟨row, written, inHand⟩
  | true =>
    obtain ⟨call, rfl⟩ := kept touch
    rw [touch] at written
    refine ⟨_, written, inHand.id, inHand.attempt, ?_⟩
    exact inHand.status.imp_left fun running => ⟨running.1, running.2.1, rfl⟩

theorem untouched_claim (inHand : InHand workerId job phase row) (member : row ∈ table.rows) (call : ClaimJobs) :
    (QueueOp.claimJobs call : QueueOp Json).touched table row = false := by
  by_contra touch
  have free : (QueueOp.claimJobs call : QueueOp Json).guard row = true :=
    QueueOp.touched_guard member (by simpa using touch)
  rw [QueueOp.guard, inHand.not_claimable] at free
  cases free

theorem untouched_recovery (inHand : InHand workerId job phase row) (member : row ∈ table.rows)
    (call : RecoverStaleJobs) (leased : ∀ lease, row.leaseExpiresAt = some lease → call.recoveredAt < lease) :
    (QueueOp.recoverStaleJobs call : QueueOp Json).touched table row = false := by
  by_contra touch
  have abandoned : (QueueOp.recoverStaleJobs call : QueueOp Json).guard row = true :=
    QueueOp.touched_guard member (by simpa using touch)
  rw [QueueOp.guard] at abandoned
  rcases inHand.status with ⟨-, -, hasLease⟩ | ⟨-, succeeded⟩
  · obtain ⟨lease, expires⟩ := Option.isSome_iff_exists.mp hasLease
    simp only [stale, expires, Option.all_some, Bool.and_eq_true, decide_eq_true_eq] at abandoned
    exact absurd (leased lease expires) (not_lt.mpr abandoned.2)
  · rw [stale_status abandoned] at succeeded
    cases succeeded

theorem of_claim {call : ClaimJobs} (claimed : job ∈ (claimJobs call table).1) :
    ∃ row ∈ ((QueueOp.claimJobs call).step table).rows, InHand call.workerId job .executing row := by
  obtain ⟨row, -, -, rfl, member⟩ := mem_of_claimed claimed
  exact ⟨_, member, rfl, rfl, .inl ⟨rfl, rfl, rfl⟩⟩

theorem succeed (inHand : InHand workerId job phase row) (member : row ∈ table.rows) (call : MarkSucceeded Json)
    (failure : TaskFailure) :
    ∃ row ∈ ((QueueOp.markSucceeded call).step table).rows, InHand workerId job (.failing failure) row := by
  have written := @QueueOp.mem_step_of_mem _ (.markSucceeded call) table row member
  cases touch : (QueueOp.markSucceeded call).touched table row with
  | false =>
    rw [touch] at written
    exact ⟨row, written, inHand.id, inHand.attempt, inHand.status.imp_right fun tried => ⟨rfl, tried.2⟩⟩
  | true =>
    rw [touch] at written
    exact ⟨_, written, inHand.id, inHand.attempt, .inr ⟨rfl, rfl⟩⟩

end InHand

namespace WorkerSystem

def Action.clock : Action Json → Option Time
  | .slot _ _ (.claim claimedAt _ _) => some claimedAt
  | .slot _ _ (.markSucceeded completedAt _) => some completedAt
  | .slot _ _ (.markFailed failedAt _) => some failedAt
  | .slot _ _ (.renew heartbeatAt _) => some heartbeatAt
  | .recovery _ (.recover recoveredAt _ _) => some recoveredAt
  | _ => none

/-- No lease of a job in hand has run out when the step reads its clock: each was renewed in time. -/
def Timely (system : WorkerSystem Json) (action : Action Json) : Prop :=
  ∀ now, action.clock = some now → ∀ workerId number job, ((system.workers workerId).slots number).Holds job →
    ∀ row ∈ system.table.rows, row.id = job.id → ∀ lease, row.leaseExpiresAt = some lease → now < lease

/-- Each job in hand has its row, and no other slot has it in hand. -/
structure Exclusive (system : WorkerSystem Json) : Prop where
  inHand : ∀ workerId number job phase heartbeat,
    (system.workers workerId).slots number = .processing job phase heartbeat → phase.reported = false →
      ∃ row ∈ system.table.rows, InHand workerId job phase row
  alone : ∀ workerId number other number' job job', ((system.workers workerId).slots number).Holds job →
    ((system.workers other).slots number').Holds job' → job.id = job'.id → workerId = other ∧ number = number'

namespace Exclusive

theorem holds_iff {phase : SlotPhase Json} {job : Job Json} :
    phase.Holds job ↔ ∃ step heartbeat, phase = .processing job step heartbeat ∧ step.reported = false := by
  cases phase with
  | processing held step heartbeat =>
    constructor
    · rintro ⟨rfl, open_⟩
      exact ⟨step, heartbeat, rfl, open_⟩
    · rintro ⟨step', heartbeat', same, open_⟩
      cases same
      exact ⟨rfl, open_⟩
  | _ => simp [SlotPhase.Holds]

variable {configs : String → WorkerConfig} {handlers : TaskHandlers Json} {system next : WorkerSystem Json}
  {action : Action Json}

theorem slot_inHand {config : WorkerConfig} {workerId : String} {stopRequested : Bool} {table : JobTable Json}
    {before : SlotPhase Json} {event : SlotEvent} {effect : Effect Json (SlotPhase Json)}
    (known : ∀ job phase heartbeat, before = .processing job phase heartbeat → phase.reported = false →
      ∃ row ∈ table.rows, InHand workerId job phase row)
    (taken : JobWorker.slotStep config workerId handlers stopRequested table before event = some effect)
    {job : Job Json} {phase : JobPhase Json} {heartbeat : HeartbeatPhase}
    (reached : effect.phase = .processing job phase heartbeat) (open_ : phase.reported = false) :
    (∃ row ∈ (effect.tableAfter table).rows, InHand workerId job phase row) ∧
      (before.Holds job ∨
        ∃ row ∈ table.rows, row.id = job.id ∧ (row.status = .queued ∨ row.status = .retryScheduled)) := by
  unfold JobWorker.slotStep at taken
  split at taken <;> cases taken
  case h_1 => cases stopRequested <;> cases reached
  case h_2 claimedAt locked delivery =>
    cases delivery with
    | answered =>
      have claimed : job ∈ (claimJobs (JobWorker.claimCall config workerId claimedAt locked) table).1 := by
        simp only [Effect.call] at reached
        split at reached
        · cases reached
        · next first =>
          cases reached
          exact List.mem_of_mem_head? first
      have executing : phase = .executing := by
        simp only [Effect.call] at reached
        split at reached <;> cases reached
        rfl
      subst executing
      obtain ⟨row, member, free, same, -⟩ := mem_of_claimed claimed
      exact ⟨InHand.of_claim claimed, .inr ⟨row, member, by rw [← same]; rfl, claimable_status free⟩⟩
    | unanswered => cases reached
    | failed => cases reached
  case h_3 => cases reached
  case h_4 =>
    cases reached
    obtain ⟨row, member, inHand⟩ := known _ _ _ rfl rfl
    refine ⟨⟨row, member, inHand.id, inHand.attempt, inHand.status.imp_right fun tried => ?_⟩, .inl ⟨rfl, rfl⟩⟩
    cases tried.1
  case h_5 completedAt delivery =>
    obtain ⟨row, member, inHand⟩ := known _ _ _ rfl rfl
    cases delivery with
    | answered =>
      cases reached
      cases open_
    | unanswered =>
      cases reached
      exact ⟨inHand.succeed member _ _, .inl ⟨rfl, rfl⟩⟩
    | failed =>
      cases reached
      exact ⟨⟨row, member, inHand.id, inHand.attempt, inHand.status.imp_right fun tried => ⟨rfl, tried.2⟩⟩,
        .inl ⟨rfl, rfl⟩⟩
  case h_6 failedAt delivery => cases delivery <;> cases reached <;> cases open_
  case h_7 =>
    cases reached
    cases open_
  case h_8 =>
    cases reached
    exact ⟨known _ _ _ rfl open_, .inl ⟨rfl, open_⟩⟩
  case h_9 held step heartbeatAt delivery =>
    have same : held = job ∧ step = phase := by cases delivery <;> cases reached <;> exact ⟨rfl, rfl⟩
    obtain ⟨rfl, rfl⟩ := same
    obtain ⟨row, member, inHand⟩ := known _ _ _ rfl open_
    have renewed := @InHand.step _ _ _ _ _ _
      (.renewLease ⟨held.id, workerId, config.leaseDurationSeconds, heartbeatAt⟩) inHand member fun _ => ⟨_, rfl⟩
    refine ⟨?_, .inl ⟨rfl, open_⟩⟩
    cases delivery with
    | answered => exact renewed
    | unanswered => exact renewed
    | failed => exact ⟨row, member, inHand⟩
  case h_10 => cases reached

theorem kept_elsewhere {config : WorkerConfig} {workerId : String} {stopRequested : Bool} {table : JobTable Json}
    {before : SlotPhase Json} {event : SlotEvent} {effect : Effect Json (SlotPhase Json)}
    (taken : JobWorker.slotStep config workerId handlers stopRequested table before event = some effect)
    {other : String} {job row : Job Json} {phase : JobPhase Json} (member : row ∈ table.rows)
    (inHand : InHand other job phase row) (elsewhere : ∀ held, before.Holds held → held.id ≠ job.id) :
    ∃ row ∈ (effect.tableAfter table).rows, InHand other job phase row := by
  have kept : ∀ op, effect.op = some op → op.touched table row = true → ∃ call, op = .renewLease call := by
    intro op commits touch
    unfold JobWorker.slotStep at taken
    split at taken <;> cases taken
    case h_2 =>
      rw [JobWorker.op_call commits, inHand.untouched_claim member] at touch
      cases touch
    case h_5 =>
      rw [JobWorker.op_call commits] at touch
      exact absurd ((ownedRow_iff.mp touch).1.symm.trans inHand.id) (elsewhere _ ⟨rfl, rfl⟩)
    case h_6 =>
      rw [JobWorker.op_call commits] at touch
      exact absurd ((ownedRow_iff.mp touch).1.symm.trans inHand.id) (elsewhere _ ⟨rfl, rfl⟩)
    case h_9 => exact ⟨_, JobWorker.op_call commits⟩
    all_goals cases commits
  unfold Effect.tableAfter
  cases made : effect.op with
  | none => exact ⟨row, member, inHand⟩
  | some op => exact inHand.step member (kept op made)

theorem kept_recovery {stopRequested : Bool} {table : JobTable Json} {before : RecoveryPhase} {event : RecoveryEvent}
    {effect : Effect Json RecoveryPhase}
    (taken : JobWorker.recoveryStep stopRequested table before event = some effect)
    {workerId : String} {job row : Job Json} {phase : JobPhase Json} (member : row ∈ table.rows)
    (inHand : InHand workerId job phase row)
    (leased : ∀ recoveredAt locked delivery, event = .recover recoveredAt locked delivery →
      ∀ lease, row.leaseExpiresAt = some lease → recoveredAt < lease) :
    ∃ row ∈ (effect.tableAfter table).rows, InHand workerId job phase row := by
  have kept : ∀ op, effect.op = some op → op.touched table row = true → ∃ call, op = .renewLease call := by
    intro op commits touch
    unfold JobWorker.recoveryStep at taken
    split at taken <;> cases taken
    · cases commits
    · rw [JobWorker.op_call commits, inHand.untouched_recovery member _ (leased _ _ _ rfl)] at touch
      cases touch
    · cases commits
  unfold Effect.tableAfter
  cases made : effect.op with
  | none => exact ⟨row, member, inHand⟩
  | some op => exact inHand.step member (kept op made)

theorem rows_step (exclusive : Exclusive system) (timely : Timely system action)
    (taken : system.step configs handlers action = some next) {workerId : String} {number : Nat} {job : Job Json}
    {phase : JobPhase Json} {heartbeat : HeartbeatPhase}
    (reached : (next.workers workerId).slots number = .processing job phase heartbeat)
    (open_ : phase.reported = false) : ∃ row ∈ next.table.rows, InHand workerId job phase row := by
  rcases step_slot taken workerId number with ⟨event, effect, -, moves, slot, table⟩ | ⟨other, same⟩
  · rw [table]
    exact (slot_inHand (exclusive.inHand workerId number) moves (slot ▸ reached) open_).1
  · rw [same] at reached
    obtain ⟨row, member, inHand⟩ := exclusive.inHand workerId number job phase heartbeat reached open_
    have holds : ((system.workers workerId).slots number).Holds job := by
      rw [reached]
      exact ⟨rfl, open_⟩
    cases action with
    | createJob data id now =>
      cases taken
      exact @InHand.step _ _ _ _ _ _ (.createJob data id now) inHand member nofun
    | slot worker slot event =>
      simp only [step, Option.ite_none_right_eq_some, Option.map_eq_some_iff] at taken
      obtain ⟨-, effect, moves, rfl⟩ := taken
      refine kept_elsewhere moves member inHand fun held holds' same => ?_
      obtain ⟨rfl, rfl⟩ := exclusive.alone _ _ _ _ _ _ holds' holds same
      exact other event rfl
    | recovery worker event =>
      obtain ⟨effect, moves, rfl⟩ := Option.map_eq_some_iff.mp taken
      refine kept_recovery moves member inHand ?_
      rintro recoveredAt locked delivery rfl
      exact timely recoveredAt rfl workerId number job holds row member inHand.id
    | requestStop worker =>
      cases taken
      exact ⟨row, member, inHand⟩

theorem held_before (exclusive : Exclusive system) (taken : system.step configs handlers action = some next)
    {workerId : String} {number : Nat} {job : Job Json} (holds : ((next.workers workerId).slots number).Holds job) :
    ((system.workers workerId).slots number).Holds job ∨ (∃ event, action = .slot workerId number event) ∧
      ∃ row ∈ system.table.rows, row.id = job.id ∧ (row.status = .queued ∨ row.status = .retryScheduled) := by
  rcases step_slot taken workerId number with ⟨event, effect, rfl, moves, slot, -⟩ | ⟨-, same⟩
  · obtain ⟨phase, heartbeat, reached, open_⟩ := holds_iff.mp holds
    rcases (slot_inHand (exclusive.inHand workerId number) moves (slot ▸ reached) open_).2 with before | free
    · exact .inl before
    · exact .inr ⟨⟨event, rfl⟩, free⟩
  · exact .inl (same ▸ holds)

theorem not_free (exclusive : Exclusive system) {workerId : String} {number : Nat} {job row : Job Json}
    (holds : ((system.workers workerId).slots number).Holds job) (member : row ∈ system.table.rows)
    (same : row.id = job.id) (free : row.status = .queued ∨ row.status = .retryScheduled) : False := by
  obtain ⟨phase, heartbeat, reached, open_⟩ := holds_iff.mp holds
  obtain ⟨own, inside, inHand⟩ := exclusive.inHand workerId number job phase heartbeat reached open_
  rw [JobTable.eq_of_id member inside (same.trans inHand.id.symm)] at free
  rcases inHand.status with ⟨running, -⟩ | ⟨-, succeeded⟩
  · rw [running] at free
    simp at free
  · rw [succeeded] at free
    simp at free

theorem step (exclusive : Exclusive system) (timely : Timely system action)
    (taken : system.step configs handlers action = some next) : Exclusive next := by
  refine ⟨fun workerId number job phase heartbeat => exclusive.rows_step timely taken, ?_⟩
  intro workerId number other number' job job' holds holds' same
  rcases exclusive.held_before taken holds with before | ⟨⟨event, rfl⟩, row, member, id, free⟩
  · rcases exclusive.held_before taken holds' with before' | ⟨-, row, member, id, free⟩
    · exact exclusive.alone _ _ _ _ _ _ before before' same
    · exact (exclusive.not_free before member (id.trans same.symm) free).elim
  · rcases exclusive.held_before taken holds' with before' | ⟨⟨event', action⟩, -⟩
    · exact (exclusive.not_free before' member (id.trans same) free).elim
    · cases action
      exact ⟨rfl, rfl⟩

theorem of_run {labels : List (Action Json)}
    (run : Run (fun a action b => a.step configs handlers action = some b ∧ Timely a action) initial labels system) :
    Exclusive system := by
  have start : Exclusive (initial : WorkerSystem Json) :=
    ⟨fun _ _ _ _ _ reached _ => (by cases reached), fun _ _ _ _ _ _ holds _ _ => (by cases holds)⟩
  exact run.invariant_of_guard start fun _ _ _ known taken timely => known.step timely taken

end Exclusive

/-- In every run of all processes in which no lease of a job in hand runs out, with calls that raise before or after
their commit: no two slots have the same job in hand; the row of a job in hand runs for its worker in the attempt that
the slot claimed, or has succeeded in it by a report whose answer was lost; and what a handler returned is stored when
its slot reports it. -/
theorem exclusive_while_leased (configs : String → WorkerConfig) (handlers : TaskHandlers Json)
    (labels : List (Action Json)) (system : WorkerSystem Json)
    (run : Run (fun a action b => a.step configs handlers action = some b ∧ Timely a action) initial labels system) :
    (∀ workerId number other number' job job', ((system.workers workerId).slots number).Holds job →
      ((system.workers other).slots number').Holds job' → job.id = job'.id → workerId = other ∧ number = number') ∧
    (∀ workerId number job phase heartbeat,
      (system.workers workerId).slots number = .processing job phase heartbeat → phase.reported = false →
        ∃ row ∈ system.table.rows, InHand workerId job phase row) ∧
    ∀ workerId number job result heartbeat completedAt next,
      (system.workers workerId).slots number = .processing job (.succeeding result) heartbeat →
      Timely system (.slot workerId number (.markSucceeded completedAt .answered)) →
      system.step configs handlers (.slot workerId number (.markSucceeded completedAt .answered)) = some next →
        ∃ row ∈ next.table.rows, row.id = job.id ∧ row.attemptCount = job.attemptCount ∧ row.status = .succeeded ∧
          row.result = some result := by
  have exclusive := Exclusive.of_run run
  refine ⟨exclusive.alone, exclusive.inHand, ?_⟩
  intro workerId number job result heartbeat completedAt next slot timely taken
  obtain ⟨row, member, inHand⟩ := exclusive.inHand _ _ _ _ _ slot rfl
  have holds : ((system.workers workerId).slots number).Holds job := by
    rw [slot]
    exact ⟨rfl, rfl⟩
  simp only [step, Option.ite_none_right_eq_some, Option.map_eq_some_iff, slot] at taken
  obtain ⟨-, effect, moves, rfl⟩ := taken
  cases moves
  rcases inHand.status with ⟨running, worker, hasLease⟩ | ⟨tried, -⟩
  · obtain ⟨lease, expires⟩ := Option.isSome_iff_exists.mp hasLease
    have owned : ownedRow job.id workerId completedAt row = true :=
      ownedRow_iff.mpr ⟨inHand.id, running, worker, lease, expires,
        timely completedAt rfl workerId number job holds row member inHand.id lease expires⟩
    have written := @QueueOp.mem_step_of_mem _ (.markSucceeded ⟨job.id, workerId, result, completedAt⟩) _ _ member
    rw [if_pos (show QueueOp.touched (.markSucceeded ⟨job.id, workerId, result, completedAt⟩) system.table row = true
      from owned)] at written
    exact ⟨_, written, inHand.id, inHand.attempt, rfl, rfl⟩
  · cases tried

/-- All leases of the table last when an action reads the clock. -/
def leasesLast (system : WorkerSystem Json) (action : Action Json) : Bool :=
  system.table.rows.all fun row => row.leaseExpiresAt.all fun lease => action.clock.all (· < lease)

theorem timely_of_leasesLast {system : WorkerSystem Json} {action : Action Json} (lasts : system.leasesLast action) :
    Timely system action := by
  intro now reads workerId number job holds row member same lease expires
  have last := List.all_eq_true.mp lasts row member
  rw [expires, Option.all_some, reads, Option.all_some, decide_eq_true_eq] at last
  exact last

def stepInTime (system : WorkerSystem String) (action : Action String) : Option (WorkerSystem String) :=
  if system.leasesLast action then system.step (fun _ => defaultSettings) (fun _ payload => .ok payload) action else none

theorem stepInTime_eq {system next : WorkerSystem String} {action : Action String}
    (moves : system.stepInTime action = some next) :
    system.step (fun _ => defaultSettings) (fun _ payload => .ok payload) action = some next ∧ Timely system action := by
  rw [stepInTime, Option.ite_none_right_eq_some] at moves
  exact ⟨moves.2, timely_of_leasesLast moves.1⟩

/-- A job whose lease of 30 seconds is renewed on the way. -/
def renewedRun : List (Action String) :=
  [.createJob echoJob 7 0, .slot "a" 1 .poll, .slot "a" 1 (.claim 1 (fun _ => false) .answered), .slot "a" 1 .beat,
    .slot "a" 1 (.renew 16 .answered), .slot "a" 1 .execute]

def resultInHand : SlotPhase String → Option String
  | .processing _ (.succeeding result) _ => some result
  | _ => none

/-- Its result is reported after the first lease would have ended, and stored. -/
theorem exclusive_while_leased_renewed : ∃ (labels : List (Action String)) (system next : WorkerSystem String)
    (job : Job String) (heartbeat : HeartbeatPhase),
    Run (fun a action b => a.step (fun _ => defaultSettings) (fun _ payload => .ok payload) action = some b ∧
      Timely a action) initial labels system ∧
    system.table.rows.map Job.leaseExpiresAt = [some 46] ∧
    (system.workers "a").slots 1 = .processing job (.succeeding "{}") heartbeat ∧
    system.step (fun _ => defaultSettings) (fun _ payload => .ok payload)
      (.slot "a" 1 (.markSucceeded 40 .answered)) = some next ∧
    ∃ row ∈ next.table.rows, row.id = job.id ∧ row.attemptCount = job.attemptCount ∧ row.status = .succeeded ∧
      row.result = some "{}" := by
  have facts : (renewedRun.foldlM stepInTime initial).map (fun system =>
      (system.table.rows.map Job.leaseExpiresAt, resultInHand ((system.workers "a").slots 1),
        (system.stepInTime (.slot "a" 1 (.markSucceeded 40 .answered))).isSome)) =
          some ([some 46], some "{}", true) := by
    decide +kernel
  obtain ⟨system, found, facts⟩ := Option.map_eq_some_iff.mp facts
  rw [Prod.mk.injEq, Prod.mk.injEq] at facts
  obtain ⟨leases, phase, reports⟩ := facts
  have run := (Run.of_foldlM found).mono fun _ _ _ moves => stepInTime_eq moves
  obtain ⟨next, reports⟩ := Option.isSome_iff_exists.mp reports
  obtain ⟨reports, timely⟩ := stepInTime_eq reports
  cases slot : (system.workers "a").slots 1 with
  | processing job step heartbeat =>
    cases step with
    | succeeding result =>
      rw [slot] at phase
      cases phase
      exact ⟨_, system, next, job, heartbeat, run, leases, slot, reports,
        (exclusive_while_leased _ _ _ system run).2.2 "a" 1 job _ heartbeat 40 next slot timely reports⟩
    | _ => simp [slot, resultInHand] at phase
  | _ => simp [slot, resultInHand] at phase

end WorkerSystem

end CareerProjects.JobQueue
