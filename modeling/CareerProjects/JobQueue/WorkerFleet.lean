import CareerProjects.JobQueue.Worker

/-! The workers are a fleet: what their slots do to the table and to each other is what the slots of a fleet may do,
so that the fencing of reports holds of the runtime. -/

namespace CareerProjects.JobQueue
open Library

variable {Json : Type}

def SlotPhase.jobId : SlotPhase Json → Option Uuid
  | .processing job _ _ => some job.id
  | _ => none

/-- The same table, and each slot busy with the job that it processes. -/
structure Abstracts (system : WorkerSystem Json) (fleet : Fleet Json) : Prop where
  table : fleet.table = system.table
  slots : ∀ workerId number,
    (fleet.slots ⟨workerId, number⟩).map Attempt.jobId = ((system.workers workerId).slots number).jobId

/-- The steps of a fleet that a step of one slot stands for. -/
structure Matches (fleet fleet' : Fleet Json) (slot : SlotId) (table : JobTable Json) (jobId : Option Uuid) : Prop where
  reached : Reached (fun a action b => Fleet.step a action = some b) fleet fleet'
  table : fleet'.table = table
  busy : (fleet'.slots slot).map Attempt.jobId = jobId
  others : ∀ other, other ≠ slot → fleet'.slots other = fleet.slots other

namespace Matches

variable {fleet : Fleet Json} {slot : SlotId} {table : JobTable Json}

theorem stay (same : fleet.table = table) : Matches fleet fleet slot table ((fleet.slots slot).map Attempt.jobId) :=
  ⟨.refl fleet, same, rfl, fun _ _ => rfl⟩

theorem report {attempt : Attempt} (busy : fleet.slots slot = some attempt) (report : Report Json) :
    ∃ fleet', Matches fleet fleet' slot ((report.op slot.process attempt.jobId).step fleet.table)
      (some attempt.jobId) := by
  refine ⟨{ fleet with table := (report.op slot.process attempt.jobId).step fleet.table }, ?_, rfl, ?_, fun _ _ => rfl⟩
  · have moves : fleet.step (.report slot report) =
        some { fleet with table := (report.op slot.process attempt.jobId).step fleet.table } := by
      simp only [Fleet.step, busy, Option.map_some]
    exact (Reached.refl fleet).tail moves
  · exact congrArg (Option.map Attempt.jobId) busy

theorem finish {attempt : Attempt} (busy : fleet.slots slot = some attempt) :
    ∃ fleet', Matches fleet fleet' slot fleet.table none := by
  refine ⟨{ fleet with slots := Function.update fleet.slots slot none }, ?_, rfl, by simp, fun other different => ?_⟩
  · have moves : fleet.step (.finish slot) = some { fleet with slots := Function.update fleet.slots slot none } := by
      simp only [Fleet.step, busy, Option.map_some]
    exact (Reached.refl fleet).tail moves
  · exact Function.update_of_ne different _ _

theorem claim (idle : fleet.slots slot = none) (queues : List String) (lease : ℚ) (claimedAt : Time)
    (locked : Uuid → Bool) : ∃ fleet', Matches fleet fleet' slot
      (claimJobs ⟨slot.process, queues, 1, lease, claimedAt, locked⟩ fleet.table).2
      ((claimJobs ⟨slot.process, queues, 1, lease, claimedAt, locked⟩ fleet.table).1.head?.map Job.id) := by
  refine ⟨fleet.claimJob slot ⟨slot.process, queues, 1, lease, claimedAt, locked⟩, ?_, ?_, ?_, ?_⟩
  · have moves : fleet.step (.claimJob slot queues lease claimedAt locked) =
        some (fleet.claimJob slot ⟨slot.process, queues, 1, lease, claimedAt, locked⟩) := by
      simp only [Fleet.step, idle]
    exact (Reached.refl fleet).tail moves
  all_goals unfold Fleet.claimJob
  · split <;> rfl
  · split
    · next empty => rw [idle, empty]; rfl
    · next first => simp [first]
  · intro other different
    split
    · rfl
    · exact Function.update_of_ne different _ _

theorem trans {fleet' : Fleet Json} {middle : JobTable Json} {jobId jobId' : Option Uuid}
    (first : Matches fleet fleet' slot middle jobId) {last : Fleet Json}
    (second : Matches fleet' last slot table jobId') : Matches fleet last slot table jobId' :=
  ⟨first.reached.trans second.reached, second.table, second.busy,
    fun other different => (second.others other different).trans (first.others other different)⟩

end Matches

namespace JobWorker

variable {fleet : Fleet Json} {config : WorkerConfig} {workerId : String} {number : Nat} {handlers : TaskHandlers Json}
  {stopRequested : Bool} {phase : SlotPhase Json} {event : SlotEvent} {effect : Effect Json (SlotPhase Json)}

theorem busy_of_jobId {job : Job Json} (same : (fleet.slots ⟨workerId, number⟩).map Attempt.jobId = some job.id) :
    ∃ attempt, fleet.slots ⟨workerId, number⟩ = some attempt ∧ attempt.jobId = job.id :=
  Option.map_eq_some_iff.mp same

theorem match_report {job : Job Json} (same : (fleet.slots ⟨workerId, number⟩).map Attempt.jobId = some job.id)
    (report : Report Json) {answered : SlotPhase Json} {raised : String → SlotPhase Json} {onError : List Metric}
    (afterAnswer : answered.jobId = some job.id) (afterError : ∀ error, (raised error).jobId = some job.id)
    (delivery : Delivery) : ∃ fleet', Matches fleet fleet' ⟨workerId, number⟩
      ((Effect.call (report.op workerId job.id) fleet.table answered raised onError delivery).tableAfter fleet.table)
      (Effect.call (report.op workerId job.id) fleet.table answered raised onError delivery).phase.jobId := by
  obtain ⟨attempt, busy, id⟩ := busy_of_jobId same
  have made := Matches.report busy report
  rw [id] at made
  cases delivery with
  | answered => exact afterAnswer.symm ▸ made
  | unanswered error => exact (afterError error).symm ▸ made
  | failed error => exact ⟨fleet, (afterError error).symm ▸ same ▸ Matches.stay rfl⟩

theorem match_slot (same : (fleet.slots ⟨workerId, number⟩).map Attempt.jobId = phase.jobId)
    (taken : slotStep config workerId handlers stopRequested fleet.table phase event = some effect) :
    ∃ fleet', Matches fleet fleet' ⟨workerId, number⟩ (effect.tableAfter fleet.table) effect.phase.jobId := by
  have stay : ∀ {effect : Effect Json (SlotPhase Json)}, effect.op = none → effect.phase.jobId = phase.jobId →
      ∃ fleet', Matches fleet fleet' ⟨workerId, number⟩ (effect.tableAfter fleet.table) effect.phase.jobId := by
    intro effect silent kept
    refine ⟨fleet, ?_⟩
    rw [Effect.tableAfter, silent, kept, ← same]
    exact Matches.stay rfl
  unfold slotStep at taken
  split at taken <;> cases taken
  case h_1 => exact stay rfl (by cases stopRequested <;> rfl)
  case h_2 claimedAt locked delivery =>
    have idle : fleet.slots ⟨workerId, number⟩ = none := Option.map_eq_none_iff.mp same
    obtain ⟨fleet', claims⟩ := Matches.claim idle config.queueNames config.leaseDurationSeconds claimedAt locked
    cases delivery with
    | answered =>
      refine ⟨fleet', ?_⟩
      have claims : Matches fleet fleet' ⟨workerId, number⟩
          (claimJobs (claimCall config workerId claimedAt locked) fleet.table).2
          ((claimJobs (claimCall config workerId claimedAt locked) fleet.table).1.head?.map Job.id) := claims
      simp only [Effect.call]
      split
      · next none =>
        rw [none] at claims
        exact claims
      · next job one =>
        rw [one] at claims
        exact claims
    | unanswered error =>
      cases lost : fleet'.slots ⟨workerId, number⟩ with
      | none => exact ⟨fleet', claims.reached, claims.table, by rw [lost]; rfl, claims.others⟩
      | some attempt =>
        obtain ⟨last, drops⟩ := Matches.finish lost
        rw [claims.table] at drops
        exact ⟨last, claims.trans drops⟩
    | failed error => exact ⟨fleet, .refl fleet, rfl, same, fun _ _ => rfl⟩
  case h_3 => exact stay rfl rfl
  case h_4 => exact stay rfl rfl
  case h_5 job result heartbeat completedAt delivery =>
    exact match_report same (.markSucceeded result completedAt) rfl (fun _ => rfl) delivery
  case h_6 job failure heartbeat failedAt delivery =>
    exact match_report same (.markFailed failure.message (!failure.handlerError) config.retryBaseDelaySeconds
      config.retryMaxDelaySeconds failedAt) rfl (fun _ => rfl) delivery
  case h_7 => exact stay rfl rfl
  case h_8 => exact stay rfl rfl
  case h_9 job step heartbeatAt delivery =>
    exact match_report same (.renewLease config.leaseDurationSeconds heartbeatAt) rfl (fun _ => rfl) delivery
  case h_10 =>
    obtain ⟨attempt, busy, -⟩ := busy_of_jobId same
    exact Matches.finish busy

theorem recovery_op {table : JobTable Json} {phase : RecoveryPhase} {event : RecoveryEvent}
    {effect : Effect Json RecoveryPhase} (taken : recoveryStep stopRequested table phase event = some effect) :
    effect.op = none ∨ ∃ call, effect.op = some (.recoverStaleJobs call) := by
  unfold recoveryStep at taken
  split at taken <;> cases taken
  · exact .inl rfl
  · next recoveredAt locked delivery =>
    cases delivery with
    | answered => exact .inr ⟨_, rfl⟩
    | unanswered => exact .inr ⟨_, rfl⟩
    | failed => exact .inl rfl
  · exact .inl rfl

end JobWorker

namespace WorkerSystem

variable {configs : String → WorkerConfig} {handlers : TaskHandlers Json} {system next : WorkerSystem Json}
  {action : Action Json} {fleet : Fleet Json}

theorem abstracts_step (abstracts : Abstracts system fleet)
    (unchanged : ∀ workerId number,
      ((next.workers workerId).slots number).jobId = ((system.workers workerId).slots number).jobId)
    {fleet' : Fleet Json} (slots : fleet'.slots = fleet.slots) (table : fleet'.table = next.table) :
    Abstracts next fleet' :=
  ⟨table, fun workerId number => by rw [slots, unchanged, abstracts.slots]⟩

theorem match_step (abstracts : Abstracts system fleet)
    (taken : system.step configs handlers action = some next) :
    ∃ fleet', Reached (fun a action b => Fleet.step a action = some b) fleet fleet' ∧ Abstracts next fleet' := by
  cases action with
  | createJob data id now =>
    cases taken
    have moves : fleet.step (.createJob data id now) =
      some { fleet with table := (QueueOp.createJob data id now).step fleet.table } := rfl
    exact ⟨_, (Reached.refl fleet).tail moves, congrArg (QueueOp.createJob data id now).step abstracts.table,
      abstracts.slots⟩
  | slot workerId number event =>
    have own := taken
    simp only [step, Option.ite_none_right_eq_some, Option.map_eq_some_iff] at own
    obtain ⟨-, effect, moves, rfl⟩ := own
    rw [← abstracts.table] at moves
    obtain ⟨fleet', matched⟩ := JobWorker.match_slot (abstracts.slots workerId number) moves
    refine ⟨fleet', matched.reached, ?_, fun other number' => ?_⟩
    · rw [matched.table, abstracts.table]
      rfl
    · by_cases same : other = workerId ∧ number' = number
      · obtain ⟨rfl, rfl⟩ := same
        simpa [after] using matched.busy
      · have different : (⟨other, number'⟩ : SlotId) ≠ ⟨workerId, number⟩ := by
          simpa only [ne_eq, SlotId.mk.injEq] using same
        rw [matched.others _ different, abstracts.slots]
        rcases step_slot taken other number' with ⟨_, _, action, -⟩ | ⟨-, kept⟩
        · cases action
          exact absurd ⟨rfl, rfl⟩ same
        · rw [kept]
  | recovery workerId event =>
    have kept : ∀ other number, (next.workers other).slots number = (system.workers other).slots number := by
      intro other number
      rcases step_slot taken other number with ⟨_, _, action, -⟩ | ⟨-, kept⟩
      · cases action
      · exact kept
    have unchanged : ∀ other number,
        ((next.workers other).slots number).jobId = ((system.workers other).slots number).jobId :=
      fun other number => by rw [kept]
    obtain ⟨effect, moves, rfl⟩ := Option.map_eq_some_iff.mp taken
    rcases JobWorker.recovery_op moves with silent | ⟨call, made⟩
    · refine ⟨fleet, .refl fleet, abstracts_step abstracts unchanged rfl ?_⟩
      simp only [after, Effect.tableAfter, silent, Option.elim_none, abstracts.table]
    · obtain ⟨fleet', moves'⟩ : ∃ fleet', fleet.step (.recoverStaleJobs call) = some fleet' := ⟨_, rfl⟩
      refine ⟨fleet', (Reached.refl fleet).tail moves', ?_⟩
      cases moves'
      refine abstracts_step abstracts unchanged rfl ?_
      simp only [after, Effect.tableAfter, made, Option.elim_some, abstracts.table]
  | requestStop workerId =>
    have kept : ∀ other number, (next.workers other).slots number = (system.workers other).slots number := by
      intro other number
      rcases step_slot taken other number with ⟨_, _, action, -⟩ | ⟨-, kept⟩
      · cases action
      · exact kept
    cases taken
    exact ⟨fleet, .refl fleet, abstracts_step abstracts (fun other number => by rw [kept]) rfl abstracts.table⟩

/-- Every state that the workers reach, with calls that raise before or after their commit, is that of a fleet: the
fleet reaches the same table with each slot busy with the job that it processes. -/
theorem workers_are_fleet (configs : String → WorkerConfig) (handlers : TaskHandlers Json)
    (system : WorkerSystem Json) (reachable : system.Reachable configs handlers) :
    ∃ fleet : Fleet Json, fleet.Reachable ∧ Abstracts system fleet := by
  obtain ⟨labels, run⟩ := reachable
  have start : Abstracts (initial : WorkerSystem Json) Fleet.initial := ⟨rfl, fun _ _ => rfl⟩
  exact run.simulate start fun _ _ _ _ abstracts taken => match_step abstracts taken

theorem workers_are_fleet_unanswered : ∃ (system : WorkerSystem String) (fleet : Fleet String),
    system.table.rows.map (·.status) = [.succeeded] ∧ fleet.Reachable ∧ Abstracts system fleet := by
  have rows : ((unansweredSuccess.foldlM (step (fun _ => defaultSettings) fun _ payload => .ok payload)
      initial).map fun system => system.table.rows.map (·.status)) = some [.succeeded] := by
    decide +kernel
  obtain ⟨system, found, statuses⟩ := Option.map_eq_some_iff.mp rows
  obtain ⟨fleet, reachable, abstracts⟩ := workers_are_fleet (fun _ => defaultSettings) (fun _ payload => .ok payload)
    system (Reached.of_foldlM found)
  exact ⟨system, fleet, statuses, reachable, abstracts⟩

end WorkerSystem

end CareerProjects.JobQueue
