import CareerProjects.JobQueue.Fencing
import CareerProjects.JobQueue.Worker

/-! Graceful shutdown. Once it is asked to stop, a worker claims nothing it has not already asked for, reports on the
jobs at hand, and takes only so many steps more; only the heartbeat of a job goes on as long as its handler does. -/

namespace CareerProjects.JobQueue
open Library

variable {Json : Type}

/-- How many steps a slot takes at most until it stops, without those of a heartbeat. -/
def SlotPhase.remaining : SlotPhase Json → ℕ
  | .stopped => 0
  | .polling => 1
  | .waiting => 2
  | .processing _ .closing .finished => 2
  | .processing _ .closing _ => 3
  | .processing _ (.failing _) _ => 4
  | .processing _ (.succeeding _) _ => 5
  | .processing _ .executing _ => 6
  | .claiming => 7

def SlotPhase.claims : SlotPhase Json → ℕ
  | .claiming => 1
  | _ => 0

def JobPhase.reported : JobPhase Json → Bool
  | .closing => true
  | _ => false

/-- The slot works on the job and has not reported on it. -/
def SlotPhase.Holds (job : Job Json) : SlotPhase Json → Prop
  | .processing held phase _ => held = job ∧ phase.reported = false
  | _ => False

def RecoveryPhase.remaining : RecoveryPhase → ℕ
  | .stopped => 0
  | .polling => 1
  | .waiting => 2
  | .recovering => 3

namespace SlotEvent

def claims : SlotEvent → Bool
  | .claim .. => true
  | _ => false

/-- A report on the job that ends the slot's work on it. -/
def reports : SlotEvent → Bool
  | .markSucceeded _ .answered => true
  | .markFailed .. => true
  | _ => false

end SlotEvent

namespace JobWorker

variable {config : WorkerConfig} {workerId : String} {handlers : TaskHandlers Json} {table : JobTable Json}
  {stopRequested : Bool} {phase : SlotPhase Json} {event : SlotEvent} {effect : Effect Json (SlotPhase Json)}

theorem remaining_closing_le (job : Job Json) (heartbeat : HeartbeatPhase) :
    (SlotPhase.processing job .closing heartbeat).remaining ≤ 3 := by
  cases heartbeat <;> simp [SlotPhase.remaining]

theorem remaining_beat (job : Job Json) (phase : JobPhase Json) {before after : HeartbeatPhase}
    (running : before ≠ .finished) :
    (SlotPhase.processing job phase after).remaining ≤ (SlotPhase.processing job phase before).remaining := by
  cases phase with
  | closing => cases before <;> cases after <;> simp_all [SlotPhase.remaining]
  | _ => exact le_rfl

theorem remaining_step (taken : slotStep config workerId handlers true table phase event = some effect) :
    effect.phase.remaining + (!event.ofHeartbeat).toNat ≤ phase.remaining := by
  unfold slotStep at taken
  split at taken <;> cases taken
  · exact le_rfl
  · next claimedAt locked delivery =>
    cases delivery with
    | answered =>
      refine Nat.add_le_add_right (m := 6) ?_ 1
      simp only [Effect.call]
      split <;> simp [SlotPhase.remaining]
    | unanswered => exact Nat.le_of_ble_eq_true rfl
    | failed => exact Nat.le_of_ble_eq_true rfl
  · exact le_rfl
  · next job heartbeat =>
    refine Nat.add_le_add_right (m := 5) ?_ 1
    simp only [Effect.goto]
    split <;> simp [SlotPhase.remaining]
  · next job result heartbeat completedAt delivery =>
    cases delivery with
    | answered => exact Nat.add_le_add_right ((remaining_closing_le job heartbeat).trans (Nat.le_succ 3)) 1
    | unanswered => exact le_rfl
    | failed => exact le_rfl
  · next job failure heartbeat failedAt delivery =>
    have closes := Nat.add_le_add_right (remaining_closing_le job heartbeat) 1
    cases delivery <;> exact closes
  · exact Nat.le_succ 2
  · exact remaining_beat _ _ (by simp)
  · next job phase heartbeatAt delivery => cases delivery <;> exact remaining_beat _ _ (by simp)
  · exact le_rfl

theorem claims_step (taken : slotStep config workerId handlers true table phase event = some effect) :
    effect.phase.claims + event.claims.toNat ≤ phase.claims := by
  unfold slotStep at taken
  split at taken <;> cases taken
  case h_2 claimedAt locked delivery =>
    cases delivery with
    | answered =>
      refine Nat.add_le_add_right (m := 0) ?_ 1
      simp only [Effect.call]
      split <;> exact le_rfl
    | unanswered => exact le_rfl
    | failed => exact le_rfl
  case h_5 completedAt delivery => cases delivery <;> exact le_rfl
  case h_6 failedAt delivery => cases delivery <;> exact le_rfl
  case h_9 heartbeatAt delivery => cases delivery <;> exact le_rfl
  all_goals exact le_rfl

theorem holds_step {job : Job Json} (held : phase.Holds job)
    (taken : slotStep config workerId handlers stopRequested table phase event = some effect) :
    event.reports = true ∨ effect.phase.Holds job := by
  unfold slotStep at taken
  split at taken <;> cases taken
  case h_4 => exact .inr ⟨held.1, by split <;> rfl⟩
  case h_5 completedAt delivery =>
    cases delivery with
    | answered => exact .inl rfl
    | unanswered => exact .inr ⟨held.1, rfl⟩
    | failed => exact .inr ⟨held.1, rfl⟩
  case h_6 => exact .inl rfl
  case h_8 => exact .inr held
  case h_9 heartbeatAt delivery => cases delivery <;> exact .inr held
  case h_7 | h_10 => cases held.2
  all_goals cases held

theorem slot_progress (unfinished : phase.remaining ≠ 0) : ∃ event effect,
    slotStep config workerId handlers true table phase event = some effect ∧
      effect.phase.remaining < phase.remaining := by
  have moves : ∃ event : SlotEvent, (slotStep config workerId handlers true table phase event).isSome = true ∧
      (event.ofHeartbeat = false ∨ ∃ job, phase = .processing job .closing .waiting ∨
        phase = .processing job .closing .renewing) := by
    cases phase with
    | stopped => exact absurd rfl unfinished
    | polling => exact ⟨.poll, rfl, .inl rfl⟩
    | waiting => exact ⟨.wake, rfl, .inl rfl⟩
    | claiming => exact ⟨.claim 0 (fun _ => false) .answered, rfl, .inl rfl⟩
    | processing job phase heartbeat =>
      cases phase with
      | executing => exact ⟨.execute, by cases heartbeat <;> rfl, .inl rfl⟩
      | succeeding => exact ⟨.markSucceeded 0 .answered, by cases heartbeat <;> rfl, .inl rfl⟩
      | failing => exact ⟨.markFailed 0 .answered, by cases heartbeat <;> rfl, .inl rfl⟩
      | closing =>
        cases heartbeat with
        | waiting => exact ⟨.beat, rfl, .inr ⟨job, .inl rfl⟩⟩
        | renewing => exact ⟨.renew 0 .answered, rfl, .inr ⟨job, .inr rfl⟩⟩
        | finished => exact ⟨.close, rfl, .inl rfl⟩
  obtain ⟨event, possible, kind⟩ := moves
  obtain ⟨effect, taken⟩ := Option.isSome_iff_exists.mp possible
  refine ⟨event, effect, taken, ?_⟩
  rcases kind with own | ⟨job, rfl | rfl⟩
  · have bound := remaining_step taken
    rw [own] at bound
    exact bound
  · cases event with
    | beat => cases taken; exact Nat.le_refl 3
    | _ => cases taken
  · cases event with
    | renew heartbeatAt delivery =>
      cases taken
      cases delivery with
      | answered => simp only [Effect.call, nextBeat, ite_self]; exact Nat.le_refl 3
      | _ => exact Nat.le_refl 3
    | _ => cases taken

theorem recovery_step {phase : RecoveryPhase} {event : RecoveryEvent} {effect : Effect Json RecoveryPhase}
    (taken : recoveryStep true table phase event = some effect) : effect.phase.remaining < phase.remaining := by
  unfold recoveryStep at taken
  split at taken <;> cases taken
  · exact Nat.le_refl 1
  · next recoveredAt locked delivery => cases delivery <;> exact Nat.le_refl 3
  · exact Nat.le_refl 2

theorem recovery_progress {phase : RecoveryPhase} (unfinished : phase ≠ .stopped) : ∃ event effect,
    recoveryStep true table phase event = some effect ∧ effect.phase.remaining < phase.remaining := by
  have moves : ∃ event : RecoveryEvent, (recoveryStep true table phase event).isSome = true := by
    cases phase with
    | polling => exact ⟨.poll, rfl⟩
    | recovering => exact ⟨.recover 0 (fun _ => false) .answered, rfl⟩
    | waiting => exact ⟨.wake, rfl⟩
    | stopped => exact absurd rfl unfinished
  obtain ⟨event, possible⟩ := moves
  obtain ⟨effect, taken⟩ := Option.isSome_iff_exists.mp possible
  exact ⟨event, effect, taken, recovery_step taken⟩

theorem stopped_of_remaining (finished : phase.remaining = 0) : phase = .stopped := by
  cases phase with
  | stopped => rfl
  | processing job phase heartbeat => cases phase <;> cases heartbeat <;> cases finished
  | _ => cases finished

end JobWorker

namespace WorkerSystem

namespace Action

def ofSlot (workerId : String) (number : Nat) (kind : SlotEvent → Bool) : Action Json → Bool
  | .slot other number' event => other == workerId && number' == number && kind event
  | _ => false

def ofRecovery (workerId : String) : Action Json → Bool
  | .recovery other _ => other == workerId
  | _ => false

variable {workerId : String} {number : Nat} {action : Action Json}

theorem ofSlot_of_ne (other : ∀ event, action ≠ .slot workerId number event) (kind : SlotEvent → Bool) :
    action.ofSlot workerId number kind = false := by
  cases action with
  | slot worker slot event =>
    by_cases same : worker = workerId ∧ slot = number
    · obtain ⟨rfl, rfl⟩ := same
      exact absurd rfl (other event)
    · simp only [ofSlot, Bool.and_eq_false_iff, beq_eq_false_iff_ne]
      exact .inl (not_and_or.mp same)
  | _ => rfl

@[simp] theorem ofSlot_slot (event : SlotEvent) (kind : SlotEvent → Bool) :
    (slot workerId number event : Action Json).ofSlot workerId number kind = kind event := by
  simp [ofSlot]

end Action

variable {configs : String → WorkerConfig} {handlers : TaskHandlers Json} {system after : WorkerSystem Json}
  {labels : List (Action Json)} {workerId : String}

theorem stop_run (run : Run (fun a action b => a.step configs handlers action = some b) system labels after)
    (requested : (system.workers workerId).stopRequested = true) : (after.workers workerId).stopRequested = true :=
  run.invariant requested fun _ _ _ stop taken => step_stop taken stop

theorem count_run {measure : SlotPhase Json → ℕ} {kind : SlotEvent → Bool}
    (pays : ∀ table phase event effect, JobWorker.slotStep (configs workerId) workerId handlers true table phase event =
      some effect → measure effect.phase + (kind event).toNat ≤ measure phase)
    (run : Run (fun a action b => a.step configs handlers action = some b) system labels after)
    (requested : (system.workers workerId).stopRequested = true) (number : Nat) :
    labels.countP (Action.ofSlot workerId number kind) + measure ((after.workers workerId).slots number) ≤
      measure ((system.workers workerId).slots number) := by
  induction run with
  | nil => simp
  | @snoc middle after labels action run last ih =>
    rw [List.countP_append, List.countP_singleton]
    rcases step_slot last workerId number with ⟨event, effect, rfl, taken, moved, -⟩ | ⟨other, same⟩
    · rw [stop_run run requested] at taken
      have paid := pays _ _ _ _ taken
      have one : (if kind event = true then 1 else 0) = (kind event).toNat := by cases kind event <;> rfl
      rw [moved, Action.ofSlot_slot, one]
      omega
    · rw [same, Action.ofSlot_of_ne other]
      simpa using ih

theorem recovery_run (run : Run (fun a action b => a.step configs handlers action = some b) system labels after)
    (requested : (system.workers workerId).stopRequested = true) :
    labels.countP (Action.ofRecovery workerId) + (after.workers workerId).recovery.remaining ≤
      (system.workers workerId).recovery.remaining := by
  induction run with
  | nil => simp
  | @snoc middle after labels action run last ih =>
    rw [List.countP_append, List.countP_singleton]
    rcases step_recovery last workerId with ⟨event, effect, rfl, taken, moved⟩ | ⟨other, same⟩
    · rw [stop_run run requested] at taken
      have paid := JobWorker.recovery_step taken
      rw [moved]
      simp only [Action.ofRecovery, beq_self_eq_true, if_true]
      omega
    · have silent : action.ofRecovery workerId = false := by
        cases action with
        | recovery worker event =>
          refine beq_eq_false_iff_ne.mpr ?_
          rintro rfl
          exact other event rfl
        | _ => rfl
      rw [same, silent]
      simpa using ih

theorem holds_run {job : Job Json} {number : Nat}
    (run : Run (fun a action b => a.step configs handlers action = some b) system labels after)
    (held : ((system.workers workerId).slots number).Holds job) :
    (∃ action ∈ labels, action.ofSlot workerId number SlotEvent.reports = true) ∨
      ((after.workers workerId).slots number).Holds job := by
  induction run with
  | nil => exact .inr held
  | @snoc middle after labels action run last ih =>
    rcases ih with ⟨action', member, reports⟩ | holding
    · exact .inl ⟨action', List.mem_append_left _ member, reports⟩
    · rcases step_slot last workerId number with ⟨event, effect, rfl, taken, moved, -⟩ | ⟨-, same⟩
      · rcases JobWorker.holds_step holding taken with reports | kept
        · exact .inl ⟨_, List.mem_append_right _ (List.mem_singleton_self _), by rw [Action.ofSlot_slot, reports]⟩
        · exact .inr (moved ▸ kept)
      · exact .inr (same ▸ holding)

/-- In every run of all processes after a worker is asked to stop, whatever its database calls do: the request stays;
each slot takes at most so many steps besides those of a heartbeat, claims only where it had asked for a job before,
and does not let go of an unreported job but by a report; until a slot has stopped, some step is possible that brings
it nearer to its end; and the recovery loop ends alike. -/
theorem graceful_shutdown (configs : String → WorkerConfig) (handlers : TaskHandlers Json)
    (system after : WorkerSystem Json) (labels : List (Action Json)) (workerId : String)
    (requested : (system.workers workerId).stopRequested = true)
    (run : Run (fun a action b => a.step configs handlers action = some b) system labels after) :
    (after.workers workerId).stopRequested = true ∧
    (∀ number,
      labels.countP (Action.ofSlot workerId number fun event => !event.ofHeartbeat) +
          ((after.workers workerId).slots number).remaining ≤ ((system.workers workerId).slots number).remaining ∧
      labels.countP (Action.ofSlot workerId number SlotEvent.claims) ≤
        ((system.workers workerId).slots number).claims ∧
      ∀ job, ((system.workers workerId).slots number).Holds job →
        (∃ action ∈ labels, action.ofSlot workerId number SlotEvent.reports = true) ∨
          ((after.workers workerId).slots number).Holds job) ∧
    labels.countP (Action.ofRecovery workerId) + (after.workers workerId).recovery.remaining ≤
      (system.workers workerId).recovery.remaining ∧
    ((after.workers workerId).recovery ≠ .stopped →
      ∃ event next, after.step configs handlers (.recovery workerId event) = some next ∧
        (next.workers workerId).recovery.remaining < (after.workers workerId).recovery.remaining) ∧
    ∀ number, 1 ≤ number → number ≤ (configs workerId).concurrency →
      (after.workers workerId).slots number ≠ .stopped →
        ∃ event next, after.step configs handlers (.slot workerId number event) = some next ∧
          ((next.workers workerId).slots number).remaining < ((after.workers workerId).slots number).remaining := by
  have stop := stop_run run requested
  refine ⟨stop, fun number => ⟨?_, ?_, fun job held => holds_run run held⟩, recovery_run run requested,
    fun unfinished => ?_, ?_⟩
  · exact count_run (fun table phase event effect taken => JobWorker.remaining_step taken) run requested number
  · have counted := count_run (fun table phase event effect taken => JobWorker.claims_step taken) run requested number
    exact (Nat.le_add_right _ _).trans counted
  · obtain ⟨event, effect, taken, nearer⟩ := @JobWorker.recovery_progress _ after.table _ unfinished
    obtain ⟨next, moved, phase⟩ := step_of_recovery (stop.symm ▸ taken)
    exact ⟨event, next, moved, phase ▸ nearer⟩
  · intro number first last unfinished
    obtain ⟨event, effect, taken, nearer⟩ := @JobWorker.slot_progress _ (configs workerId) workerId handlers
      after.table ((after.workers workerId).slots number) fun none_left =>
        unfinished (JobWorker.stopped_of_remaining none_left)
    obtain ⟨next, moved, phase⟩ := step_of_slot first last (stop.symm ▸ taken)
    exact ⟨event, next, moved, phase ▸ nearer⟩

/-- A slot has asked for a job when its process is told to stop. -/
def stopWhileClaiming : List (Action String) := [.createJob echoJob 7 0, .slot "a" 1 .poll, .requestStop "a"]

def lastJob : List (Action String) :=
  [.slot "a" 1 (.claim 1 (fun _ => false) .answered), .slot "a" 1 .beat, .slot "a" 1 .execute,
    .slot "a" 1 (.renew 2 .answered), .slot "a" 1 (.markSucceeded 3 .answered), .slot "a" 1 .beat,
    .slot "a" 1 .close, .slot "a" 1 .poll]

theorem graceful_shutdown_lastJob : ∃ system after : WorkerSystem String,
    Run (fun a action b => a.step (fun _ => defaultSettings) (fun _ payload => .ok payload) action = some b) system
      lastJob after ∧
    ((system.workers "a").slots 1).remaining = 7 ∧ ((after.workers "a").slots 1).remaining = 0 ∧
    lastJob.countP (Action.ofSlot "a" 1 SlotEvent.claims) ≤ ((system.workers "a").slots 1).claims := by
  have runs : ((stopWhileClaiming.foldlM (step (fun _ => defaultSettings) fun _ payload => .ok payload) initial).bind
      fun system => (lastJob.foldlM (step (fun _ => defaultSettings) fun _ payload => .ok payload) system).map
        fun after => ((system.workers "a").stopRequested, ((system.workers "a").slots 1).remaining,
          ((after.workers "a").slots 1).remaining)) = some (true, 7, 0) := by
    decide +kernel
  obtain ⟨system, -, later⟩ := Option.bind_eq_some_iff.mp runs
  obtain ⟨after, found, same⟩ := Option.map_eq_some_iff.mp later
  simp only [Prod.mk.injEq] at same
  have run := Run.of_foldlM found
  exact ⟨system, after, run, same.2.1, same.2.2,
    ((graceful_shutdown _ _ system after lastJob "a" same.1 run).2.1 1).2.1⟩

end WorkerSystem

end CareerProjects.JobQueue
