import CareerProjects.JobQueue.Fleet

/-! Attempt fencing. A report is guarded by the owner written in the row and by its
lease, and the owner is a process, not one of its slots. So a slot that outlived its
lease is fenced off from jobs other processes took over, but not from a job that
another slot of its own process has claimed since. -/

namespace CareerProjects.JobQueue

variable {Json : Type}

theorem MarkFailed.write_status (call : MarkFailed) (job : Job Json) :
    (call.write.apply job).status ≠ .running := by
  simp only [MarkFailed.write]
  split <;> simp

theorem RecoverStaleJobs.write_status (call : RecoverStaleJobs) (job : Job Json) :
    (call.write.apply job).status ≠ .running := by
  simp only [RecoverStaleJobs.write]
  split <;> simp

theorem QueueOp.running_of_step {op : QueueOp Json} {table : JobTable Json} {row : Job Json}
    (noClaim : ∀ call, op ≠ .claimJobs call) (member : row ∈ (op.step table).rows)
    (running : row.status = .running) :
    ∃ job ∈ table.rows, job.id = row.id ∧ job.status = .running ∧
      job.workerId = row.workerId ∧
      ∀ call, op = .recoverStaleJobs call → op.touched table job = false := by
  rcases mem_step member with ⟨job, old, untouched, rfl⟩ | ⟨job, old, -, guard, rfl⟩ |
    ⟨data, id, now, -, rfl, -⟩
  · exact ⟨row, old, rfl, running, rfl, fun _ _ => untouched⟩
  · cases op with
    | createJob => cases guard
    | claimJobs call => exact absurd rfl (noClaim call)
    | renewLease => exact ⟨job, old, rfl, (ownedRow_iff.mp guard).2.1, rfl, fun _ h => by cases h⟩
    | markSucceeded => cases running
    | markFailed call => exact absurd running (call.write_status job)
    | recoverStaleJobs call => exact absurd running (call.write_status job)
  · cases running

theorem claimJobs_one {call : ClaimJobs} {table : JobTable Json} (one : call.limit = 1) :
    ((claimJobs call table).1 = [] ∧ (claimJobs call table).2.rows = table.rows) ∨
    ∃ job, (claimJobs call table).1 = [call.write.apply job] ∧
      ∀ row ∈ (claimJobs call table).2.rows,
        row = call.write.apply job ∨ row ∈ table.rows ∧ row.id ≠ job.id := by
  simp only [claimJobs]
  split
  · exact .inl ⟨rfl, rfl⟩
  · have short : (call.selection table).length ≤ 1 := by
      simp [ClaimJobs.selection, one]
    cases selected : call.selection table with
    | nil => exact .inl ⟨rfl, updateWhere_false table _ fun _ _ => rfl⟩
    | cons job rest =>
      rw [selected, List.length_cons] at short
      have rest_nil : rest = [] := List.eq_nil_of_length_eq_zero (by omega)
      subst rest_nil
      have chosen : job ∈ table.rows := (ClaimJobs.mem_selection (by rw [selected]; simp)).1
      refine .inr ⟨job, rfl, fun row member => ?_⟩
      obtain ⟨old, present, rfl⟩ := JobTable.mem_updateWhere.mp member
      by_cases same : old.id = job.id
      · have equal := JobTable.eq_of_id present chosen same
        exact .inl (by simp [holdsRow, equal])
      · have untouched : holdsRow [job] old = false := by simp [holdsRow, Ne.symm same]
        rw [untouched]
        exact .inr ⟨present, same⟩

/-- A running row belongs to the process of its last claimant, and a busy slot is in
its job's history at the claim it works for and not after it. -/
structure Fenced (fleet : Fleet Json) : Prop where
  owner : ∀ job ∈ fleet.table.rows, job.status = .running →
    fleet.recovered job.id = false ∧ ∃ holder,
      (fleet.claimants job.id).getLast? = some holder ∧ job.workerId = some holder.process
  working : ∀ slot attempt, fleet.slots slot = some attempt → ∃ before after,
    fleet.claimants attempt.jobId = before ++ slot :: after ∧
      before.length + 1 = attempt.claim ∧ slot ∉ after

namespace Fenced

variable {fleet : Fleet Json}

theorem initial : Fenced (Fleet.initial : Fleet Json) where
  owner job member := by cases member
  working slot attempt busy := by cases busy

theorem owner_step (h : Fenced fleet) {op : QueueOp Json}
    (noClaim : ∀ call, op ≠ .claimJobs call) (job : Job Json)
    (member : job ∈ (op.step fleet.table).rows) (running : job.status = .running) :
    fleet.recovered job.id = false ∧ ∃ holder,
      (fleet.claimants job.id).getLast? = some holder ∧ job.workerId = some holder.process := by
  obtain ⟨old, present, same, was_running, worker, -⟩ :=
    QueueOp.running_of_step noClaim member running
  have owned := h.owner old present was_running
  rwa [same, worker] at owned

theorem finish (h : Fenced fleet) (slot : SlotId) :
    Fenced { fleet with slots := Function.update fleet.slots slot none } where
  owner := h.owner
  working other attempt busy := by
    by_cases same : other = slot
    · simp [same] at busy
    · exact h.working other attempt (by simpa [Function.update_of_ne same] using busy)

theorem recover (h : Fenced fleet) (call : RecoverStaleJobs) {fleet' : Fleet Json}
    (step : fleet.step (.recoverStaleJobs call) = some fleet') : Fenced fleet' := by
  cases step
  refine ⟨fun job member running => ?_, h.working⟩
  obtain ⟨old, present, same, was_running, worker, untouched⟩ :=
    QueueOp.running_of_step (by simp) member running
  have owned := h.owner old present was_running
  have unrecovered : ∀ other ∈ fleet.table.rows, other.id = job.id →
      (QueueOp.recoverStaleJobs call).touched fleet.table other = false := by
    intro other member' id
    rw [JobTable.eq_of_id member' present (id.trans same.symm)]
    exact untouched call rfl
  rw [same, worker] at owned
  refine ⟨?_, owned.2⟩
  simp only [owned.1, Bool.false_or, List.any_eq_false, Bool.and_eq_true, beq_iff_eq, not_and,
    Bool.not_eq_true]
  exact unrecovered

theorem claim (h : Fenced fleet) {slot : SlotId} (idle : fleet.slots slot = none)
    (call : ClaimJobs) (one : call.limit = 1) (process : call.workerId = slot.process) :
    Fenced (fleet.claimJob slot call) := by
  rcases @claimJobs_one _ call fleet.table one with ⟨none, rows⟩ | ⟨job, taken, rows⟩
  · simp only [Fleet.claimJob, none, List.head?_nil]
    exact ⟨fun row member => h.owner row (by rwa [← rows]), h.working⟩
  · simp only [Fleet.claimJob, taken, List.head?_cons, call.write.keepsId]
    refine ⟨fun row member running => ?_, fun other attempt busy => ?_⟩
    · rcases rows row member with rfl | ⟨old, different⟩
      · have worker : (call.write.apply job).workerId = some call.workerId := rfl
        simp [call.write.keepsId, worker, process]
      · simpa [Function.update_of_ne different] using h.owner row old running
    · by_cases same : other = slot
      · subst same
        simp only [Function.update_self, Option.some.injEq] at busy
        subst busy
        exact ⟨fleet.claimants job.id, [], by simp⟩
      · simp only [Function.update_of_ne same] at busy
        obtain ⟨before, after, history, count, absent⟩ := h.working other attempt busy
        by_cases this_job : attempt.jobId = job.id
        · refine ⟨before, after ++ [slot], ?_, count, ?_⟩
          · rw [this_job] at history
            simp [this_job, history]
          · simp [absent, same]
        · exact ⟨before, after, by simp [Function.update_of_ne this_job, history], count, absent⟩

theorem step (h : Fenced fleet) {action : Fleet.Action Json} {fleet' : Fleet Json}
    (step : fleet.step action = some fleet') : Fenced fleet' := by
  cases action with
  | createJob data id now =>
    cases step
    exact ⟨h.owner_step (by simp), h.working⟩
  | claimJob slot queues lease claimedAt locked =>
    simp only [Fleet.step] at step
    split at step
    · cases step
    · next idle =>
      cases step
      exact h.claim idle _ rfl rfl
  | report slot report =>
    simp only [Fleet.step, Option.map_eq_some_iff] at step
    obtain ⟨attempt, -, rfl⟩ := step
    exact ⟨h.owner_step (by cases report <;> simp [Report.op]), h.working⟩
  | finish slot =>
    simp only [Fleet.step, Option.map_eq_some_iff] at step
    obtain ⟨attempt, -, rfl⟩ := step
    exact h.finish slot
  | recoverStaleJobs call => exact h.recover call step

theorem of_reachable (reachable : fleet.Reachable) : Fenced fleet :=
  reachable.invariant initial fun _ _ _ inv step => inv.step step

end Fenced

theorem Fleet.TakesEffect.ownedRow {fleet : Fleet Json} {slot : SlotId} {attempt : Attempt}
    {report : Report Json} (h : fleet.TakesEffect slot attempt report) :
    ∃ job ∈ fleet.table.rows,
      JobQueue.ownedRow attempt.jobId slot.process report.clock job = true := by
  by_contra unfound
  have unowned : ∀ job ∈ fleet.table.rows,
      JobQueue.ownedRow attempt.jobId slot.process report.clock job = false := by
    simpa using unfound
  rcases h with answered | changed
  · cases report with
    | renewLease lease at_ =>
      simp only [Report.answer, JobQueue.renewLease, beq_iff_eq] at answered
      rw [List.countP_eq_zero.mpr (by simpa [Report.clock] using unowned)] at answered
      omega
    | markSucceeded payload at_ =>
      simp only [Report.answer, JobQueue.markSucceeded, beq_iff_eq] at answered
      rw [List.countP_eq_zero.mpr (by simpa [Report.clock] using unowned)] at answered
      omega
    | markFailed message retryable base max at_ =>
      have missing : fleet.table.rows.find?
          (JobQueue.ownedRow attempt.jobId slot.process at_) = none := by
        simpa [Report.clock] using unowned
      simp [Report.answer, JobQueue.markFailed, missing] at answered
  · refine changed ?_
    rw [QueueOp.step_rows _ _ (by cases report <;> simp [Report.op])]
    refine updateWhere_false _ _ fun job member => ?_
    have := unowned job member
    cases report <;> exact this

/-- A report has an effect only on a job that was not recovered since its latest claim,
and only if a slot of the reporting process made that claim: the reporting slot itself,
for the claim it works for, or another slot of the process. -/
theorem report_fencing (fleet : Fleet Json) (reachable : fleet.Reachable) (slot : SlotId)
    (attempt : Attempt) (busy : fleet.slots slot = some attempt) (report : Report Json)
    (effect : fleet.TakesEffect slot attempt report) :
    fleet.recovered attempt.jobId = false ∧
      ∃ holder, (fleet.claimants attempt.jobId).getLast? = some holder ∧
        holder.process = slot.process ∧
        (holder = slot ↔ fleet.IsLatest attempt) := by
  have inv := Fenced.of_reachable reachable
  obtain ⟨job, member, owned⟩ := effect.ownedRow
  obtain ⟨id, running, worker, -⟩ := ownedRow_iff.mp owned
  obtain ⟨current, holder, last, process⟩ := inv.owner job member running
  rw [id] at current last
  rw [worker, Option.some.injEq] at process
  refine ⟨current, holder, last, process.symm, ?_⟩
  obtain ⟨before, after, history, count, absent⟩ := inv.working slot attempt busy
  simp only [Fleet.IsLatest, current, and_true]
  rw [history] at last ⊢
  -- the slot's own claim is the last one exactly when nothing follows it in the history
  cases after using List.reverseRecOn with
  | nil =>
    have is_slot : holder = slot := by simpa using last.symm
    simp only [is_slot, true_iff]
    simpa using count.symm
  | append_singleton earlier final =>
    have is_final : holder = final := by
      rw [← List.cons_append, ← List.append_assoc, List.getLast?_concat] at last
      simpa using last.symm
    constructor
    · intro same
      exact absurd (by simp [← is_final, same]) absent
    · intro latest
      simp only [List.length_append, List.length_cons, List.length_nil] at latest
      omega

def takeoverRun : List (Fleet.Action String) :=
  [.createJob echoJob 7 0,
    .claimJob ⟨"w", 1⟩ ["default"] 30 0 (fun _ => false),
    .recoverStaleJobs ⟨100, 30, fun _ => false⟩,
    .claimJob ⟨"w", 2⟩ ["default"] 30 31 (fun _ => false)]

/-- Slot 1 reports success for its superseded claim, and the report is accepted. -/
theorem report_fencing_takeover :
    ¬ ∀ fleet : Fleet String, fleet.Reachable → ∀ slot attempt,
      fleet.slots slot = some attempt → ∀ report,
        fleet.TakesEffect slot attempt report → fleet.IsLatest attempt := by
  intro fenced
  have facts : (takeoverRun.foldlM Fleet.step .initial).any (fun fleet =>
      fleet.slots ⟨"w", 1⟩ == some ⟨7, 1⟩ &&
      (Report.markSucceeded "{}" 32).answer "w" 7 fleet.table &&
      (fleet.claimants 7).length == 2) = true := by decide +kernel
  simp only [Option.any_eq_true, Bool.and_eq_true, beq_iff_eq] at facts
  obtain ⟨fleet, run, ⟨busy, answered⟩, claims⟩ := facts
  have latest := fenced fleet (Library.Reached.of_foldlM run) ⟨"w", 1⟩ ⟨7, 1⟩ busy
    (.markSucceeded "{}" 32) (.inl answered)
  have one : 1 = (fleet.claimants 7).length := latest.1
  omega

theorem report_fencing_holder :
    ∃ fleet : Fleet String, fleet.Reachable ∧ fleet.slots ⟨"w", 2⟩ = some ⟨7, 2⟩ ∧
      fleet.recovered 7 = false ∧
      ∃ holder, (fleet.claimants 7).getLast? = some holder ∧ holder.process = "w" ∧
        (holder = ⟨"w", 2⟩ ↔ fleet.IsLatest ⟨7, 2⟩) := by
  have facts : (takeoverRun.foldlM Fleet.step .initial).any (fun fleet =>
      fleet.slots ⟨"w", 2⟩ == some ⟨7, 2⟩ &&
      (Report.markSucceeded "{}" 32).answer "w" 7 fleet.table) = true := by decide +kernel
  simp only [Option.any_eq_true, Bool.and_eq_true, beq_iff_eq] at facts
  obtain ⟨fleet, run, busy, answered⟩ := facts
  have reachable : fleet.Reachable := Library.Reached.of_foldlM run
  exact ⟨fleet, reachable, busy,
    report_fencing fleet reachable ⟨"w", 2⟩ ⟨7, 2⟩ busy (.markSucceeded "{}" 32) (.inl answered)⟩

end CareerProjects.JobQueue
