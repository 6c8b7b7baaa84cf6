import CareerProjects.JobQueue.Fleet
import CareerProjects.Library.Batches
import Mathlib.Algebra.GroupWithZero.Nat

/-! The lease boundary. At every moment a running job is its owner's or can be recovered, and not
both; recovering in batches at one moment reaches every job whose lease has run out. -/

namespace CareerProjects.JobQueue

variable {Json : Type}

theorem QueueOp.never_cancelled (ops : List (QueueOp Json)) :
    ∀ job ∈ (run ops).rows, job.status ≠ .cancelled := by
  induction ops using List.reverseRecOn with
  | nil =>
    intro job member
    cases member
  | append_singleton ops op ih =>
    intro row member
    rw [run_append_singleton] at member
    rcases mem_step member with ⟨job, before, -, rfl⟩ | ⟨job, before, -, -, rfl⟩ |
      ⟨data, id, now, -, rfl, -⟩
    · exact ih row before
    · have known := ih job before
      cases op with
      | createJob => exact known
      | claimJobs call => simp [write, ClaimJobs.write]
      | renewLease call => exact known
      | markSucceeded call => simp [write, MarkSucceeded.write]
      | markFailed call =>
        simp only [write, MarkFailed.write]
        split <;> simp
      | recoverStaleJobs call =>
        simp only [write, RecoverStaleJobs.write]
        split <;> simp
    · simp [addJob]

/-- The report is answered positively and written to the row of the job. -/
def Report.IsEffective (report : Report Json) (workerId : String) (job : Job Json)
    (table : JobTable Json) : Prop :=
  report.answer workerId job.id table = true ∧
    (report.op workerId job.id).write.apply job ∈ ((report.op workerId job.id).step table).rows

/-- The report is answered negatively and changes nothing. -/
def Report.IsRefused (report : Report Json) (workerId : String) (job : Job Json)
    (table : JobTable Json) : Prop :=
  report.answer workerId job.id table = false ∧
    ((report.op workerId job.id).step table).rows = table.rows

theorem Report.touched_op (report : Report Json) (workerId : String) (id : Uuid)
    (table : JobTable Json) :
    (report.op workerId id).touched table = ownedRow id workerId report.clock := by
  cases report <;> rfl

theorem countP_owned {job : Job Json} {table : JobTable Json} (member : job ∈ table.rows)
    (workerId : String) (now : Time) :
    table.rows.countP (ownedRow job.id workerId now) = (ownedRow job.id workerId now job).toNat := by
  obtain ⟨before, after, rows⟩ := List.append_of_mem member
  have unique := table.unique
  rw [rows, List.pairwise_append, List.pairwise_cons] at unique
  obtain ⟨-, ⟨later, -⟩, earlier⟩ := unique
  have others : ∀ other ∈ before ++ after, ¬ownedRow job.id workerId now other = true := by
    intro other elsewhere owned
    have same := (ownedRow_iff.mp owned).1
    rcases List.mem_append.mp elsewhere with first | last
    · exact (earlier other first job List.mem_cons_self).1 same
    · exact (later other last).1 same.symm
  rw [List.forall_mem_append] at others
  rw [rows, List.countP_append, List.countP_cons, List.countP_eq_zero.mpr others.1,
    List.countP_eq_zero.mpr others.2]
  cases ownedRow job.id workerId now job <;> rfl

theorem Report.answer_eq (report : Report Json) (workerId : String) {job : Job Json}
    {table : JobTable Json} (member : job ∈ table.rows) :
    report.answer workerId job.id table = ownedRow job.id workerId report.clock job := by
  cases report with
  | renewLease lease at_ =>
    simp only [Report.answer, JobQueue.renewLease, countP_owned member, Report.clock]
    cases ownedRow job.id workerId at_ job <;> rfl
  | markSucceeded payload at_ =>
    simp only [Report.answer, JobQueue.markSucceeded, countP_owned member, Report.clock]
    cases ownedRow job.id workerId at_ job <;> rfl
  | markFailed message retryable base max at_ =>
    simp only [Report.answer, JobQueue.markFailed, Report.clock]
    cases found : table.rows.find? (ownedRow job.id workerId at_) with
    | none =>
      have unowned := List.find?_eq_none.mp found job member
      rw [Bool.not_eq_true] at unowned
      rw [unowned]
      rfl
    | some other =>
      have owned := List.find?_some found
      have same := JobTable.eq_of_id (List.mem_of_find?_eq_some found) member (ownedRow_iff.mp owned).1
      rw [same] at owned
      simp [owned]

theorem Report.effective_of_owned {report : Report Json} {workerId : String} {job : Job Json}
    {table : JobTable Json} (member : job ∈ table.rows)
    (owned : ownedRow job.id workerId report.clock job = true) :
    report.IsEffective workerId job table := by
  refine ⟨by rw [report.answer_eq workerId member, owned], ?_⟩
  have written := @QueueOp.mem_step_of_mem _ (report.op workerId job.id) _ _ member
  rwa [report.touched_op, if_pos owned] at written

theorem Report.refused_of_unowned {report : Report Json} {workerId : String} {job : Job Json}
    {table : JobTable Json} (member : job ∈ table.rows)
    (unowned : ownedRow job.id workerId report.clock job = false) :
    report.IsRefused workerId job table := by
  refine ⟨by rw [report.answer_eq workerId member, unowned], ?_⟩
  rw [QueueOp.step_rows _ _ (by cases report <;> simp [Report.op])]
  refine updateWhere_false _ _ fun other inside => ?_
  rw [report.touched_op]
  by_contra owned
  have same := (ownedRow_iff.mp (by simpa using owned)).1
  rw [JobTable.eq_of_id inside member same, unowned] at owned
  exact owned rfl

theorem owner_or_recovery (ops : List (QueueOp Json)) {job : Job Json}
    (member : job ∈ (QueueOp.run ops).rows) (running : job.status = .running) :
    ∃ workerId lease, job.workerId = some workerId ∧ job.leaseExpiresAt = some lease ∧
      ∀ now, ownedRow job.id workerId now job = !stale now job := by
  obtain ⟨-, worker, lease, -⟩ := (QueueOp.lifecycle_run ops job member).running running
  obtain ⟨workerId, worker⟩ := Option.isSome_iff_exists.mp worker
  obtain ⟨lease, expires⟩ := Option.isSome_iff_exists.mp lease
  refine ⟨workerId, lease, worker, expires, fun now => ?_⟩
  simp only [ownedRow, stale, running, worker, expires, beq_self_eq_true, Bool.true_and,
    Option.any_some, Option.all_some, ← not_lt, decide_not, Bool.not_not]

theorem JobTable.nodup (table : JobTable Json) : table.rows.Nodup :=
  table.unique.imp fun {_ _} compatible same => compatible.1 (congrArg Job.id same)

theorem RecoverStaleJobs.not_stale_write (call : RecoverStaleJobs) (now : Time) (job : Job Json) :
    stale now (call.write.apply job) = false := by
  simp only [stale, RecoverStaleJobs.write]
  split <;> rfl

/-- `recover_stale_jobs` so many times at one clock reading, with no other transaction open. -/
def recoverAt (limit : Int) (recoveredAt : Time) : RecoverStaleJobs :=
  ⟨limit, recoveredAt, fun _ => false⟩

def drain (limit : Int) (recoveredAt : Time) : Nat → JobTable Json → List (Nat × Nat) × JobTable Json
  | 0, table => ([], table)
  | calls + 1, table =>
    let first := recoverStaleJobs (recoverAt limit recoveredAt) table
    let rest := drain limit recoveredAt calls first.2
    (first.1 :: rest.1, rest.2)

def QueueOp.writes (op : QueueOp Json) (table : JobTable Json) (id : Uuid) : Bool :=
  table.rows.any fun job => job.id == id && op.touched table job

def timesRecovered (limit : Int) (recoveredAt : Time) (id : Uuid) : Nat → JobTable Json → Nat
  | 0, _ => 0
  | calls + 1, table =>
    let op : QueueOp Json := .recoverStaleJobs (recoverAt limit recoveredAt)
    (op.writes table id).toNat + timesRecovered limit recoveredAt id calls (op.step table)

theorem QueueOp.writes_eq (op : QueueOp Json) {table : JobTable Json} {job : Job Json}
    (member : job ∈ table.rows) : op.writes table job.id = op.touched table job := by
  cases touch : op.touched table job with
  | true => exact List.any_eq_true.mpr ⟨job, member, by simp [touch]⟩
  | false =>
    refine List.any_eq_false.mpr fun other inside both => ?_
    rw [Bool.and_eq_true, beq_iff_eq] at both
    rw [JobTable.eq_of_id inside member both.1, touch] at both
    cases both.2

variable {limit : Int} {recoveredAt : Time} {table : JobTable Json}

theorem recover_batch (positive : 1 ≤ limit) (table : JobTable Json) :
    let outcome := recoverStaleJobs (recoverAt limit recoveredAt) table
    outcome.1.1 + outcome.1.2 = min limit.toNat (table.rows.countP (stale recoveredAt)) ∧
      outcome.2.rows.countP (stale recoveredAt) =
        table.rows.countP (stale recoveredAt) - limit.toNat := by
  have selection : (recoverAt limit recoveredAt).selection table =
      Library.batch (stale recoveredAt) RecoveryOrder limit.toNat table.rows := by
    simp only [RecoverStaleJobs.selection, recoverAt, Library.batch, Bool.not_false, Bool.and_true]
  have size := @Library.length_batch _ (stale recoveredAt) RecoveryOrder _ limit.toNat table.rows
  rw [recoverStaleJobs, if_neg (by simpa [recoverAt] using positive), selection]
  constructor
  · have retried : ((Library.batch (stale recoveredAt) RecoveryOrder limit.toNat table.rows).countP
        fun job => shouldRetryJob true job.attemptCount job.maxAttempts) ≤
          (Library.batch (stale recoveredAt) RecoveryOrder limit.toNat table.rows).length :=
      List.countP_le_length
    simp only
    omega
  · have selected : ∀ row ∈ Library.batch (stale recoveredAt) RecoveryOrder limit.toNat table.rows,
        row ∈ table.rows := fun row chosen => (Library.mem_batch chosen).1
    exact @Library.countP_treated _ (stale recoveredAt) RecoveryOrder _ limit.toNat table.rows
      table.nodup _ _ ((recoverAt limit recoveredAt).not_stale_write _)
      fun job member => holdsRow_selected selected member

theorem drain_counts (positive : 1 ≤ limit) (calls : Nat) (table : JobTable Json) :
    let outcome := drain limit recoveredAt calls table
    (outcome.1.map fun counts => counts.1 + counts.2).sum +
        outcome.2.rows.countP (stale recoveredAt) = table.rows.countP (stale recoveredAt) ∧
      outcome.2.rows.countP (stale recoveredAt) =
        table.rows.countP (stale recoveredAt) - calls * limit.toNat := by
  induction calls generalizing table with
  | zero => simp [drain]
  | succ calls ih =>
    obtain ⟨counted, left⟩ := @recover_batch _ limit recoveredAt positive table
    obtain ⟨sum, rest⟩ := ih (recoverStaleJobs (recoverAt limit recoveredAt) table).2
    simp only [drain, List.map_cons, List.sum_cons]
    rw [left] at sum rest
    refine ⟨by omega, ?_⟩
    rw [rest, Nat.succ_mul]
    omega

theorem drain_untouched {job : Job Json} (member : job ∈ table.rows)
    (live : stale recoveredAt job = false) (calls : Nat) :
    job ∈ (drain limit recoveredAt calls table).2.rows ∧
      timesRecovered limit recoveredAt job.id calls table = 0 := by
  induction calls generalizing table with
  | zero => exact ⟨member, rfl⟩
  | succ calls ih =>
    have untouched : (QueueOp.recoverStaleJobs (recoverAt limit recoveredAt)).touched table job =
        false := by
      by_contra touch
      have guard := QueueOp.touched_guard member (by simpa using touch)
      rw [QueueOp.guard, recoverAt, live] at guard
      cases guard
    have kept := @QueueOp.mem_step_of_mem _ (.recoverStaleJobs (recoverAt limit recoveredAt)) _ _ member
    rw [if_neg (by simp [untouched])] at kept
    obtain ⟨stays, none⟩ := ih kept
    refine ⟨stays, ?_⟩
    rw [timesRecovered, QueueOp.writes_eq _ member, untouched, none]
    rfl

theorem drain_stale {job : Job Json} (member : job ∈ table.rows) (calls : Nat) :
    (job ∈ (drain limit recoveredAt calls table).2.rows ∧
      timesRecovered limit recoveredAt job.id calls table = 0) ∨
    ((recoverAt limit recoveredAt).write.apply job ∈ (drain limit recoveredAt calls table).2.rows ∧
      timesRecovered limit recoveredAt job.id calls table = 1) := by
  induction calls generalizing table with
  | zero => exact .inl ⟨member, rfl⟩
  | succ calls ih =>
    have written := @QueueOp.mem_step_of_mem _ (.recoverStaleJobs (recoverAt limit recoveredAt)) _ _ member
    rw [timesRecovered, QueueOp.writes_eq _ member, drain]
    cases touch : (QueueOp.recoverStaleJobs (recoverAt limit recoveredAt)).touched table job with
    | false =>
      rw [if_neg (by simp [touch])] at written
      simp only [Bool.toNat_false, Nat.zero_add]
      exact ih written
    | true =>
      rw [if_pos touch] at written
      have recovered := @drain_untouched _ limit recoveredAt _ _ written
        ((recoverAt limit recoveredAt).not_stale_write recoveredAt job) calls
      rw [RowWrite.keepsId] at recovered
      refine .inr ⟨recovered.1, ?_⟩
      simp only [Bool.toNat_true]
      rw [recovered.2]

theorem drain_all (positive : 1 ≤ limit) (table : JobTable Json) :
    let waiting := table.rows.countP (stale recoveredAt)
    let calls := (waiting + limit.toNat - 1) / limit.toNat
    let outcome := drain limit recoveredAt calls table
    (outcome.1.map fun counts => counts.1 + counts.2).sum = waiting ∧
      (∀ job ∈ outcome.2.rows, stale recoveredAt job = false) ∧
      ∀ fewer < calls, ∃ job ∈ (drain limit recoveredAt fewer table).2.rows,
        stale recoveredAt job = true := by
  intro waiting calls outcome
  have size : 0 < limit.toNat := by omega
  obtain ⟨sum, rest⟩ := @drain_counts _ limit recoveredAt positive calls table
  have enough : waiting ≤ calls * limit.toNat := by
    have quotient := Nat.div_add_mod (waiting + limit.toNat - 1) limit.toNat
    have remainder := Nat.mod_lt (waiting + limit.toNat - 1) size
    rw [mul_comm] at quotient
    have same : calls * limit.toNat = (waiting + limit.toNat - 1) / limit.toNat * limit.toNat := rfl
    omega
  have empty : outcome.2.rows.countP (stale recoveredAt) = 0 := by
    rw [rest]
    omega
  have total : (outcome.1.map fun counts => counts.1 + counts.2).sum = waiting := by
    rw [empty, Nat.add_zero] at sum
    exact sum
  refine ⟨total, ?_, ?_⟩
  · intro job member
    simpa using List.countP_eq_zero.mp empty job member
  · intro fewer less
    have short : fewer * limit.toNat < waiting := by
      have bound : (fewer + 1) * limit.toNat ≤ calls * limit.toNat :=
        Nat.mul_le_mul_right _ less
      have whole : calls * limit.toNat ≤ waiting + limit.toNat - 1 :=
        Nat.div_mul_le_self _ _
      rw [Nat.succ_mul] at bound
      omega
    have left := (@drain_counts _ limit recoveredAt positive fewer table).2
    exact List.countP_pos_iff.mp (by omega)

/-- In every reachable table and at every moment: a running job either takes every report of its
worker, or can be recovered and takes none; a job that has not ended can be claimed from some moment
on, or recovered from some moment on; and recovery in batches drains what is stale, each job once. -/
theorem lease_boundary (ops : List (QueueOp Json)) (now : Time) :
    let table := QueueOp.run ops
    (∀ job ∈ table.rows, job.status = .running → ∃ workerId, job.workerId = some workerId ∧
      ((stale now job = false ∧
          ∀ report : Report Json, report.clock = now → report.IsEffective workerId job table) ∨
        (stale now job = true ∧
          ∀ report : Report Json, report.clock = now → report.IsRefused workerId job table))) ∧
    (∀ job ∈ table.rows, job.status.terminal = false →
      ((job.status = .queued ∨ job.status = .retryScheduled) ∧
        ∀ queues claimedAt, job.queue ∈ queues → job.availableAt ≤ claimedAt →
          claimable queues claimedAt job = true) ∨
      (job.status = .running ∧ ∃ lease, job.leaseExpiresAt = some lease ∧
        ∀ recoveredAt, lease ≤ recoveredAt → stale recoveredAt job = true)) ∧
    ∀ limit : Int, 1 ≤ limit →
      let waiting := table.rows.countP (stale now)
      let calls := (waiting + limit.toNat - 1) / limit.toNat
      let outcome := drain limit now calls table
      (outcome.1.map fun counts => counts.1 + counts.2).sum = waiting ∧
      (∀ job ∈ outcome.2.rows, stale now job = false) ∧
      (∀ fewer < calls, ∃ job ∈ (drain limit now fewer table).2.rows, stale now job = true) ∧
      ∀ job ∈ table.rows,
        if stale now job then timesRecovered limit now job.id calls table = 1 ∧
          (recoverAt limit now).write.apply job ∈ outcome.2.rows
        else timesRecovered limit now job.id calls table = 0 ∧ job ∈ outcome.2.rows := by
  intro table
  refine ⟨fun job member running => ?_, fun job member unfinished => ?_, fun limit positive => ?_⟩
  · obtain ⟨workerId, lease, worker, -, exclusive⟩ := owner_or_recovery ops member running
    refine ⟨workerId, worker, ?_⟩
    cases late : stale now job with
    | false =>
      refine .inl ⟨rfl, fun report clock => Report.effective_of_owned member ?_⟩
      rw [clock, exclusive, late]
      rfl
    | true =>
      refine .inr ⟨rfl, fun report clock => Report.refused_of_unowned member ?_⟩
      rw [clock, exclusive, late]
      rfl
  · have uncancelled := QueueOp.never_cancelled ops job member
    by_cases running : job.status = .running
    · obtain ⟨_, lease, -, expires, -⟩ := owner_or_recovery ops member running
      refine .inr ⟨running, lease, expires, fun recoveredAt expired => ?_⟩
      simpa [stale, running, expires] using expired
    · have waiting : job.status = .queued ∨ job.status = .retryScheduled := by
        cases status : job.status <;> simp_all [JobStatus.terminal]
      refine .inl ⟨waiting, fun queues claimedAt listed available => ?_⟩
      simpa [claimable, listed, available] using waiting
  · obtain ⟨sum, drained, needed⟩ := @drain_all _ limit now positive table
    refine ⟨sum, drained, needed, fun job member => ?_⟩
    split
    · next late =>
      rcases @drain_stale _ limit now _ _ member
        ((table.rows.countP (stale now) + limit.toNat - 1) / limit.toNat) with ⟨stays, -⟩ | once
      · rw [drained job stays] at late
        cases late
      · exact once.symm
    · next live =>
      exact (drain_untouched member (by simpa using live) _).symm

end CareerProjects.JobQueue
