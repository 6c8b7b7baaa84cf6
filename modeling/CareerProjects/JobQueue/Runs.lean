import CareerProjects.JobQueue.Queue

/-! Runs of the queue. A run is any list of transactions, each with its own
arguments and clock reading; the table after it is the fold of their effects.
Every transaction is brought to one form: it rewrites the rows it touched, all of
which met its guard, and appends the row it inserted, if any. -/

namespace CareerProjects.JobQueue

variable {Json : Type}

inductive QueueOp (Json : Type)
  | createJob (data : JobCreate Json) (id : Uuid) (now : Time)
  | claimJobs (call : ClaimJobs)
  | renewLease (call : RenewLease)
  | markSucceeded (call : MarkSucceeded Json)
  | markFailed (call : MarkFailed)
  | recoverStaleJobs (call : RecoverStaleJobs)

namespace QueueOp

def step (op : QueueOp Json) (table : JobTable Json) : JobTable Json :=
  match op with
  | .createJob data id now =>
    match createOrGetIdempotentJob data id now table with
    | .ok (_, table') => table'
    | .error _ => table
  | .claimJobs call => (JobQueue.claimJobs call table).2
  | .renewLease call => (JobQueue.renewLease call table).2
  | .markSucceeded call => (JobQueue.markSucceeded call table).2
  | .markFailed call => (JobQueue.markFailed call table).2
  | .recoverStaleJobs call => (JobQueue.recoverStaleJobs call table).2

def run (ops : List (QueueOp Json)) : JobTable Json :=
  ops.foldl (fun table op => op.step table) .empty

@[simp] theorem run_nil : run ([] : List (QueueOp Json)) = .empty := rfl

@[simp] theorem run_append_singleton (ops : List (QueueOp Json)) (op : QueueOp Json) :
    run (ops ++ [op]) = op.step (run ops) := by
  simp [run]

/-- The rows one transaction writes, and what a row must satisfy to be among them. -/
def touched (op : QueueOp Json) (table : JobTable Json) : Job Json → Bool :=
  match op with
  | .createJob .. => fun _ => false
  | .claimJobs call =>
    if call.queues.isEmpty || call.limit < 1 then fun _ => false
    else holdsRow (call.selection table)
  | .renewLease call => ownedRow call.jobId call.workerId call.heartbeatAt
  | .markSucceeded call => ownedRow call.jobId call.workerId call.completedAt
  | .markFailed call => ownedRow call.jobId call.workerId call.failedAt
  | .recoverStaleJobs call =>
    if call.limit < 1 then fun _ => false else holdsRow (call.selection table)

def guard (op : QueueOp Json) : Job Json → Bool :=
  match op with
  | .createJob .. => fun _ => false
  | .claimJobs call => claimable call.queues call.claimedAt
  | .renewLease call => ownedRow call.jobId call.workerId call.heartbeatAt
  | .markSucceeded call => ownedRow call.jobId call.workerId call.completedAt
  | .markFailed call => ownedRow call.jobId call.workerId call.failedAt
  | .recoverStaleJobs call => stale call.recoveredAt

def write (op : QueueOp Json) : RowWrite Json :=
  match op with
  | .createJob .. => ⟨id, fun _ => rfl, fun _ => rfl⟩
  | .claimJobs call => call.write
  | .renewLease call => call.write
  | .markSucceeded call => call.write
  | .markFailed call => call.write
  | .recoverStaleJobs call => call.write

theorem write_submitted (op : QueueOp Json) (job : Job Json) :
    (op.write.apply job).queue = job.queue ∧ (op.write.apply job).taskName = job.taskName ∧
      (op.write.apply job).payload = job.payload ∧ (op.write.apply job).priority = job.priority ∧
      (op.write.apply job).maxAttempts = job.maxAttempts := by
  cases op with
  | markFailed call =>
    simp only [QueueOp.write, MarkFailed.write]
    split <;> exact ⟨rfl, rfl, rfl, rfl, rfl⟩
  | recoverStaleJobs call =>
    simp only [QueueOp.write, RecoverStaleJobs.write]
    split <;> exact ⟨rfl, rfl, rfl, rfl, rfl⟩
  | _ => exact ⟨rfl, rfl, rfl, rfl, rfl⟩

end QueueOp

theorem updateWhere_false (table : JobTable Json) (write : RowWrite Json)
    {touched : Job Json → Bool} (h : ∀ job ∈ table.rows, touched job = false) :
    (table.updateWhere touched write).rows = table.rows := by
  rw [JobTable.updateWhere]
  conv_rhs => rw [← List.map_id table.rows]
  refine List.map_congr_left fun job member => ?_
  simp [h job member]

theorem holdsRow_selected {table : JobTable Json} {jobs : List (Job Json)} {job : Job Json}
    (selected : ∀ row ∈ jobs, row ∈ table.rows) (member : job ∈ table.rows) :
    holdsRow jobs job = true ↔ job ∈ jobs := by
  simp only [holdsRow, List.any_eq_true, beq_iff_eq]
  constructor
  · rintro ⟨row, hrow, same⟩
    rwa [← JobTable.eq_of_id (selected row hrow) member same]
  · exact fun h => ⟨job, h, rfl⟩

theorem ClaimJobs.mem_selection {call : ClaimJobs} {table : JobTable Json} {job : Job Json}
    (h : job ∈ call.selection table) :
    job ∈ table.rows ∧ claimable call.queues call.claimedAt job = true := by
  have kept := List.mem_of_mem_take h
  rw [List.mem_insertionSort, List.mem_filter, Bool.and_eq_true] at kept
  exact ⟨kept.1, kept.2.1⟩

theorem RecoverStaleJobs.mem_selection {call : RecoverStaleJobs} {table : JobTable Json}
    {job : Job Json} (h : job ∈ call.selection table) :
    job ∈ table.rows ∧ stale call.recoveredAt job = true := by
  have kept := List.mem_of_mem_take h
  rw [List.mem_insertionSort, List.mem_filter, Bool.and_eq_true] at kept
  exact ⟨kept.1, kept.2.1⟩

namespace QueueOp

theorem touched_guard {op : QueueOp Json} {table : JobTable Json} {job : Job Json}
    (member : job ∈ table.rows) (h : op.touched table job = true) : op.guard job = true := by
  cases op with
  | createJob => exact h
  | claimJobs call =>
    simp only [touched] at h
    split at h
    · contradiction
    · have selected : ∀ row ∈ call.selection table, row ∈ table.rows :=
        fun row hrow => (ClaimJobs.mem_selection hrow).1
      exact (ClaimJobs.mem_selection ((holdsRow_selected selected member).mp h)).2
  | renewLease => exact h
  | markSucceeded => exact h
  | markFailed => exact h
  | recoverStaleJobs call =>
    simp only [touched] at h
    split at h
    · contradiction
    · have selected : ∀ row ∈ call.selection table, row ∈ table.rows :=
        fun row hrow => (RecoverStaleJobs.mem_selection hrow).1
      exact (RecoverStaleJobs.mem_selection ((holdsRow_selected selected member).mp h)).2

theorem step_rows (op : QueueOp Json) (table : JobTable Json)
    (queueOp : ∀ data id now, op ≠ .createJob data id now) :
    (op.step table).rows = (table.updateWhere (op.touched table) op.write).rows := by
  cases op with
  | createJob data id now => exact absurd rfl (queueOp data id now)
  | claimJobs call =>
    simp only [step, touched, write, JobQueue.claimJobs]
    split
    · exact (updateWhere_false table _ fun _ _ => rfl).symm
    · rfl
  | renewLease => rfl
  | markSucceeded => rfl
  | markFailed call =>
    simp only [step, touched, write, JobQueue.markFailed]
    cases found : table.rows.find? (ownedRow call.jobId call.workerId call.failedAt) with
    | none =>
      refine (updateWhere_false table _ fun job member => ?_).symm
      simpa using List.find?_eq_none.mp found job member
    | some => rfl
  | recoverStaleJobs call =>
    simp only [step, touched, write, JobQueue.recoverStaleJobs]
    split
    · exact (updateWhere_false table _ fun _ _ => rfl).symm
    · rfl

theorem step_createJob (data : JobCreate Json) (id : Uuid) (now : Time)
    (table : JobTable Json) :
    ((createJob data id now).step table).rows = table.rows ∨
      ((createJob data id now).step table).rows = table.rows ++ [addJob data id now] := by
  simp only [step, createOrGetIdempotentJob]
  split
  · next taken =>
    split at taken
    · contradiction
    · split at taken
      · cases taken; exact .inl rfl
      · cases taken; exact .inr rfl
  · exact .inl rfl

/-- What one transaction can do to the rows: every row after it was there before,
untouched or rewritten under the guard, or it is the inserted one. -/
theorem mem_step {op : QueueOp Json} {table : JobTable Json} {row : Job Json}
    (h : row ∈ (op.step table).rows) :
    (∃ job ∈ table.rows, op.touched table job = false ∧ row = job) ∨
    (∃ job ∈ table.rows, op.touched table job = true ∧ op.guard job = true ∧
      row = op.write.apply job) ∨
    (∃ data id now, op = .createJob data id now ∧ row = addJob data id now ∧
      ∀ job ∈ table.rows, job.id ≠ id) := by
  by_cases create : ∃ data id now, op = .createJob data id now
  · obtain ⟨data, id, now, rfl⟩ := create
    have unique := ((createJob data id now).step table).unique
    rcases step_createJob data id now table with rows | rows
    · exact .inl ⟨row, rows ▸ h, rfl, rfl⟩
    · rw [rows] at h unique
      rcases List.mem_append.mp h with old | new
      · exact .inl ⟨row, old, rfl, rfl⟩
      · refine .inr (.inr ⟨data, id, now, rfl, List.mem_singleton.mp new, fun job member => ?_⟩)
        exact ((List.pairwise_append.mp unique).2.2 job member _ (List.mem_singleton_self _)).1
  · rw [step_rows op table fun data id now equal => create ⟨data, id, now, equal⟩] at h
    obtain ⟨job, member, rfl⟩ := JobTable.mem_updateWhere.mp h
    cases touch : op.touched table job with
    | false => exact .inl ⟨job, member, touch, by simp⟩
    | true => exact .inr (.inl ⟨job, member, touch, touched_guard member touch, by simp⟩)

theorem mem_step_of_mem {op : QueueOp Json} {table : JobTable Json} {job : Job Json}
    (member : job ∈ table.rows) :
    (if op.touched table job then op.write.apply job else job) ∈ (op.step table).rows := by
  by_cases create : ∃ data id now, op = .createJob data id now
  · obtain ⟨data, id, now, rfl⟩ := create
    rcases step_createJob data id now table with rows | rows
    · simpa [touched, rows] using member
    · simp [touched, rows, member]
  · rw [step_rows op table fun data id now equal => create ⟨data, id, now, equal⟩]
    exact JobTable.mem_updateWhere.mpr ⟨job, member, rfl⟩

/-- The identifiers whose rows this transaction claims. -/
def claims (op : QueueOp Json) (table : JobTable Json) (id : Uuid) : Bool :=
  match op with
  | .claimJobs call => (JobQueue.claimJobs call table).1.any fun job => job.id == id
  | _ => false

/-- The number of successful claims of one job in a run, oldest transaction first. -/
def timesClaimed (id : Uuid) : JobTable Json → List (QueueOp Json) → Nat
  | _, [] => 0
  | table, op :: ops =>
    (op.claims table id).toNat + timesClaimed id (op.step table) ops

theorem timesClaimed_append_singleton (id : Uuid) (table : JobTable Json)
    (ops : List (QueueOp Json)) (op : QueueOp Json) :
    timesClaimed id table (ops ++ [op]) = timesClaimed id table ops +
      (op.claims (ops.foldl (fun t o => o.step t) table) id).toNat := by
  induction ops generalizing table with
  | nil => simp [timesClaimed]
  | cons first ops ih => simp only [List.cons_append, timesClaimed, ih, List.foldl_cons]; omega

theorem claims_eq_touched (call : ClaimJobs) {table : JobTable Json} {job : Job Json} :
    (claimJobs call : QueueOp Json).claims table job.id =
      (claimJobs call : QueueOp Json).touched table job := by
  simp only [claims, touched, JobQueue.claimJobs]
  split
  · rfl
  · simp [holdsRow, List.any_map, Function.comp_def, ClaimJobs.write]

theorem claims_of_not_mem {op : QueueOp Json} {table : JobTable Json} {id : Uuid}
    (absent : ∀ job ∈ table.rows, job.id ≠ id) : op.claims table id = false := by
  cases op with
  | claimJobs call =>
    simp only [claims, JobQueue.claimJobs]
    split
    · rfl
    · simp only [List.any_map, List.any_eq_false, Function.comp_def, beq_iff_eq]
      exact fun job selected => absent job (ClaimJobs.mem_selection selected).1
  | _ => rfl

end QueueOp

end CareerProjects.JobQueue
