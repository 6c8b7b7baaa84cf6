import CareerProjects.JobQueue.Locking

/-! Exclusive, ordered claims. Between two claims of a job its row is scheduled for a retry; what a
claim gets are the first of its candidates that it did not have to pass over. -/

namespace CareerProjects.JobQueue
open Library

variable {Json : Type}

namespace LockedQueue

variable {queue after : LockedQueue Json} {id : TransactionId}

theorem append_singleton_split {α : Type} {history before later : List α} {last commit : α}
    (split : history ++ [last] = before ++ commit :: later) :
    (later = [] ∧ before = history ∧ commit = last) ∨
      ∃ rest, later = rest ++ [last] ∧ history = before ++ commit :: rest := by
  rcases List.eq_nil_or_concat later with rfl | ⟨rest, final, rfl⟩
  · obtain ⟨same, last_eq⟩ := List.append_inj' split rfl
    cases last_eq
    exact .inl ⟨rfl, same.symm, rfl⟩
  · rw [List.concat_eq_append, ← List.cons_append, ← List.append_assoc] at split
    obtain ⟨same, last_eq⟩ := List.append_inj' split rfl
    cases last_eq
    exact .inr ⟨rest, List.concat_eq_append, same⟩

/-- A claim has left its row, which waits for no other claim until it is rescheduled. -/
def Taken (table : JobTable Json) (job : Job Json) (later : List (Commit Json)) : Prop :=
  ∃ row ∈ table.rows, row.id = job.id ∧ job.attemptCount ≤ row.attemptCount ∧
    ((∀ commit ∈ later, ¬commit.Reschedules job.id) →
      row.status ≠ .queued ∧ row.status ≠ .retryScheduled)

structure Past (table : JobTable Json) (history : List (Commit Json)) : Prop where
  taken : ∀ before commit later, history = before ++ commit :: later →
    ∀ job, commit.Claims job → Taken table job later
  successive : ∀ before first between second later,
    history = before ++ first :: (between ++ second :: later) →
    ∀ a b, first.Claims a → second.Claims b → a.id = b.id →
      (∃ commit ∈ between, commit.Reschedules a.id) ∧ a.attemptCount < b.attemptCount

theorem write_attempts (op : QueueOp Json) (job : Job Json) :
    job.attemptCount ≤ (op.write.apply job).attemptCount := by
  cases op with
  | claimJobs call => exact Nat.le_succ _
  | markFailed call =>
    simp only [QueueOp.write, MarkFailed.write]
    split <;> exact le_rfl
  | recoverStaleJobs call =>
    simp only [QueueOp.write, RecoverStaleJobs.write]
    split <;> exact le_rfl
  | _ => exact le_rfl

theorem write_status {op : QueueOp Json} {job : Job Json} (guard : op.guard job = true)
    (idle : job.status ≠ .queued ∧ job.status ≠ .retryScheduled) :
    ((op.write.apply job).status ≠ .queued ∧ (op.write.apply job).status ≠ .retryScheduled) ∨
      (((∃ call, op = .markFailed call) ∨ ∃ call, op = .recoverStaleJobs call) ∧
        (op.write.apply job).status = .retryScheduled) := by
  cases op with
  | createJob => cases guard
  | claimJobs call =>
    rcases claimable_status guard with queued | scheduled
    · exact absurd queued idle.1
    · exact absurd scheduled idle.2
  | renewLease call => exact .inl idle
  | markSucceeded call => exact .inl ⟨by simp [QueueOp.write, MarkSucceeded.write], by
      simp [QueueOp.write, MarkSucceeded.write]⟩
  | markFailed call =>
    simp only [QueueOp.write, MarkFailed.write]
    split <;> simp
  | recoverStaleJobs call =>
    simp only [QueueOp.write, RecoverStaleJobs.write]
    split <;> simp

theorem Past.initial : Past (JobTable.empty : JobTable Json) [] := by
  constructor <;> simp

theorem Past.createJob {table : JobTable Json} {history : List (Commit Json)}
    (past : Past table history) (data : JobCreate Json) (jobId : Uuid) (now : Time) :
    Past ((QueueOp.createJob data jobId now).step table) history := by
  refine ⟨fun before commit later split job claimed => ?_, past.successive⟩
  obtain ⟨row, member, rest⟩ := past.taken before commit later split job claimed
  exact ⟨row, QueueOp.mem_step_of_mem member, rest⟩

theorem mem_committed {transaction : Transaction Json} {row : Job Json}
    (member : row ∈ queue.table.rows) :
    (if row.id ∈ transaction.locked then transaction.op.write.apply row else row) ∈
      (queue.table.updateWhere (fun job => transaction.locked.contains job.id)
        transaction.op.write).rows :=
  JobTable.mem_updateWhere.mpr ⟨row, member, by simp⟩

theorem Past.commit (past : Past queue.table queue.history) {transaction : Transaction Json}
    (sound : OpenSound queue id transaction) :
    Past (queue.table.updateWhere (fun job => transaction.locked.contains job.id)
        transaction.op.write)
      (queue.history ++
        [⟨transaction.op, (queue.lockedJobs transaction).map transaction.op.write.apply⟩]) := by
  constructor
  · intro before commit later split job claimed
    rcases append_singleton_split split with ⟨rfl, -, rfl⟩ | ⟨rest, rfl, earlier⟩
    · obtain ⟨⟨call, op⟩, written⟩ := claimed
      obtain ⟨row, inside, rfl⟩ := List.mem_map.mp written
      obtain ⟨member, locked⟩ := mem_lockedJobs.mp inside
      have stored := @mem_committed _ queue transaction _ member
      rw [if_pos locked] at stored
      refine ⟨_, stored, rfl, le_rfl, fun _ => ?_⟩
      simp only at op
      simp [op, QueueOp.write, ClaimJobs.write]
    · obtain ⟨row, member, same, attempts, idle⟩ := past.taken before commit rest earlier job claimed
      have stored := @mem_committed _ queue transaction _ member
      by_cases locked : row.id ∈ transaction.locked
      · rw [if_pos locked] at stored
        refine ⟨_, stored, (transaction.op.write.keepsId row).trans same,
          attempts.trans (write_attempts _ _), fun calm => ?_⟩
        have before_idle := idle fun next inside => calm next (List.mem_append_left _ inside)
        rcases write_status (sound.guard_of_locked member locked) before_idle with still | ⟨kind, scheduled⟩
        · exact still
        · refine absurd ⟨kind, _, List.mem_map_of_mem (mem_lockedJobs.mpr ⟨member, locked⟩), ?_, scheduled⟩
            (calm _ (List.mem_append_right _ List.mem_cons_self))
          exact (transaction.op.write.keepsId row).trans same
      · rw [if_neg locked] at stored
        exact ⟨row, stored, same, attempts, fun calm =>
          idle fun next inside => calm next (List.mem_append_left _ inside)⟩
  · intro before first between second later split a b claimed claimed' same
    rw [← List.cons_append, ← List.append_assoc] at split
    rcases append_singleton_split split with ⟨-, earlier, rfl⟩ | ⟨rest, rfl, earlier⟩
    · obtain ⟨row, member, sameId, attempts, idle⟩ := past.taken before first between earlier.symm a claimed
      obtain ⟨⟨call, op⟩, written⟩ := claimed'
      obtain ⟨row', inside, rfl⟩ := List.mem_map.mp written
      obtain ⟨member', locked⟩ := mem_lockedJobs.mp inside
      have one : row' = row := by
        refine JobTable.eq_of_id member' member ?_
        rw [sameId, same, RowWrite.keepsId]
      subst one
      simp only at op
      have guard := sound.guard_of_locked member' locked
      rw [op] at guard
      constructor
      · by_contra calm
        have waiting := idle (by simpa using calm)
        rcases claimable_status guard with queued | scheduled
        · exact waiting.1 queued
        · exact waiting.2 scheduled
      · simp only [op, QueueOp.write, ClaimJobs.write]
        omega
    · refine past.successive before first between second rest ?_ a b claimed claimed' same
      rw [earlier, List.append_assoc, List.cons_append]

theorem Past.of_reachable (reachable : queue.Reachable) : Past queue.table queue.history := by
  have both : Sound queue ∧ Past queue.table queue.history := by
    refine reachable.invariant (I := fun queue => Sound queue ∧ Past queue.table queue.history)
      ⟨.initial, .initial⟩ ?_
    rintro queue action after ⟨sound, past⟩ moved
    refine ⟨sound.step moved, ?_⟩
    unfold LockedQueue.step at moved
    split at moved
    · next data jobId now =>
      cases moved
      exact past.createJob data jobId now
    · cases moved
    · split at moved
      · cases moved
      · cases moved
        exact past
    · obtain ⟨_, _, _, _, -, -, -, -, rfl⟩ := reach_cases moved
      exact past
    · next id =>
      obtain ⟨transaction, present, -, rfl⟩ := commit_cases moved
      exact past.commit (sound.sessions id transaction present)
    · rw [Option.map_eq_some_iff] at moved
      obtain ⟨_, -, rfl⟩ := moved
      exact past
  exact both.2

def Earlier (queue : LockedQueue Json) (holds : LockedQueue Json → Prop) : Prop :=
  ∃ earlier : LockedQueue Json, earlier.Reachable ∧
    Reached (fun a action b => a.step action = some b) earlier queue ∧ holds earlier

theorem Earlier.step {holds : LockedQueue Json → Prop} (earlier : Earlier queue holds)
    {action : Action Json} (moved : queue.step action = some after) : Earlier after holds := by
  obtain ⟨first, reachable, reached, known⟩ := earlier
  exact ⟨first, reachable, reached.tail moved, known⟩

/-- The snapshot was the table when the transaction started, and each verdict was what the
statement found when it came to the row. -/
structure Witnessed (queue : LockedQueue Json) (id : TransactionId) (transaction : Transaction Json) :
    Prop where
  snapshot : Earlier queue fun start => start.sessions id = none ∧ start.table = transaction.snapshot
  verdicts : ∀ before jobId verdict later, transaction.reached = before ++ (jobId, verdict) :: later →
    Earlier queue fun visit => visit.verdict id transaction.op jobId = some verdict ∧
      visit.sessions id = some ⟨transaction.op, transaction.snapshot, before,
        jobId :: (later.map Prod.fst ++ transaction.ahead)⟩

theorem Witnessed.step {transaction : Transaction Json} (known : Witnessed queue id transaction)
    {action : Action Json} (moved : queue.step action = some after) : Witnessed after id transaction :=
  ⟨known.snapshot.step moved, fun before jobId verdict later split =>
    (known.verdicts before jobId verdict later split).step moved⟩

theorem Witnessed.of_reachable (reachable : queue.Reachable) :
    ∀ id transaction, queue.sessions id = some transaction → Witnessed queue id transaction := by
  have both : queue.Reachable ∧
      ∀ id transaction, queue.sessions id = some transaction → Witnessed queue id transaction := by
    refine reachable.invariant (I := fun queue => queue.Reachable ∧
      ∀ id transaction, queue.sessions id = some transaction → Witnessed queue id transaction)
      ⟨.refl _, by simp [LockedQueue.initial]⟩ ?_
    rintro queue action after ⟨reachable, known⟩ moved
    refine ⟨reachable.tail moved, fun id transaction present => ?_⟩
    -- a transaction that does nothing in this step keeps its witnesses
    have same : queue.sessions id = some transaction → Witnessed after id transaction :=
      fun unchanged => (known id transaction unchanged).step moved
    have whole := moved
    unfold LockedQueue.step at moved
    split at moved
    · cases moved
      exact same present
    · cases moved
    · next other op _ =>
      split at moved
      · cases moved
      · next free =>
        cases moved
        by_cases mine : id = other
        · subst mine
          simp only [LockedQueue.enter, Function.update_self, Option.some.injEq] at present
          subst present
          refine ⟨⟨queue, reachable, (Reached.refl _).tail whole, free, rfl⟩, ?_⟩
          intro before jobId verdict later split
          simp at split
        · exact same ((Function.update_of_ne mine ..).symm.trans present)
    · next other =>
      obtain ⟨visited, jobId, ahead, verdict, active, rest, -, found, rfl⟩ := reach_cases moved
      by_cases mine : id = other
      · subst mine
        dsimp only at present
        rw [Function.update_self, Option.some.injEq] at present
        subst present
        have old := known id visited active
        refine ⟨old.snapshot.step whole, fun before key seen later split => ?_⟩
        rcases append_singleton_split split with ⟨rfl, rfl, last⟩ | ⟨others, rfl, earlier⟩
        · cases last
          refine ⟨queue, reachable, (Reached.refl _).tail whole, found, ?_⟩
          rw [active, Option.some.injEq, List.map_nil, List.nil_append]
          change visited = ⟨visited.op, visited.snapshot, visited.reached, jobId :: ahead⟩
          rw [← rest]
        · have seen_before := (old.verdicts before key seen others earlier).step whole
          rw [rest] at seen_before
          simpa [Transaction.visit] using seen_before
      · exact same ((Function.update_of_ne mine ..).symm.trans present)
    · next other =>
      obtain ⟨visited, active, -, rfl⟩ := commit_cases moved
      by_cases mine : id = other
      · subst mine
        simp [LockedQueue.finish] at present
      · exact same ((Function.update_of_ne mine ..).symm.trans present)
    · next other =>
      rw [Option.map_eq_some_iff] at moved
      obtain ⟨visited, active, rfl⟩ := moved
      by_cases mine : id = other
      · subst mine
        simp [LockedQueue.finish] at present
      · exact same ((Function.update_of_ne mine ..).symm.trans present)
  exact both.2

def waiting (call : ClaimJobs) (table : JobTable Json) : List (Job Json) :=
  (table.rows.filter (claimable call.queues call.claimedAt)).insertionSort ClaimOrder

theorem take_candidates (call : ClaimJobs) (table : JobTable Json) (p : Uuid → Bool) :
    (((waiting call table).map Job.id).filter p).take call.limit.toNat =
      ((((QueueOp.claimJobs call).candidates table).map Job.id).filter p).take call.limit.toNat := by
  rw [QueueOp.candidates]
  split
  · next refused =>
    rw [Bool.or_eq_true, List.isEmpty_iff, decide_eq_true_eq] at refused
    rcases refused with none | low
    · simp [waiting, claimable, none]
    · have zero : call.limit.toNat = 0 := by omega
      simp [zero]
  · rfl

theorem OpenSound.take_locked {transaction : Transaction Json}
    (sound : OpenSound queue id transaction) {limit : Nat}
    (limited : transaction.op.limit = some limit)
    (ready : transaction.ahead = [] ∨ transaction.full = true) {p : Uuid → Bool}
    (locked : (transaction.reached.map Prod.fst).filter p = transaction.locked) :
    (((transaction.op.candidates transaction.snapshot).map Job.id).filter p).take limit =
      transaction.locked := by
  have bounded := sound.bounded limit limited
  rw [sound.order, List.filter_append, locked]
  rcases ready with finished | full
  · rw [finished, List.filter_nil, List.append_nil, List.take_of_length_le bounded]
  · have enough : limit ≤ transaction.locked.length := by
      simpa [Transaction.full, limited] using full
    rw [List.take_append_of_le_length enough, List.take_of_length_le bounded]

theorem OpenSound.filter_passedOver {transaction : Transaction Json}
    (sound : OpenSound queue id transaction) :
    (transaction.reached.map Prod.fst).filter (fun jobId => jobId ∉ transaction.passedOver) =
      transaction.locked := by
  have distinct := (List.nodup_append.mp sound.nodup).1
  rw [List.filter_map, Transaction.locked]
  refine congrArg (List.map Prod.fst) (List.filter_congr fun entry member => ?_)
  have other : ∀ verdict, (entry.1, verdict) ∈ transaction.reached → verdict = entry.2 := by
    intro verdict inside
    exact congrArg Prod.snd (List.inj_on_of_nodup_map distinct inside member rfl)
  simp only [Function.comp_apply, decide_eq_decide, Transaction.mem_passedOver]
  constructor
  · intro unpassed
    by_contra passed
    exact unpassed ⟨entry.2, passed, member⟩
  · rintro taken ⟨verdict, passed, inside⟩
    exact passed ((other verdict inside).trans taken)

theorem waiting_perm (call : ClaimJobs) (table : JobTable Json) :
    (waiting call table).Perm (table.rows.filter (claimable call.queues call.claimedAt)) :=
  List.perm_insertionSort _ _

theorem waiting_pairwise (call : ClaimJobs) (table : JobTable Json) :
    (waiting call table).Pairwise ClaimOrder :=
  List.pairwise_insertionSort _ _

theorem passedOver_reason (reachable : queue.Reachable) {transaction : Transaction Json}
    (present : queue.sessions id = some transaction) {jobId : Uuid}
    (passed : jobId ∈ transaction.passedOver) :
    Earlier queue fun visit => (∃ visitor, visit.sessions id = some visitor ∧
        visitor.op = transaction.op ∧ visitor.snapshot = transaction.snapshot) ∧
      ((∃ other, other ≠ id ∧ visit.holder jobId = some other) ∨
        ∀ row ∈ visit.table.rows, row.id = jobId → transaction.op.guard row = false) := by
  obtain ⟨verdict, untaken, inside⟩ := Transaction.mem_passedOver.mp passed
  obtain ⟨before, later, split⟩ := List.append_of_mem inside
  obtain ⟨visit, earlier, reached, found, active⟩ :=
    (Witnessed.of_reachable reachable id transaction present).verdicts before jobId verdict later split
  refine ⟨visit, earlier, reached, ⟨_, active, rfl, rfl⟩, ?_⟩
  rcases verdict_cases found with ⟨taken, -⟩ | ⟨other, -, holds, different⟩ | ⟨-, -, unfit⟩
  · exact absurd taken untaken
  · exact .inl ⟨other, different, holds⟩
  · exact .inr unfit

/-- Since a state, one transaction alone has come to some of the rows of that state. -/
structure Alone (start : LockedQueue Json) (id : TransactionId) (call : ClaimJobs)
    (queue : LockedQueue Json) : Prop where
  table : queue.table = start.table
  history : queue.history = start.history
  holder : ∀ other, other ≠ id → ∀ jobId,
    queue.holder jobId = some other ↔ start.holder jobId = some other
  session : ∃ transaction, queue.sessions id = some transaction ∧ transaction.op = .claimJobs call ∧
    transaction.snapshot = start.table ∧
    ∀ entry ∈ transaction.reached, entry.2 = .taken ↔ start.holder entry.1 = none

theorem Alone.reach {start : LockedQueue Json} {call : ClaimJobs} (alone : Alone start id call queue)
    (sound : Sound queue) (unheld : ∀ jobId, start.holder jobId ≠ some id)
    (moved : queue.reach id = some after) : Alone start id call after := by
  obtain ⟨transaction, jobId, ahead, verdict, present, rest, -, found, rfl⟩ := reach_cases moved
  obtain ⟨mine, active, op, snapshot, verdicts⟩ := alone.session
  rw [present] at active
  cases active
  refine ⟨alone.table, alone.history, fun other different key => ?_, _, Function.update_self ..,
    op, snapshot, ?_⟩
  · rw [← alone.holder other different key]
    dsimp only
    split
    · next taken =>
      by_cases same : key = jobId
      · subst same
        rcases verdict_cases found with ⟨-, own, -⟩ | ⟨_, passed, -⟩ | ⟨passed, -⟩
        · rw [Function.update_self, Option.some.injEq]
          exact ⟨fun equal => absurd equal.symm different, fun holds => absurd (own other holds) different⟩
        · rw [taken] at passed
          cases passed
        · rw [taken] at passed
          cases passed
      · rw [Function.update_of_ne same]
    · rfl
  · have candidate : ∃ row ∈ queue.table.rows, row.id = jobId ∧ transaction.op.guard row = true := by
      have listed : jobId ∈ (transaction.op.candidates transaction.snapshot).map Job.id := by
        rw [(sound.sessions id transaction present).order, rest]
        simp
      obtain ⟨row, chosen, same⟩ := List.mem_map.mp listed
      have fits := mem_candidates chosen
      rw [snapshot, ← alone.table] at fits
      exact ⟨row, fits.1, same, fits.2⟩
    intro entry inside
    simp only [Transaction.visit, List.mem_append, List.mem_singleton] at inside
    rcases inside with old | rfl
    · exact verdicts entry old
    · dsimp only
      rcases verdict_cases found with ⟨taken, own, -⟩ | ⟨other, passed, holds, different⟩ | ⟨-, -, unfit⟩
      · refine iff_of_true taken (Option.eq_none_iff_forall_ne_some.mpr fun other holds => ?_)
        by_cases same : other = id
        · exact unheld jobId (same ▸ holds)
        · exact same (own other ((alone.holder other same jobId).mpr holds))
      · rw [alone.holder other different] at holds
        simp [passed, holds]
      · obtain ⟨row, member, same, guard⟩ := candidate
        rw [unfit row member same] at guard
        cases guard

theorem Alone.reaches {start : LockedQueue Json} {call : ClaimJobs} (sound : Sound queue)
    (unheld : ∀ jobId, start.holder jobId ≠ some id) (alone : Alone start id call queue) {count : Nat}
    (run : Run (fun a action b => a.step action = some b) queue (List.replicate count (.reach id)) after) :
    Sound after ∧ Alone start id call after := by
  induction count generalizing after with
  | zero =>
    generalize none_left : List.replicate 0 (Action.reach id) = labels at run
    cases run with
    | nil => exact ⟨sound, alone⟩
    | snoc _ _ => simp at none_left
  | succ count ih =>
    rw [List.replicate_succ'] at run
    obtain ⟨middle, first, last⟩ := run.snoc_inv
    obtain ⟨sound, alone⟩ := ih first
    exact ⟨sound.step last, alone.reach sound unheld last⟩

theorem holdsRow_map (jobs : List (Job Json)) (job : Job Json) :
    holdsRow jobs job = (jobs.map Job.id).contains job.id := by
  rw [Bool.eq_iff_iff, List.contains_iff_mem]
  simp [holdsRow]

/-- The claim as it is when nothing comes between: of the jobs that may be claimed it gets the first
that no other transaction holds. -/
def atOnce (queue : LockedQueue Json) (call : ClaimJobs) : ClaimJobs :=
  { call with locked := fun jobId => (queue.holder jobId).isSome }

theorem selection_atOnce (start : LockedQueue Json) (call : ClaimJobs) :
    ((atOnce start call).selection start.table).map Job.id =
      (((waiting call start.table).map Job.id).filter fun jobId => start.holder jobId = none).take
        call.limit.toNat := by
  have strict : ∀ a ∈ start.table.rows.filter (claimable call.queues call.claimedAt),
      ∀ b ∈ start.table.rows.filter (claimable call.queues call.claimedAt),
        ClaimOrder a b → ClaimOrder b a → a = b := by
    intro a chosen b chosen' first second
    exact JobTable.eq_of_id (List.mem_of_mem_filter chosen) (List.mem_of_mem_filter chosen')
      (claimOrder_both first second)
  rw [waiting, List.filter_map, filter_insertionSort _ strict, List.filter_filter, ← List.map_take,
    ClaimJobs.selection]
  congr 3
  refine List.filter_congr fun job _ => ?_
  cases held : start.holder job.id <;> simp [atOnce, held]

theorem Alone.commit {start : LockedQueue Json} {call : ClaimJobs} (alone : Alone start id call queue)
    (sound : Sound queue) (moved : queue.commit id = some after) :
    after.history = start.history ++
        [⟨.claimJobs call, (claimJobs (atOnce start call) start.table).1⟩] ∧
      after.table = (claimJobs (atOnce start call) start.table).2 := by
  obtain ⟨transaction, present, ready, rfl⟩ := commit_cases moved
  obtain ⟨mine, active, op, snapshot, verdicts⟩ := alone.session
  rw [present] at active
  cases active
  have own := sound.sessions id transaction present
  have limited : transaction.op.limit = some call.limit.toNat := by rw [op]; rfl
  have locked : (transaction.reached.map Prod.fst).filter (fun jobId => start.holder jobId = none) =
      transaction.locked := by
    rw [List.filter_map, Transaction.locked]
    refine congrArg (List.map Prod.fst) (List.filter_congr fun entry member => ?_)
    simp only [Function.comp_apply, decide_eq_decide]
    exact (verdicts entry member).symm
  have selected : transaction.locked = ((atOnce start call).selection start.table).map Job.id := by
    rw [selection_atOnce, take_candidates, ← own.take_locked limited ready locked, op, snapshot]
  have inside : ∀ job ∈ (atOnce start call).selection start.table, start.table.find job.id = some job :=
    fun job chosen => JobTable.find_eq_some.mpr ⟨(ClaimJobs.mem_selection chosen).1, rfl⟩
  have jobs : queue.lockedJobs transaction = (atOnce start call).selection start.table := by
    rw [lockedJobs, selected, alone.table, List.filterMap_map]
    calc ((atOnce start call).selection start.table).filterMap (start.table.find ∘ Job.id)
        = ((atOnce start call).selection start.table).filterMap some :=
          List.filterMap_congr inside
      _ = (atOnce start call).selection start.table := List.filterMap_some
  have write : transaction.op.write = (atOnce start call).write := by
    rw [op]
    rfl
  have empty : (call.queues.isEmpty || decide (call.limit < 1)) = true →
      (atOnce start call).selection start.table = [] := by
    intro refused
    have none_locked := own.take_locked limited ready locked
    rw [op, QueueOp.candidates, if_pos refused] at none_locked
    rw [← none_locked] at selected
    exact List.map_eq_nil_iff.mp (selected.symm.trans (by simp))
  dsimp only
  rw [jobs, write, op, alone.table, alone.history, claimJobs]
  by_cases refused : (call.queues.isEmpty || decide (call.limit < 1)) = true
  · rw [if_pos (show ((atOnce start call).queues.isEmpty || decide ((atOnce start call).limit < 1)) = true
      from refused), empty refused]
    refine ⟨rfl, eq_of_rows (updateWhere_false _ _ fun job _ => ?_)⟩
    simp [selected, empty refused]
  · rw [if_neg (show ¬((atOnce start call).queues.isEmpty || decide ((atOnce start call).limit < 1)) = true
      from refused)]
    refine ⟨rfl, updateWhere_congr _ fun job _ => ?_⟩
    rw [selected, holdsRow_map]

theorem commit_ready {transaction : Transaction Json}
    (present : queue.sessions id = some transaction)
    (ready : (transaction.ahead.isEmpty || transaction.full) = true) :
    ∃ after, queue.step (.commit id) = some after := by
  simp only [LockedQueue.step, LockedQueue.commit, present, Option.bind_some, ready, if_true,
    Option.some.injEq, exists_eq']

theorem claim_completes {transaction : Transaction Json}
    (present : queue.sessions id = some transaction) (skips : transaction.op.limit.isSome = true) :
    ∃ count after, Run (fun a action b => a.step action = some b) queue
      (List.replicate count (.reach id) ++ [.commit id]) after := by
  induction rest : transaction.ahead generalizing queue transaction with
  | nil =>
    obtain ⟨after, done⟩ := commit_ready present (by rw [rest]; rfl)
    exact ⟨0, after, .single done⟩
  | cons jobId ahead ih =>
    by_cases full : transaction.full = true
    · obtain ⟨after, done⟩ := commit_ready present (by rw [full, Bool.or_true])
      exact ⟨0, after, .single done⟩
    · have decided : (queue.verdict id transaction.op jobId).isSome = true := by
        unfold LockedQueue.verdict
        split
        · rw [if_pos skips]
          rfl
        · split <;> rfl
      obtain ⟨verdict, found⟩ := Option.isSome_iff_exists.mp decided
      have moved : ∃ middle, queue.step (.reach id) = some middle ∧
          middle.sessions id = some (transaction.visit jobId verdict ahead) := by
        rw [LockedQueue.step, LockedQueue.reach, present, Option.bind_some]
        simp only [rest, if_neg full, found, Option.map_some, Option.some.injEq, exists_eq_left']
        exact Function.update_self ..
      obtain ⟨middle, first, active⟩ := moved
      obtain ⟨count, after, others⟩ := ih active skips rfl
      exact ⟨count + 1, after, others.cons first⟩

/-- What a claim has when it commits, of which it says how it came to it. -/
structure Claimed (queue after : LockedQueue Json) (id : TransactionId) (call : ClaimJobs)
    (jobs : List (Job Json)) : Prop where
  recorded : after.history = queue.history ++ [⟨.claimJobs call, jobs.map call.write.apply⟩]
  first : ∃ snapshot : JobTable Json, ∃ passedOver : List Uuid,
    Earlier queue (fun start => start.sessions id = none ∧ start.table = snapshot) ∧
    (waiting call snapshot).Perm (snapshot.rows.filter (claimable call.queues call.claimedAt)) ∧
    (waiting call snapshot).Pairwise ClaimOrder ∧
    jobs.map Job.id = (((waiting call snapshot).map Job.id).filter fun jobId => jobId ∉ passedOver).take
      call.limit.toNat ∧
    ∀ jobId ∈ passedOver, Earlier queue fun visit => (∃ visitor, visit.sessions id = some visitor ∧
        visitor.op = .claimJobs call ∧ visitor.snapshot = snapshot) ∧
      ((∃ other, other ≠ id ∧ visit.holder jobId = some other) ∨
        ∀ row ∈ visit.table.rows, row.id = jobId → claimable call.queues call.claimedAt row = false)
  limited : jobs.length ≤ call.limit.toNat
  distinct : (jobs.map Job.id).Nodup
  taken : ∀ job ∈ jobs, job ∈ queue.table.rows ∧ claimable call.queues call.claimedAt job = true
  leased : ∀ job ∈ jobs, ∃ row ∈ after.table.rows, row = call.write.apply job ∧ row.id = job.id ∧
    row.status = .running ∧ row.workerId = some call.workerId ∧
    row.leaseExpiresAt = some (call.claimedAt + call.leaseDurationSeconds)

theorem claimed_of_commit (reachable : queue.Reachable) {transaction : Transaction Json}
    {call : ClaimJobs} (present : queue.sessions id = some transaction)
    (op : transaction.op = .claimJobs call) (moved : queue.commit id = some after) :
    Claimed queue after id call (queue.lockedJobs transaction) := by
  have own := (Sound.of_reachable reachable).sessions id transaction present
  obtain ⟨same, active, ready, rfl⟩ := commit_cases moved
  rw [present] at active
  cases active
  have limited : transaction.op.limit = some call.limit.toNat := by rw [op]; rfl
  have taken := own.take_locked limited ready own.filter_passedOver
  have ids := own.map_lockedJobs
  refine ⟨?_, ⟨transaction.snapshot, transaction.passedOver, ?_, waiting_perm _ _, waiting_pairwise _ _,
    ?_, ?_⟩, ?_, ?_, fun job inside => ?_, fun job inside => ?_⟩
  · rw [op]
    rfl
  · exact (Witnessed.of_reachable reachable id transaction present).snapshot
  · rw [ids, take_candidates, ← op, taken]
  · intro jobId passed
    have reason := passedOver_reason reachable present passed
    rw [op] at reason
    exact reason
  · have size := own.bounded _ limited
    rwa [← ids, List.length_map] at size
  · rw [ids]
    exact (List.nodup_append.mp own.nodup).1.sublist (List.filter_sublist.map _)
  · obtain ⟨member, locked⟩ := mem_lockedJobs.mp inside
    have guard := own.guard_of_locked member locked
    rw [op] at guard
    exact ⟨member, guard⟩
  · obtain ⟨member, locked⟩ := mem_lockedJobs.mp inside
    have stored := @mem_committed _ queue transaction _ member
    rw [if_pos locked] at stored
    refine ⟨call.write.apply job, ?_, rfl, rfl, rfl, rfl, rfl⟩
    rw [show call.write = transaction.op.write by rw [op]; rfl]
    exact stored

/-- In every state that transactions of the queue reach, in any order of their statements: between two
claims of a job it was rescheduled, and the second is a later attempt; no row is held twice; a claim
that commits has the first of the jobs it found that it did not pass over, each passed over for a
lock or a change; and a claim with nothing in between gets the first that are not locked. -/
theorem exclusive_ordered_claims (queue : LockedQueue Json) (reachable : queue.Reachable) :
    (∀ before first between second later,
      queue.history = before ++ first :: (between ++ second :: later) →
      ∀ a b, first.Claims a → second.Claims b → a.id = b.id →
        (∃ commit ∈ between, commit.Reschedules a.id) ∧ a.attemptCount < b.attemptCount) ∧
    (∀ id other transaction transaction', queue.sessions id = some transaction →
      queue.sessions other = some transaction' → id ≠ other →
        ∀ jobId ∈ transaction.locked, jobId ∉ transaction'.locked) ∧
    (∀ id transaction call after, queue.sessions id = some transaction →
      transaction.op = .claimJobs call → queue.step (.commit id) = some after →
        ∃ jobs, Claimed queue after id call jobs) ∧
    ∀ id call, queue.sessions id = none →
      (∃ count after, Run (fun a action b => a.step action = some b) queue
        (.start id (.claimJobs call) :: (List.replicate count (.reach id) ++ [.commit id])) after) ∧
      ∀ count after, Run (fun a action b => a.step action = some b) queue
        (.start id (.claimJobs call) :: (List.replicate count (.reach id) ++ [.commit id])) after →
        after.history = queue.history ++
            [⟨.claimJobs call, (claimJobs (atOnce queue call) queue.table).1⟩] ∧
          after.table = (claimJobs (atOnce queue call) queue.table).2 := by
  have sound := Sound.of_reachable reachable
  refine ⟨(Past.of_reachable reachable).successive, ?_, ?_, fun id call free => ⟨?_, ?_⟩⟩
  · intro id other transaction transaction' present present' different jobId inside inside'
    have mine := (sound.sessions id transaction present).held jobId inside
    rw [(sound.sessions other transaction' present').held jobId inside', Option.some.injEq] at mine
    exact different mine.symm
  · intro id transaction call after present op moved
    exact ⟨_, claimed_of_commit reachable present op moved⟩
  · obtain ⟨count, after, rest⟩ := @claim_completes _ (queue.enter id (.claimJobs call)) id
      ⟨.claimJobs call, queue.table, [], ((QueueOp.claimJobs call).candidates queue.table).map Job.id⟩
      (Function.update_self ..) rfl
    refine ⟨count, after, .cons ?_ rest⟩
    simp only [LockedQueue.step, free]
  · intro count after run
    obtain ⟨started, first, rest⟩ := run.cons_inv
    obtain ⟨queried, reaches, last⟩ := rest.snoc_inv
    have begins : started = queue.enter id (.claimJobs call) := by
      simp only [LockedQueue.step, free] at first
      exact (Option.some.inj first).symm
    subst begins
    have unheld : ∀ jobId, queue.holder jobId ≠ some id := by
      intro jobId holds
      obtain ⟨transaction, present, -⟩ := sound.holders jobId id holds
      rw [free] at present
      cases present
    have alone : Alone queue id call (queue.enter id (.claimJobs call)) :=
      ⟨rfl, rfl, fun _ _ _ => Iff.rfl, _, Function.update_self .., rfl, rfl, by simp⟩
    obtain ⟨soundLater, aloneLater⟩ := alone.reaches (sound.enter free _) unheld reaches
    exact aloneLater.commit soundLater last

def emailJob : JobCreate String :=
  { echoJob with taskName := "send-email", taskNameValid := by decide }

def claimBy (workerId : String) (claimedAt : Time) : QueueOp String :=
  .claimJobs ⟨workerId, ["default"], 1, 30, claimedAt, fun _ => false⟩

def retryActions : List (Action String) :=
  [.createJob emailJob 7 0, .start 0 (claimBy "a" 1), .start 1 (claimBy "b" 1), .reach 0, .reach 1,
    .commit 0, .commit 1, .start 2 (.markFailed ⟨7, "a", "error", true, 5, 300, 2⟩), .reach 2, .commit 2,
    .start 3 (claimBy "b" 7), .reach 3, .commit 3]

theorem exclusive_ordered_claims_retried : ∃ queue : LockedQueue String, queue.Reachable ∧
    queue.history.map (fun commit => commit.jobs.map fun job => (job.id, job.status, job.attemptCount)) =
      [[(7, .running, 1)], [], [(7, .retryScheduled, 1)], [(7, .running, 2)]] ∧
    ∀ before first between second later,
      queue.history = before ++ first :: (between ++ second :: later) →
      ∀ a b, first.Claims a → second.Claims b → a.id = b.id →
        (∃ commit ∈ between, commit.Reschedules a.id) ∧ a.attemptCount < b.attemptCount := by
  have history : ((retryActions.foldlM LockedQueue.step initial).map fun queue =>
      queue.history.map fun commit => commit.jobs.map fun job => (job.id, job.status, job.attemptCount)) =
        some [[(7, .running, 1)], [], [(7, .retryScheduled, 1)], [(7, .running, 2)]] := by
    decide +kernel
  obtain ⟨queue, found, jobs⟩ := Option.map_eq_some_iff.mp history
  have reachable : queue.Reachable := Reached.of_foldlM found
  exact ⟨queue, reachable, jobs, (exclusive_ordered_claims queue reachable).1⟩

end LockedQueue

end CareerProjects.JobQueue
