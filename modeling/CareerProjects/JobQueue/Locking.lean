import CareerProjects.JobQueue.Lifecycle
import CareerProjects.Library.Batches
import CareerProjects.Library.Runs

/-! Queue operations under row locks. A transaction takes a snapshot of the committed rows, comes to
the rows its statement found in it one after the other, and locks those that are free and still meet
the `WHERE` clause. `SKIP LOCKED` passes over a row that another transaction holds; the statements
without it wait. The commit writes the locked rows and frees them. -/

namespace CareerProjects.JobQueue
open Library

abbrev TransactionId := Nat

variable {Json : Type}

/-- The rows a statement finds in its snapshot, in the order in which it comes to them. -/
def QueueOp.candidates (op : QueueOp Json) (snapshot : JobTable Json) : List (Job Json) :=
  match op with
  | .claimJobs call =>
    if call.queues.isEmpty || call.limit < 1 then []
    else (snapshot.rows.filter op.guard).insertionSort ClaimOrder
  | .recoverStaleJobs call =>
    if call.limit < 1 then [] else (snapshot.rows.filter op.guard).insertionSort RecoveryOrder
  | _ => snapshot.rows.filter op.guard

def QueueOp.limit : QueueOp Json → Option Nat
  | .claimJobs call => some call.limit.toNat
  | .recoverStaleJobs call => some call.limit.toNat
  | _ => none

/-- What a statement makes of a row of its snapshot when it comes to it. -/
inductive Verdict
  | taken
  | heldBy (other : TransactionId)
  | changed
  deriving DecidableEq

/-- An open transaction: the rows its statement has come to, and the ids of those ahead. -/
structure Transaction (Json : Type) where
  op : QueueOp Json
  snapshot : JobTable Json
  reached : List (Uuid × Verdict)
  ahead : List Uuid

namespace Transaction

def locked (transaction : Transaction Json) : List Uuid :=
  (transaction.reached.filter fun entry => entry.2 = .taken).map Prod.fst

def passedOver (transaction : Transaction Json) : List Uuid :=
  (transaction.reached.filter fun entry => entry.2 ≠ .taken).map Prod.fst

def full (transaction : Transaction Json) : Bool :=
  transaction.op.limit.any fun limit => limit ≤ transaction.locked.length

end Transaction

/-- A committed transaction, with the rows as it wrote them. -/
structure Commit (Json : Type) where
  op : QueueOp Json
  jobs : List (Job Json)

namespace Commit

def Claims (commit : Commit Json) (job : Job Json) : Prop :=
  (∃ call, commit.op = .claimJobs call) ∧ job ∈ commit.jobs

/-- A `mark_failed` or a `recover_stale_jobs` that scheduled another attempt of the job. -/
def Reschedules (commit : Commit Json) (jobId : Uuid) : Prop :=
  ((∃ call, commit.op = .markFailed call) ∨ ∃ call, commit.op = .recoverStaleJobs call) ∧
    ∃ job ∈ commit.jobs, job.id = jobId ∧ job.status = .retryScheduled

end Commit

/-- The committed rows, who locks which row, the open transactions, and the commits so far. -/
structure LockedQueue (Json : Type) where
  table : JobTable Json
  holder : Uuid → Option TransactionId
  sessions : TransactionId → Option (Transaction Json)
  history : List (Commit Json)

namespace LockedQueue

def initial : LockedQueue Json := ⟨.empty, fun _ => none, fun _ => none, []⟩

inductive Action (Json : Type)
  | createJob (data : JobCreate Json) (id : Uuid) (now : Time)
  | start (id : TransactionId) (op : QueueOp Json)
  | reach (id : TransactionId)
  | commit (id : TransactionId)
  | rollback (id : TransactionId)

def verdict (queue : LockedQueue Json) (id : TransactionId) (op : QueueOp Json) (jobId : Uuid) :
    Option Verdict :=
  match (queue.holder jobId).filter (· ≠ id) with
  | some other => if op.limit.isSome then some (.heldBy other) else none
  | none => if (queue.table.find jobId).any op.guard then some .taken else some .changed

def enter (queue : LockedQueue Json) (id : TransactionId) (op : QueueOp Json) : LockedQueue Json :=
  { queue with
    sessions := Function.update queue.sessions id
      (some ⟨op, queue.table, [], (op.candidates queue.table).map Job.id⟩) }

def reach (queue : LockedQueue Json) (id : TransactionId) : Option (LockedQueue Json) :=
  (queue.sessions id).bind fun transaction =>
    match transaction.ahead with
    | [] => none
    | jobId :: ahead =>
      if transaction.full then none
      else (queue.verdict id transaction.op jobId).map fun verdict =>
        { queue with
          holder := if verdict = .taken then Function.update queue.holder jobId (some id)
            else queue.holder
          sessions := Function.update queue.sessions id (some { transaction with
            reached := transaction.reached ++ [(jobId, verdict)]
            ahead := ahead }) }

def finish (queue : LockedQueue Json) (id : TransactionId) : LockedQueue Json :=
  { queue with
    holder := fun jobId => (queue.holder jobId).filter (· ≠ id)
    sessions := Function.update queue.sessions id none }

def lockedJobs (queue : LockedQueue Json) (transaction : Transaction Json) : List (Job Json) :=
  transaction.locked.filterMap queue.table.find

/-- The statement is through with its candidates, or has as many as it may. -/
def commit (queue : LockedQueue Json) (id : TransactionId) : Option (LockedQueue Json) :=
  (queue.sessions id).bind fun transaction =>
    if transaction.ahead.isEmpty || transaction.full then
      some { queue.finish id with
        table := queue.table.updateWhere (fun job => transaction.locked.contains job.id)
          transaction.op.write
        history := queue.history ++
          [⟨transaction.op, (queue.lockedJobs transaction).map transaction.op.write.apply⟩] }
    else none

def step (queue : LockedQueue Json) : Action Json → Option (LockedQueue Json)
  | .createJob data id now =>
    some { queue with table := (QueueOp.createJob data id now).step queue.table }
  | .start _ (.createJob ..) => none
  | .start id op =>
    match queue.sessions id with
    | some _ => none
    | none => some (queue.enter id op)
  | .reach id => queue.reach id
  | .commit id => queue.commit id
  | .rollback id => (queue.sessions id).map fun _ => queue.finish id

def Reachable (queue : LockedQueue Json) : Prop :=
  Reached (fun a action b => a.step action = some b) initial queue

end LockedQueue

theorem claimOrder_iff {a b : Job Json} : ClaimOrder a b ↔
    thenBy (fun job : Job Json => OrderDual.toDual job.priority) (thenBy Job.availableAt
      (thenBy Job.createdAt fun a b => a.id ≤ b.id)) a b := Iff.rfl

instance : Std.Total fun a b : Job Json => a.id ≤ b.id := ⟨fun a b => BitVec.le_total a.id b.id⟩

instance : IsTrans (Job Json) fun a b => a.id ≤ b.id := ⟨fun _ _ _ => BitVec.le_trans⟩

instance : Std.Total (@ClaimOrder Json) := ⟨fun a b => by
  simp only [claimOrder_iff]
  exact Std.Total.total a b⟩

instance : IsTrans (Job Json) ClaimOrder := ⟨fun a b c => by
  simp only [claimOrder_iff]
  exact IsTrans.trans a b c⟩

theorem claimOrder_both {a b : Job Json} (first : ClaimOrder a b) (second : ClaimOrder b a) :
    a.id = b.id := by
  have available := thenBy_both (claimOrder_iff.mp first) (claimOrder_iff.mp second)
  have created := thenBy_both available.1 available.2
  have ids := thenBy_both created.1 created.2
  exact BitVec.le_antisymm ids.1 ids.2

theorem mem_candidates {op : QueueOp Json} {snapshot : JobTable Json} {job : Job Json}
    (member : job ∈ op.candidates snapshot) : job ∈ snapshot.rows ∧ op.guard job = true := by
  unfold QueueOp.candidates at member
  split at member
  · split at member
    · cases member
    · rwa [List.mem_insertionSort, List.mem_filter] at member
  · split at member
    · cases member
    · rwa [List.mem_insertionSort, List.mem_filter] at member
  · rwa [List.mem_filter] at member

theorem candidates_nodup (op : QueueOp Json) (snapshot : JobTable Json) :
    ((op.candidates snapshot).map Job.id).Nodup := by
  have distinct : ((snapshot.rows.filter op.guard).map Job.id).Nodup := by
    have ids : (snapshot.rows.map Job.id).Nodup :=
      List.pairwise_map.mpr (snapshot.unique.imp fun {_ _} compatible => compatible.1)
    exact ids.sublist (List.filter_sublist.map _)
  unfold QueueOp.candidates
  split
  · split
    · exact List.nodup_nil
    · exact ((List.perm_insertionSort _ _).map _).nodup_iff.mpr distinct
  · split
    · exact List.nodup_nil
    · exact ((List.perm_insertionSort _ _).map _).nodup_iff.mpr distinct
  · exact distinct

namespace Transaction

variable {transaction : Transaction Json} {jobId : Uuid} {verdict : Verdict} {ahead : List Uuid}

/-- The transaction after its statement has come to one more row. -/
def visit (transaction : Transaction Json) (jobId : Uuid) (verdict : Verdict) (ahead : List Uuid) :
    Transaction Json :=
  { transaction with reached := transaction.reached ++ [(jobId, verdict)], ahead := ahead }

theorem locked_visit_taken :
    (transaction.visit jobId .taken ahead).locked = transaction.locked ++ [jobId] := by
  simp [locked, visit]

theorem locked_visit_passed (passed : verdict ≠ .taken) :
    (transaction.visit jobId verdict ahead).locked = transaction.locked := by
  simp [locked, visit, passed]

theorem mem_passedOver :
    jobId ∈ transaction.passedOver ↔ ∃ verdict ≠ .taken, (jobId, verdict) ∈ transaction.reached := by
  simp only [passedOver, List.mem_map, List.mem_filter, decide_eq_true_eq]
  constructor
  · rintro ⟨⟨_, verdict⟩, ⟨member, passed⟩, rfl⟩
    exact ⟨verdict, passed, member⟩
  · rintro ⟨verdict, passed, member⟩
    exact ⟨(jobId, verdict), ⟨member, passed⟩, rfl⟩

end Transaction

namespace LockedQueue

variable {queue after : LockedQueue Json} {id : TransactionId}

/-- What is true of an open transaction: it has come to a first part of its candidates, and holds
what it locked, which nobody can have changed since. -/
structure OpenSound (queue : LockedQueue Json) (id : TransactionId) (transaction : Transaction Json) :
    Prop where
  order : (transaction.op.candidates transaction.snapshot).map Job.id =
    transaction.reached.map Prod.fst ++ transaction.ahead
  bounded : ∀ limit, transaction.op.limit = some limit → transaction.locked.length ≤ limit
  held : ∀ jobId ∈ transaction.locked, queue.holder jobId = some id
  guarded : ∀ jobId ∈ transaction.locked, ∃ row ∈ queue.table.rows, row.id = jobId ∧
    transaction.op.guard row = true

structure Sound (queue : LockedQueue Json) : Prop where
  sessions : ∀ id transaction, queue.sessions id = some transaction → OpenSound queue id transaction
  holders : ∀ jobId id, queue.holder jobId = some id → ∃ transaction,
    queue.sessions id = some transaction ∧ jobId ∈ transaction.locked

theorem Sound.change (sound : Sound queue)
    (sessions : ∀ other, other ≠ id → after.sessions other = queue.sessions other)
    (holder : ∀ other, other ≠ id → ∀ jobId,
      after.holder jobId = some other ↔ queue.holder jobId = some other)
    (rows : ∀ row ∈ queue.table.rows, queue.holder row.id ≠ some id → row ∈ after.table.rows)
    (own : ∀ transaction, after.sessions id = some transaction → OpenSound after id transaction)
    (held : ∀ jobId, after.holder jobId = some id → ∃ transaction,
      after.sessions id = some transaction ∧ jobId ∈ transaction.locked) : Sound after where
  sessions other transaction present := by
    by_cases same : other = id
    · subst same
      exact own transaction present
    · have before := sound.sessions other transaction (by rw [← sessions other same, present])
      have kept := fun jobId inside => (holder other same jobId).mpr (before.held jobId inside)
      refine ⟨before.order, before.bounded, kept, fun jobId inside => ?_⟩
      obtain ⟨row, member, rfl, guard⟩ := before.guarded jobId inside
      refine ⟨row, rows row member fun stolen => ?_, rfl, guard⟩
      rw [before.held row.id inside, Option.some.injEq] at stolen
      exact same stolen
  holders jobId other holds := by
    by_cases same : other = id
    · subst same
      exact held jobId holds
    · obtain ⟨transaction, present, inside⟩ :=
        sound.holders jobId other ((holder other same jobId).mp holds)
      exact ⟨transaction, by rw [sessions other same, present], inside⟩

theorem Sound.initial : Sound (LockedQueue.initial : LockedQueue Json) := by
  constructor <;> simp [LockedQueue.initial]

theorem Sound.createJob (sound : Sound queue) (data : JobCreate Json) (jobId : Uuid) (now : Time) :
    Sound { queue with table := (QueueOp.createJob data jobId now).step queue.table } := by
  refine ⟨fun id transaction present => ?_, sound.holders⟩
  have before := sound.sessions id transaction present
  refine ⟨before.order, before.bounded, before.held, fun jobId inside => ?_⟩
  obtain ⟨row, member, same, guard⟩ := before.guarded jobId inside
  exact ⟨row, QueueOp.mem_step_of_mem member, same, guard⟩

theorem Sound.enter (sound : Sound queue) (free : queue.sessions id = none) (op : QueueOp Json) :
    Sound (queue.enter id op) := by
  have unheld : ∀ jobId, queue.holder jobId ≠ some id := by
    intro jobId holds
    obtain ⟨transaction, present, -⟩ := sound.holders jobId id holds
    rw [free] at present
    cases present
  refine @Sound.change _ _ _ id sound (fun other different => Function.update_of_ne different ..)
    (fun _ _ _ => Iff.rfl) (fun row member _ => member) ?_ fun jobId holds => absurd holds (unheld jobId)
  intro transaction present
  simp only [LockedQueue.enter, Function.update_self, Option.some.injEq] at present
  subst present
  refine ⟨rfl, ?_, ?_, ?_⟩ <;> simp [Transaction.locked]

theorem Sound.finish (sound : Sound queue) {table : JobTable Json} {history : List (Commit Json)}
    (rows : ∀ row ∈ queue.table.rows, queue.holder row.id ≠ some id → row ∈ table.rows) :
    Sound { queue.finish id with table := table, history := history } := by
  refine @Sound.change _ _ _ id sound (fun other different => Function.update_of_ne different ..)
    ?_ rows ?_ ?_
  · intro other different jobId
    simp only [LockedQueue.finish, Option.filter_eq_some_iff]
    constructor
    · exact fun holds => holds.1
    · exact fun holds => ⟨holds, by simpa using different⟩
  · intro transaction present
    simp [LockedQueue.finish] at present
  · intro jobId holds
    simp [LockedQueue.finish, Option.filter_eq_some_iff] at holds

theorem verdict_cases {op : QueueOp Json} {jobId : Uuid} {verdict : Verdict}
    (found : queue.verdict id op jobId = some verdict) :
    (verdict = .taken ∧ (∀ other, queue.holder jobId = some other → other = id) ∧
      ∃ row ∈ queue.table.rows, row.id = jobId ∧ op.guard row = true) ∨
    (∃ other, verdict = .heldBy other ∧ queue.holder jobId = some other ∧ other ≠ id) ∨
    (verdict = .changed ∧ (∀ other, queue.holder jobId = some other → other = id) ∧
      ∀ row ∈ queue.table.rows, row.id = jobId → op.guard row = false) := by
  unfold LockedQueue.verdict at found
  split at found
  · next other holds =>
    split at found
    · rw [Option.filter_eq_some_iff] at holds
      cases found
      exact .inr (.inl ⟨other, rfl, holds.1, by simpa using holds.2⟩)
    · cases found
  · next free =>
    have own : ∀ other, queue.holder jobId = some other → other = id := by
      intro other holds
      simpa [holds] using free
    split at found
    · next fits =>
      cases found
      rw [Option.any_eq_true] at fits
      obtain ⟨row, known, guard⟩ := fits
      obtain ⟨member, same⟩ := JobTable.find_eq_some.mp known
      exact .inl ⟨rfl, own, row, member, same, guard⟩
    · next unfit =>
      cases found
      refine .inr (.inr ⟨rfl, own, fun row member same => ?_⟩)
      rw [JobTable.find_eq_some.mpr ⟨member, same⟩] at unfit
      simpa using unfit

theorem reach_cases (moved : queue.reach id = some after) : ∃ transaction jobId ahead verdict,
    queue.sessions id = some transaction ∧ transaction.ahead = jobId :: ahead ∧
    transaction.full = false ∧ queue.verdict id transaction.op jobId = some verdict ∧
    after = { queue with
      holder := if verdict = .taken then Function.update queue.holder jobId (some id)
        else queue.holder
      sessions := Function.update queue.sessions id (some (transaction.visit jobId verdict ahead)) } := by
  rw [LockedQueue.reach, Option.bind_eq_some_iff] at moved
  obtain ⟨transaction, present, moved⟩ := moved
  split at moved
  · cases moved
  · next jobId ahead rest =>
    split at moved
    · cases moved
    · next room =>
      rw [Option.map_eq_some_iff] at moved
      obtain ⟨verdict, found, rfl⟩ := moved
      exact ⟨transaction, jobId, ahead, verdict, present, rest, by simpa using room, found, rfl⟩

theorem Transaction.length_locked_lt {transaction : Transaction Json} {limit : Nat}
    (room : transaction.full = false) (limited : transaction.op.limit = some limit) :
    transaction.locked.length < limit := by
  simpa [Transaction.full, limited] using room

theorem Sound.reach (sound : Sound queue) (moved : queue.reach id = some after) : Sound after := by
  obtain ⟨transaction, jobId, ahead, verdict, present, rest, room, found, rfl⟩ := reach_cases moved
  have before := sound.sessions id transaction present
  have order : ((transaction.visit jobId verdict ahead).op.candidates
      (transaction.visit jobId verdict ahead).snapshot).map Job.id =
        (transaction.visit jobId verdict ahead).reached.map Prod.fst ++ ahead := by
    simp only [Transaction.visit, before.order, rest, List.map_append, List.map_cons, List.map_nil,
      List.append_assoc, List.singleton_append]
  by_cases taken : verdict = .taken
  · subst taken
    have own : (∀ other, queue.holder jobId = some other → other = id) ∧
        ∃ row ∈ queue.table.rows, row.id = jobId ∧ transaction.op.guard row = true := by
      rcases verdict_cases found with ⟨-, own⟩ | ⟨other, passed, -⟩ | ⟨passed, -⟩
      · exact own
      · cases passed
      · cases passed
    simp only [if_true]
    refine @Sound.change _ _ _ id sound (fun other different => Function.update_of_ne different ..)
      ?_ (fun row member _ => member) ?_ ?_
    · intro other different key
      dsimp only
      by_cases same : key = jobId
      · subst same
        rw [Function.update_self, Option.some.injEq]
        exact ⟨fun equal => absurd equal.symm different, fun holds => absurd (own.1 other holds) different⟩
      · rw [Function.update_of_ne same]
    · intro visited known
      dsimp only at known
      rw [Function.update_self, Option.some.injEq] at known
      subst known
      refine ⟨order, fun limit limited => ?_, fun key inside => ?_, fun key inside => ?_⟩
      · rw [Transaction.locked_visit_taken, List.length_append]
        exact Transaction.length_locked_lt room limited
      · rw [Transaction.locked_visit_taken, List.mem_append, List.mem_singleton] at inside
        by_cases same : key = jobId
        · subst same
          exact Function.update_self ..
        · exact (Function.update_of_ne same ..).trans (before.held key (inside.resolve_right same))
      · rw [Transaction.locked_visit_taken, List.mem_append, List.mem_singleton] at inside
        rcases inside with old | rfl
        · exact before.guarded key old
        · exact own.2
    · intro key holds
      refine ⟨_, Function.update_self .., ?_⟩
      rw [Transaction.locked_visit_taken, List.mem_append, List.mem_singleton]
      by_cases same : key = jobId
      · exact .inr same
      · obtain ⟨other, known, inside⟩ :=
          sound.holders key id ((Function.update_of_ne same ..).symm.trans holds)
        rw [present] at known
        cases known
        exact .inl inside
  · simp only [if_neg taken]
    refine @Sound.change _ _ _ id sound (fun other different => Function.update_of_ne different ..)
      (fun _ _ _ => Iff.rfl) (fun row member _ => member) ?_ ?_
    · intro visited known
      dsimp only at known
      rw [Function.update_self, Option.some.injEq] at known
      subst known
      refine ⟨order, fun limit limited => ?_, ?_, ?_⟩ <;> rw [Transaction.locked_visit_passed taken]
      · exact before.bounded limit limited
      · exact before.held
      · exact before.guarded
    · intro key holds
      obtain ⟨other, known, inside⟩ := sound.holders key id holds
      rw [present] at known
      cases known
      exact ⟨_, Function.update_self .., by rwa [Transaction.locked_visit_passed taken]⟩

theorem commit_cases (moved : queue.commit id = some after) : ∃ transaction,
    queue.sessions id = some transaction ∧ (transaction.ahead = [] ∨ transaction.full = true) ∧
    after = { queue.finish id with
      table := queue.table.updateWhere (fun job => transaction.locked.contains job.id)
        transaction.op.write
      history := queue.history ++
        [⟨transaction.op, (queue.lockedJobs transaction).map transaction.op.write.apply⟩] } := by
  rw [LockedQueue.commit, Option.bind_eq_some_iff] at moved
  obtain ⟨transaction, present, moved⟩ := moved
  split at moved
  · next ready =>
    cases moved
    exact ⟨transaction, present, by simpa using ready, rfl⟩
  · cases moved

theorem mem_updateWhere_unlocked {transaction : Transaction Json} {row : Job Json}
    (member : row ∈ queue.table.rows) (unlocked : row.id ∉ transaction.locked) :
    row ∈ (queue.table.updateWhere (fun job => transaction.locked.contains job.id)
      transaction.op.write).rows :=
  JobTable.mem_updateWhere.mpr ⟨row, member, by simp [unlocked]⟩

theorem Sound.commit (sound : Sound queue) (moved : queue.commit id = some after) : Sound after := by
  obtain ⟨transaction, present, -, rfl⟩ := commit_cases moved
  have before := sound.sessions id transaction present
  refine sound.finish fun row member unheld => mem_updateWhere_unlocked member fun inside => ?_
  exact unheld (before.held row.id inside)

theorem Sound.step {action : Action Json} (sound : Sound queue)
    (moved : queue.step action = some after) : Sound after := by
  unfold LockedQueue.step at moved
  split at moved
  · next data jobId now =>
    cases moved
    exact sound.createJob data jobId now
  · cases moved
  · next id op _ =>
    split at moved
    · cases moved
    · next free =>
      cases moved
      exact sound.enter free op
  · exact sound.reach moved
  · exact sound.commit moved
  · rw [Option.map_eq_some_iff] at moved
    obtain ⟨transaction, present, rfl⟩ := moved
    exact sound.finish fun row member _ => member

theorem Sound.of_reachable (reachable : queue.Reachable) : Sound queue :=
  reachable.invariant .initial fun _ _ _ sound moved => sound.step moved

theorem mem_lockedJobs {transaction : Transaction Json} {job : Job Json} :
    job ∈ queue.lockedJobs transaction ↔ job ∈ queue.table.rows ∧ job.id ∈ transaction.locked := by
  simp only [lockedJobs, List.mem_filterMap, JobTable.find_eq_some]
  constructor
  · rintro ⟨jobId, inside, member, rfl⟩
    exact ⟨member, inside⟩
  · rintro ⟨member, inside⟩
    exact ⟨job.id, inside, member, rfl⟩

theorem OpenSound.map_lockedJobs {transaction : Transaction Json}
    (sound : OpenSound queue id transaction) :
    (queue.lockedJobs transaction).map Job.id = transaction.locked := by
  have found : ∀ ids : List Uuid, (∀ jobId ∈ ids, ∃ row ∈ queue.table.rows, row.id = jobId) →
      (ids.filterMap queue.table.find).map Job.id = ids := by
    intro ids rows
    induction ids with
    | nil => rfl
    | cons jobId ids ih =>
      obtain ⟨row, member, rfl⟩ := rows jobId List.mem_cons_self
      rw [List.filterMap_cons_some (JobTable.find_eq_some.mpr ⟨member, rfl⟩), List.map_cons,
        ih fun other inside => rows other (List.mem_cons_of_mem _ inside)]
  refine found _ fun jobId inside => ?_
  obtain ⟨row, member, same, -⟩ := sound.guarded jobId inside
  exact ⟨row, member, same⟩

theorem OpenSound.guard_of_locked {transaction : Transaction Json} {job : Job Json}
    (sound : OpenSound queue id transaction) (member : job ∈ queue.table.rows)
    (inside : job.id ∈ transaction.locked) : transaction.op.guard job = true := by
  obtain ⟨row, known, same, guard⟩ := sound.guarded job.id inside
  rwa [← JobTable.eq_of_id known member same]

theorem OpenSound.nodup {transaction : Transaction Json} (sound : OpenSound queue id transaction) :
    (transaction.reached.map Prod.fst ++ transaction.ahead).Nodup := by
  rw [← sound.order]
  exact candidates_nodup _ _

theorem eq_of_rows {table table' : JobTable Json} (same : table.rows = table'.rows) :
    table = table' := by
  cases table
  cases table'
  cases same
  rfl

theorem updateWhere_congr {table : JobTable Json} {touched touched' : Job Json → Bool}
    (write : RowWrite Json) (same : ∀ job ∈ table.rows, touched job = touched' job) :
    table.updateWhere touched write = table.updateWhere touched' write := by
  refine eq_of_rows (List.map_congr_left fun job member => ?_)
  rw [same job member]

/-- The operation that finds the rows of all but this transaction locked. -/
def alone (op : QueueOp Json) (locked : List Uuid) : QueueOp Json :=
  match op with
  | .claimJobs call => .claimJobs { call with locked := fun jobId => !locked.contains jobId }
  | .recoverStaleJobs call =>
    .recoverStaleJobs { call with locked := fun jobId => !locked.contains jobId }
  | op => op

theorem holdsRow_locked {table : JobTable Json} {qualifies : Job Json → Bool} {limit : Nat}
    {locked : List Uuid} (order : Job Json → Job Json → Prop) [DecidableRel order]
    (room : locked.length ≤ limit)
    (qualified : ∀ job ∈ table.rows, job.id ∈ locked → qualifies job = true) {job : Job Json}
    (member : job ∈ table.rows) :
    holdsRow (((table.rows.filter fun job => qualifies job && !!locked.contains job.id).insertionSort
      order).take limit) job = locked.contains job.id := by
  have size : (table.rows.filter fun job => qualifies job && !!locked.contains job.id).length ≤
      limit := by
    have ids : ((table.rows.filter fun job => qualifies job && !!locked.contains job.id).map
        Job.id).Nodup := by
      have all : (table.rows.map Job.id).Nodup :=
        List.pairwise_map.mpr (table.unique.imp fun {_ _} compatible => compatible.1)
      exact all.sublist (List.filter_sublist.map _)
    have inside : ((table.rows.filter fun job => qualifies job && !!locked.contains job.id).map
        Job.id) ⊆ locked := by
      intro jobId chosen
      simp only [List.mem_map, List.mem_filter, Bool.and_eq_true, Bool.not_not,
        List.contains_iff_mem] at chosen
      obtain ⟨row, ⟨-, -, held⟩, rfl⟩ := chosen
      exact held
    have fewer := (List.subperm_of_subset ids inside).length_le
    rw [List.length_map] at fewer
    omega
  rw [List.take_of_length_le (by rwa [List.length_insertionSort]), Bool.eq_iff_iff]
  rw [holdsRow_selected (fun row chosen => ?_) member]
  · simp only [List.mem_insertionSort, List.mem_filter, Bool.and_eq_true, Bool.not_not,
      List.contains_iff_mem]
    constructor
    · exact fun chosen => chosen.2.2
    · exact fun held => ⟨member, qualified job member held, held⟩
  · rw [List.mem_insertionSort, List.mem_filter] at chosen
    exact chosen.1

theorem commit_alone {transaction : Transaction Json} (sound : OpenSound queue id transaction)
    (some_locked : transaction.locked ≠ []) :
    queue.table.updateWhere (fun job => transaction.locked.contains job.id) transaction.op.write =
      (alone transaction.op transaction.locked).step queue.table := by
  obtain ⟨jobId, inside⟩ := List.exists_mem_of_ne_nil _ some_locked
  obtain ⟨first, known, rfl, guard⟩ := sound.guarded jobId inside
  have bounded := sound.bounded
  have qualified : ∀ job ∈ queue.table.rows, job.id ∈ transaction.locked →
      transaction.op.guard job = true := fun job member held => sound.guard_of_locked member held
  have positive : 0 < transaction.locked.length := List.length_pos_of_mem inside
  have owned : ∀ (jobId : Uuid) (workerId : String) (now : Time),
      transaction.op.guard = ownedRow jobId workerId now → ∀ job ∈ queue.table.rows,
        transaction.locked.contains job.id = ownedRow jobId workerId now job := by
    intro jobId workerId now same job member
    rw [same] at guard qualified
    rw [Bool.eq_iff_iff, List.contains_iff_mem]
    refine ⟨qualified job member, fun fits => ?_⟩
    rw [(ownedRow_iff.mp fits).1, ← (ownedRow_iff.mp guard).1]
    exact inside
  generalize transaction.locked = locked at *
  cases op : transaction.op with
  | createJob data jobId now =>
    rw [op] at guard
    cases guard
  | claimJobs call =>
    simp only [op, QueueOp.guard, QueueOp.limit, Option.some.injEq, forall_eq'] at *
    have asked : (call.queues.isEmpty || decide (call.limit < 1)) = false := by
      simp only [claimable, Bool.and_eq_true, List.contains_iff_mem] at guard
      have some_queue := List.ne_nil_of_mem guard.1.2
      simp only [Bool.or_eq_false_iff, decide_eq_false_iff_not, List.isEmpty_eq_false_iff]
      exact ⟨some_queue, by omega⟩
    simp only [alone, QueueOp.step, claimJobs, asked, Bool.false_eq_true, if_false]
    refine updateWhere_congr _ fun job member => (holdsRow_locked ClaimOrder bounded ?_ member).symm
    exact qualified
  | renewLease call => exact updateWhere_congr _ (owned _ _ _ (by rw [op]; rfl))
  | markSucceeded call => exact updateWhere_congr _ (owned _ _ _ (by rw [op]; rfl))
  | markFailed call =>
    have same := owned call.jobId call.workerId call.failedAt (by rw [op]; rfl)
    rw [op] at guard
    simp only [alone, QueueOp.step, JobQueue.markFailed]
    split
    · next missing =>
      have unfit := List.find?_eq_none.mp missing first known
      exact absurd guard unfit
    · exact updateWhere_congr _ same
  | recoverStaleJobs call =>
    simp only [op, QueueOp.guard, QueueOp.limit, Option.some.injEq, forall_eq'] at *
    simp only [alone, QueueOp.step, recoverStaleJobs, if_neg (show ¬call.limit < 1 by omega)]
    refine updateWhere_congr _ fun job member => (holdsRow_locked RecoveryOrder bounded ?_ member).symm
    exact qualified

theorem serial (reachable : queue.Reachable) : ∃ ops, QueueOp.run ops = queue.table := by
  have both : Sound queue ∧ ∃ ops, QueueOp.run ops = queue.table := by
    refine reachable.invariant (I := fun queue => Sound queue ∧ ∃ ops, QueueOp.run ops = queue.table)
      ⟨.initial, [], rfl⟩ ?_
    rintro queue action after ⟨sound, ops, same⟩ moved
    refine ⟨sound.step moved, ?_⟩
    unfold LockedQueue.step at moved
    split at moved
    · next data jobId now =>
      cases moved
      exact ⟨ops ++ [.createJob data jobId now], by rw [QueueOp.run_append_singleton, same]⟩
    · cases moved
    · split at moved
      · cases moved
      · cases moved
        exact ⟨ops, same⟩
    · obtain ⟨_, _, _, _, -, -, -, -, rfl⟩ := reach_cases moved
      exact ⟨ops, same⟩
    · next id =>
      obtain ⟨transaction, present, -, rfl⟩ := commit_cases moved
      by_cases empty : transaction.locked = []
      · refine ⟨ops, eq_of_rows ?_⟩
        rw [same]
        exact (updateWhere_false _ _ fun job _ => by simp [empty]).symm
      · refine ⟨ops ++ [alone transaction.op transaction.locked], ?_⟩
        rw [QueueOp.run_append_singleton, same]
        exact (commit_alone (sound.sessions id transaction present) empty).symm
    · rw [Option.map_eq_some_iff] at moved
      obtain ⟨_, -, rfl⟩ := moved
      exact ⟨ops, same⟩
  exact both.2

end LockedQueue

end CareerProjects.JobQueue
