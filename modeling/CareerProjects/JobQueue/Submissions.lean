import CareerProjects.JobQueue.Payloads
import CareerProjects.Library.Runs

/-! Concurrent submissions. A call of `create_job` is one transaction whose statements come between
those of other calls, while the queue operations go on over the committed rows. Until it commits, an
inserted row is seen by its own transaction only, and who would insert its id or its key has to wait. -/

namespace CareerProjects.JobQueue
open Library JobService

abbrev SessionId := Nat

inductive SubmissionError
  | idempotencyConflict
  | runtimeError
  | integrityError
  | databaseError
  deriving DecidableEq

/-- The next statement of a call, with what the earlier ones returned. -/
inductive SubmissionPhase
  | insert
  | lookup
  | commit (job : Job Jsonb) (created : Bool)
  | refresh (job : Job Jsonb) (created : Bool)
  | returned (job : Job Jsonb) (created : Bool)
  | raised (error : SubmissionError)

def SubmissionPhase.finished : SubmissionPhase → Bool
  | .returned .. | .raised _ => true
  | _ => false

/-- A call, and the id it draws for the row it may insert. -/
structure Submission where
  data : JobCreate JsonPayload
  id : Uuid
  phase : SubmissionPhase

/-- An entry of the primary key or of the unique index on the idempotency key. -/
inductive UniqueEntry
  | id (id : Uuid)
  | key (key : String)
  deriving DecidableEq

/-- The row's columns, with the payload as the database takes it. -/
def Submission.columns (call : Submission) : JobCreate Jsonb := call.data.withPayload call.data.payload.dumped

def Submission.entries (call : Submission) : List UniqueEntry :=
  .id call.id :: call.data.idempotencyKey.toList.map .key

/-- The committed rows, the holders of uncommitted index entries and the calls. Which call inserted
a row is history that no statement reads. -/
structure Submissions where
  table : JobTable Jsonb
  holder : UniqueEntry → Option SessionId
  sessions : SessionId → Option (Submission)
  submitter : Uuid → Option SessionId

namespace Submissions

def initial : Submissions := ⟨.empty, fun _ => none, fun _ => none, fun _ => none⟩

inductive Action
  | start (id : SessionId) (data : JobCreate JsonPayload) (drawn : Uuid)
  | execute (id : SessionId) (now : Time)
  | fail (id : SessionId)
  | queue (op : QueueOp Jsonb)

def goto (state : Submissions) (id : SessionId) (call : Submission)
    (phase : SubmissionPhase) : Submissions :=
  { state with sessions := Function.update state.sessions id (some { call with phase := phase }) }

def hold (holder : UniqueEntry → Option SessionId) (id : SessionId) (entries : List UniqueEntry) :
    UniqueEntry → Option SessionId :=
  fun entry => if entry ∈ entries then some id else holder entry

def release (holder : UniqueEntry → Option SessionId) (id : SessionId) :
    UniqueEntry → Option SessionId :=
  fun entry => if holder entry = some id then none else holder entry

def rollback (state : Submissions) (id : SessionId) (call : Submission)
    (error : SubmissionError) : Submissions :=
  { state with holder := release state.holder id }.goto id call (.raised error)

instance (a b : Job Jsonb) : Decidable (a.Compatible b) :=
  inferInstanceAs (Decidable (_ ∧ (_ → _)))

/-- The next statement of a call; nothing where it waits for another call or has ended. -/
def execute (state : Submissions) (id : SessionId) (now : Time) :
    Option (Submissions) :=
  (state.sessions id).bind fun call =>
    match call.phase with
    | .insert =>
      match existingJob call.columns state.table with
      | some _ => some (state.goto id call .lookup)
      | none =>
        if call.entries.all fun entry => (state.holder entry).all (· = id) then
          match state.table.find call.id with
          | some _ => some (state.rollback id call .integrityError)
          | none => some ({ state with holder := hold state.holder id call.entries }.goto id call
              (.commit (addJob call.columns call.id now) true))
        else none
    | .lookup =>
      match existingJob call.columns state.table with
      | none => some (state.rollback id call .runtimeError)
      | some job =>
        if jobMatchesSubmission job call.data then some (state.goto id call (.commit job false))
        else some (state.rollback id call .idempotencyConflict)
    | .commit job true =>
      if fresh : ∀ row ∈ state.table.rows, row.Compatible job then
        some ({ state with
          table := state.table.insert job fresh
          holder := release state.holder id
          submitter := Function.update state.submitter job.id (some id) }.goto id call
            (.refresh job true))
      else none
    | .commit job false =>
      some ({ state with holder := release state.holder id }.goto id call (.refresh job false))
    | .refresh job created =>
      match state.table.find job.id with
      | some row => some (state.goto id call (.returned row created))
      | none => some (state.goto id call (.raised .databaseError))
    | .returned .. | .raised _ => none

def step (state : Submissions) : Action → Option (Submissions)
  | .start id data drawn =>
    match state.sessions id with
    | some _ => none
    | none => some (state.goto id ⟨data, drawn, .insert⟩ .insert)
  | .execute id now => state.execute id now
  | .fail id =>
    (state.sessions id).bind fun call =>
      if call.phase.finished then none else some (state.rollback id call .databaseError)
  | .queue (.createJob ..) => none
  | .queue op => some { state with table := op.step state.table }

def Reachable (state : Submissions) : Prop :=
  Reached (fun a action b => a.step action = some b) initial state

end Submissions

section Rows

variable {table table' : JobTable Jsonb} {data : JobCreate Jsonb}

theorem existingJob_eq_some {job : Job Jsonb} (found : existingJob data table = some job) :
    job ∈ table.rows ∧ job.idempotencyKey = data.idempotencyKey ∧ data.idempotencyKey ≠ none := by
  rw [existingJob, Option.bind_eq_some_iff] at found
  obtain ⟨key, known, found⟩ := found
  have same : job.idempotencyKey = some key := by simpa using List.find?_some found
  exact ⟨List.mem_of_find?_eq_some found, same.trans known.symm, by simp [known]⟩

theorem existingJob_isSome {job : Job Jsonb} (member : job ∈ table.rows)
    (same : job.idempotencyKey = data.idempotencyKey) (keyed : data.idempotencyKey ≠ none) :
    existingJob data table ≠ none := by
  obtain ⟨key, known⟩ := Option.ne_none_iff_exists'.mp keyed
  intro missing
  rw [existingJob, known, Option.bind_some] at missing
  have differs := List.find?_eq_none.mp missing job member
  rw [same, known, beq_self_eq_true] at differs
  exact differs rfl

theorem queue_rows {op : QueueOp Jsonb} (queued : ∀ data id now, op ≠ .createJob data id now)
    {row : Job Jsonb} (member : row ∈ (op.step table).rows) :
    ∃ job ∈ table.rows, row.id = job.id ∧ row.idempotencyKey = job.idempotencyKey := by
  rcases QueueOp.mem_step member with ⟨job, before, -, rfl⟩ | ⟨job, before, -, -, rfl⟩ |
    ⟨data, id, now, created, -, -⟩
  · exact ⟨row, before, rfl, rfl⟩
  · exact ⟨job, before, op.write.keepsId job, op.write.keepsKey job⟩
  · exact absurd created (queued data id now)

structure Alike (row row' : Job Jsonb) : Prop where
  id : row'.id = row.id
  idempotencyKey : row'.idempotencyKey = row.idempotencyKey
  queue : row'.queue = row.queue
  taskName : row'.taskName = row.taskName
  payload : row'.payload = row.payload
  priority : row'.priority = row.priority
  maxAttempts : row'.maxAttempts = row.maxAttempts

namespace Alike

variable {row row' : Job Jsonb}

theorem refl (row : Job Jsonb) : Alike row row := ⟨rfl, rfl, rfl, rfl, rfl, rfl, rfl⟩

theorem trans {row'' : Job Jsonb} (first : Alike row row') (second : Alike row' row'') : Alike row row'' where
  id := second.id.trans first.id
  idempotencyKey := second.idempotencyKey.trans first.idempotencyKey
  queue := second.queue.trans first.queue
  taskName := second.taskName.trans first.taskName
  payload := second.payload.trans first.payload
  priority := second.priority.trans first.priority
  maxAttempts := second.maxAttempts.trans first.maxAttempts

theorem write (op : QueueOp Jsonb) (job : Job Jsonb) : Alike job (op.write.apply job) := by
  obtain ⟨queue, taskName, payload, priority, maxAttempts⟩ := op.write_submitted job
  exact ⟨op.write.keepsId job, op.write.keepsKey job, queue, taskName, payload, priority, maxAttempts⟩

theorem verdict (alike : Alike row row') (data : JobCreate JsonPayload) :
    jobMatchesSubmission row' data = jobMatchesSubmission row data := by
  rw [jobMatchesSubmission, jobMatchesSubmission, alike.queue, alike.taskName, alike.payload, alike.priority,
    alike.maxAttempts]

theorem stores {data : JobCreate JsonPayload} (alike : Alike row row') (stores : Stores row data) :
    Stores row' data where
  idempotencyKey := alike.idempotencyKey.trans stores.idempotencyKey
  queue := alike.queue.trans stores.queue
  taskName := alike.taskName.trans stores.taskName
  payload := alike.payload.trans stores.payload
  priority := alike.priority.trans stores.priority
  maxAttempts := alike.maxAttempts.trans stores.maxAttempts

end Alike

def Retains (table table' : JobTable Jsonb) : Prop := ∀ row ∈ table.rows, ∃ row' ∈ table'.rows, Alike row row'

theorem Retains.refl (table : JobTable Jsonb) : Retains table table := fun row member => ⟨row, member, .refl row⟩

theorem Retains.trans {table'' : JobTable Jsonb} (first : Retains table table')
    (second : Retains table' table'') : Retains table table'' := by
  intro row member
  obtain ⟨middle, inside, alike⟩ := first row member
  obtain ⟨last, final, alike'⟩ := second middle inside
  exact ⟨last, final, alike.trans alike'⟩

theorem Retains.queue (op : QueueOp Jsonb) (table : JobTable Jsonb) : Retains table (op.step table) := by
  intro job member
  have kept := @QueueOp.mem_step_of_mem _ op _ _ member
  refine ⟨_, kept, ?_⟩
  split
  · exact .write op job
  · exact .refl job

theorem Retains.insert {job : Job Jsonb} (fresh : ∀ row ∈ table.rows, row.Compatible job) :
    Retains table (table.insert job fresh) :=
  fun row member => ⟨row, List.mem_append_left _ member, .refl row⟩

end Rows

namespace Submissions

variable {state after : Submissions} {id : SessionId} {call : Submission}

/-- A row that a call finds by its key, with the verdict on it. -/
def Stored (table : JobTable Jsonb) (data : JobCreate JsonPayload) (jobId : Uuid) (verdict : Bool) : Prop :=
  ∃ row ∈ table.rows, row.id = jobId ∧ row.idempotencyKey = data.idempotencyKey ∧
    jobMatchesSubmission row data = verdict

def Inserted (table : JobTable Jsonb) (data : JobCreate JsonPayload) (jobId : Uuid) : Prop :=
  ∃ row ∈ table.rows, row.id = jobId ∧ Stores row data

def Answered (table : JobTable Jsonb) (data : JobCreate JsonPayload) (jobId : Uuid) : Bool → Prop
  | true => Inserted table data jobId
  | false => Stored table data jobId true

section Rows

variable {table table' : JobTable Jsonb} {data : JobCreate JsonPayload} {jobId : Uuid} {verdict created : Bool}

theorem Stored.retained (stored : Stored table data jobId verdict) (retains : Retains table table') :
    Stored table' data jobId verdict := by
  obtain ⟨row, member, sameId, sameKey, known⟩ := stored
  obtain ⟨row', member', alike⟩ := retains row member
  exact ⟨row', member', alike.id.trans sameId, alike.idempotencyKey.trans sameKey, (alike.verdict data).trans known⟩

theorem Inserted.retained (inserted : Inserted table data jobId) (retains : Retains table table') :
    Inserted table' data jobId := by
  obtain ⟨row, member, sameId, stores⟩ := inserted
  obtain ⟨row', member', alike⟩ := retains row member
  exact ⟨row', member', alike.id.trans sameId, alike.stores stores⟩

theorem Answered.retained (answered : Answered table data jobId created) (retains : Retains table table') :
    Answered table' data jobId created := by
  cases created with
  | true => exact Inserted.retained answered retains
  | false => exact Stored.retained answered retains

theorem Answered.row (answered : Answered table data jobId created) :
    ∃ row ∈ table.rows, row.id = jobId ∧ row.idempotencyKey = data.idempotencyKey := by
  cases created with
  | true =>
    obtain ⟨row, member, sameId, stores⟩ := answered
    exact ⟨row, member, sameId, stores.idempotencyKey⟩
  | false =>
    obtain ⟨row, member, sameId, sameKey, -⟩ := answered
    exact ⟨row, member, sameId, sameKey⟩

end Rows

def PhaseSound (state : Submissions) (id : SessionId) (call : Submission) : Prop :=
  match call.phase with
  | .insert => ∀ jobId, state.submitter jobId ≠ some id
  | .lookup => (∃ row, existingJob call.columns state.table = some row) ∧
      ∀ jobId, state.submitter jobId ≠ some id
  | .commit job true => (∃ now, job = addJob call.columns call.id now) ∧
      (∀ entry ∈ call.entries, state.holder entry = some id) ∧
      (∀ row ∈ state.table.rows, row.Compatible job) ∧ ∀ jobId, state.submitter jobId ≠ some id
  | .commit job false => Stored state.table call.data job.id true ∧
      call.data.idempotencyKey ≠ none ∧ ∀ jobId, state.submitter jobId ≠ some id
  | .refresh job created | .returned job created => Answered state.table call.data job.id created ∧
      ∀ jobId, state.submitter jobId = some id ↔ created = true ∧ jobId = job.id
  | .raised .idempotencyConflict =>
      (∃ jobId, Stored state.table call.data jobId false) ∧ call.data.idempotencyKey ≠ none ∧
        ∀ jobId, state.submitter jobId ≠ some id
  | .raised .runtimeError => False
  | .raised _ => True

structure Sound (state : Submissions) : Prop where
  phases : ∀ id call, state.sessions id = some call → PhaseSound state id call
  held : ∀ entry id, state.holder entry = some id → ∃ call job, state.sessions id = some call ∧
    call.phase = .commit job true ∧ entry ∈ call.entries
  submitted : ∀ row ∈ state.table.rows, (state.submitter row.id).isSome
  known : ∀ jobId id, state.submitter jobId = some id → ∃ call, state.sessions id = some call ∧
    Inserted state.table call.data jobId

theorem PhaseSound.frame (sound : PhaseSound state id call) (retains : Retains state.table after.table)
    (submitter : ∀ jobId, after.submitter jobId = some id ↔ state.submitter jobId = some id)
    (holder : ∀ entry, state.holder entry = some id → after.holder entry = some id)
    (compatible : ∀ job, call.phase = .commit job true →
      ∀ row ∈ after.table.rows, row.Compatible job) : PhaseSound after id call := by
  unfold PhaseSound at sound ⊢
  simp only [ne_eq, submitter]
  split
  · next phase => simpa only [phase] using sound
  · next phase =>
    simp only [phase] at sound
    obtain ⟨⟨row, found⟩, unsubmitted⟩ := sound
    obtain ⟨member, same, keyed⟩ := existingJob_eq_some found
    obtain ⟨row', member', alike⟩ := retains row member
    exact ⟨Option.ne_none_iff_exists'.mp (existingJob_isSome member' (alike.idempotencyKey.trans same) keyed),
      unsubmitted⟩
  · next job phase =>
    simp only [phase] at sound
    exact ⟨sound.1, fun entry inside => holder entry (sound.2.1 entry inside), compatible job phase,
      sound.2.2.2⟩
  · next job phase =>
    simp only [phase] at sound
    exact ⟨sound.1.retained retains, sound.2⟩
  · next job created phase =>
    simp only [phase] at sound
    exact ⟨sound.1.retained retains, sound.2⟩
  · next job created phase =>
    simp only [phase] at sound
    exact ⟨sound.1.retained retains, sound.2⟩
  · next phase =>
    simp only [phase] at sound
    obtain ⟨⟨jobId, stored⟩, rest⟩ := sound
    exact ⟨⟨jobId, stored.retained retains⟩, rest⟩
  · next phase => simp only [phase] at sound
  · trivial

theorem Sound.initial : Sound (Submissions.initial : Submissions) := by
  constructor <;> simp [Submissions.initial, JobTable.empty]

theorem Sound.advance {base : Submissions} {phase : SubmissionPhase} (sound : Sound state)
    (present : ∀ call', state.sessions id = some call' → call'.data = call.data)
    (sessions : base.sessions = state.sessions) (retains : Retains state.table base.table)
    (submitter : ∀ other, other ≠ id → ∀ jobId,
      base.submitter jobId = some other ↔ state.submitter jobId = some other)
    (holder : ∀ other, other ≠ id → ∀ entry,
      base.holder entry = some other ↔ state.holder entry = some other)
    (compatible : ∀ other, other ≠ id → ∀ call job, state.sessions other = some call →
      call.phase = .commit job true → ∀ row ∈ base.table.rows, row.Compatible job)
    (own : PhaseSound (base.goto id call phase) id { call with phase := phase })
    (held : ∀ entry, base.holder entry = some id → ∃ job, phase = .commit job true ∧
      entry ∈ call.entries)
    (submitted : ∀ row ∈ base.table.rows, (base.submitter row.id).isSome)
    (known : ∀ jobId owner, base.submitter jobId = some owner → ∃ call', state.sessions owner = some call' ∧
      Inserted base.table call'.data jobId) :
    Sound (base.goto id call phase) := by
  have self : (base.goto id call phase).sessions id = some { call with phase := phase } :=
    Function.update_self ..
  have away : ∀ other, other ≠ id → (base.goto id call phase).sessions other = state.sessions other :=
    fun other different => (Function.update_of_ne different ..).trans (congrFun sessions other)
  refine ⟨?_, ?_, submitted, ?_⟩
  · intro other call' at_other
    by_cases same : other = id
    · subst same
      rw [self, Option.some.injEq] at at_other
      exact at_other ▸ own
    · rw [away other same] at at_other
      exact (sound.phases other call' at_other).frame retains (submitter other same)
        (fun entry => (holder other same entry).mpr) fun job phase =>
          compatible other same call' job at_other phase
  · intro entry other owned
    by_cases same : other = id
    · subst same
      obtain ⟨job, known, inside⟩ := held entry owned
      exact ⟨_, job, self, known, inside⟩
    · rw [away other same]
      exact sound.held entry other ((holder other same entry).mp owned)
  · intro jobId owner owned
    obtain ⟨call', at_owner, stored⟩ := known jobId owner owned
    by_cases same : owner = id
    · subst same
      rw [present call' at_owner] at stored
      exact ⟨_, self, stored⟩
    · exact ⟨call', (away owner same).trans at_owner, stored⟩

theorem same_call (present : state.sessions id = some call) :
    ∀ call', state.sessions id = some call' → call'.data = call.data := by
  intro call' present'
  rw [present, Option.some.injEq] at present'
  rw [present']

theorem release_eq_some {holder : UniqueEntry → Option SessionId} {entry : UniqueEntry}
    {owner : SessionId} : release holder id entry = some owner ↔ holder entry = some owner ∧ owner ≠ id := by
  rw [release]
  split
  · next held => simp [held, eq_comm]
  · next free =>
    refine ⟨fun owned => ⟨owned, ?_⟩, fun both => both.1⟩
    rintro rfl
    exact free owned

theorem Sound.proceed {holder : UniqueEntry → Option SessionId} {phase : SubmissionPhase}
    (sound : Sound state) (present : ∀ call', state.sessions id = some call' → call'.data = call.data)
    (others : ∀ other, other ≠ id → ∀ entry, holder entry = some other ↔ state.holder entry = some other)
    (own : PhaseSound ({ state with holder := holder }.goto id call phase) id { call with phase := phase })
    (held : ∀ entry, holder entry = some id → ∃ job, phase = .commit job true ∧ entry ∈ call.entries) :
    Sound ({ state with holder := holder }.goto id call phase) := by
  refine sound.advance present rfl (.refl _) (fun _ _ _ => Iff.rfl) others ?_ own held sound.submitted
    sound.known
  intro other _ call' job at_other at_commit
  have phases := sound.phases other call' at_other
  rw [PhaseSound, at_commit] at phases
  exact phases.2.2.1

theorem Sound.unheld (sound : Sound state) (present : state.sessions id = some call)
    (phase : ∀ job, call.phase ≠ .commit job true) (entry : UniqueEntry) :
    state.holder entry ≠ some id := by
  intro owned
  obtain ⟨call', job, present', at_commit, -⟩ := sound.held entry id owned
  rw [present, Option.some.injEq] at present'
  rw [← present'] at at_commit
  exact phase job at_commit

theorem Sound.leave {phase : SubmissionPhase} (sound : Sound state)
    (present : state.sessions id = some call)
    (own : PhaseSound ({ state with holder := release state.holder id }.goto id call phase) id
      { call with phase := phase }) :
    Sound ({ state with holder := release state.holder id }.goto id call phase) := by
  refine sound.proceed (same_call present) (fun other different entry => ?_) own fun entry owned => ?_
  · rw [release_eq_some, and_iff_left different]
  · exact absurd rfl (release_eq_some.mp owned).2

theorem Sound.insert {now : Time} (sound : Sound state) (present : state.sessions id = some call)
    (phase : call.phase = .insert) (newKey : existingJob call.columns state.table = none)
    (newId : state.table.find call.id = none)
    (available : (call.entries.all fun entry => (state.holder entry).all (· = id)) = true) :
    Sound ({ state with holder := hold state.holder id call.entries }.goto id call
      (.commit (addJob call.columns call.id now) true)) := by
  have unsubmitted := sound.phases id call present
  rw [PhaseSound, phase] at unsubmitted
  have unheld := sound.unheld present (by simp [phase])
  refine sound.proceed (same_call present) ?_ ⟨⟨now, rfl⟩, ?_, addJob_compatible newId newKey, unsubmitted⟩ ?_
  · intro other different entry
    simp only [hold]
    split
    · next inside =>
      have free := List.all_eq_true.mp available entry inside
      refine ⟨fun same => absurd (Option.some.inj same).symm different, fun owned => ?_⟩
      rw [owned, Option.all_some, decide_eq_true_eq] at free
      exact absurd free different
    · rfl
  · exact fun entry inside => if_pos inside
  · intro entry owned
    rw [hold] at owned
    split at owned
    · next inside => exact ⟨_, rfl, inside⟩
    · exact absurd owned (unheld entry)

theorem Sound.compatible {other : SessionId} {call' : Submission} {job job' : Job Jsonb}
    (sound : Sound state) (different : other ≠ id) (present : state.sessions id = some call)
    (phase : call.phase = .commit job true) (present' : state.sessions other = some call')
    (phase' : call'.phase = .commit job' true) : job.Compatible job' := by
  have own := sound.phases id call present
  have foreign := sound.phases other call' present'
  rw [PhaseSound, phase] at own
  rw [PhaseSound, phase'] at foreign
  obtain ⟨⟨now, rfl⟩, held, -⟩ := own
  obtain ⟨⟨now', rfl⟩, held', -⟩ := foreign
  have apart : ∀ entry ∈ call.entries, entry ∉ call'.entries := by
    intro entry inside inside'
    have same := (held entry inside).symm.trans (held' entry inside')
    exact different (Option.some.inj same).symm
  refine ⟨fun same => ?_, fun keyed same => ?_⟩
  · exact apart (.id call.id) List.mem_cons_self (by
      rw [show call.id = call'.id from same]
      exact List.mem_cons_self)
  · obtain ⟨key, known⟩ := Option.ne_none_iff_exists'.mp keyed
    have mine : call.data.idempotencyKey = some key := known
    have theirs : call'.data.idempotencyKey = some key := same.symm.trans known
    exact apart (.key key) (by simp [Submission.entries, mine]) (by simp [Submission.entries, theirs])

theorem Sound.commit {job : Job Jsonb} (sound : Sound state) (present : state.sessions id = some call)
    (phase : call.phase = .commit job true) (fresh : ∀ row ∈ state.table.rows, row.Compatible job) :
    Sound ({ state with
      table := state.table.insert job fresh
      holder := release state.holder id
      submitter := Function.update state.submitter job.id (some id) }.goto id call
        (.refresh job true)) := by
  have own := sound.phases id call present
  rw [PhaseSound, phase] at own
  obtain ⟨⟨now, drawn⟩, held, -, unsubmitted⟩ := own
  have newId : ∀ jobId owner, state.submitter jobId = some owner → jobId ≠ job.id := by
    intro jobId owner owned
    obtain ⟨-, -, row, member, rfl, -⟩ := sound.known jobId owner owned
    exact (fresh row member).1
  have stored : Inserted (state.table.insert job fresh) call.data job.id := by
    refine ⟨job, List.mem_append_right _ List.mem_cons_self, rfl, ?_⟩
    rw [drawn]
    exact ⟨rfl, rfl, rfl, rfl, rfl, rfl⟩
  refine sound.advance (same_call present) rfl (.insert fresh) ?_ ?_ ?_ ⟨stored, ?_⟩ ?_ ?_ ?_
  · intro other different jobId
    dsimp only
    by_cases same : jobId = job.id
    · rw [same, Function.update_self]
      refine ⟨fun owned => absurd (Option.some.inj owned).symm different, fun owned => ?_⟩
      exact absurd rfl (newId _ other owned)
    · rw [Function.update_of_ne same]
  · intro other different entry
    rw [release_eq_some, and_iff_left different]
  · intro other different call' job' present' phase' row member
    have foreign := sound.phases other call' present'
    rw [PhaseSound, phase'] at foreign
    rcases List.mem_append.mp member with old | new
    · exact foreign.2.2.1 row old
    · rw [List.mem_singleton.mp new]
      exact sound.compatible different present phase present' phase'
  · intro jobId
    by_cases same : jobId = job.id
    · simp [goto, same]
    · simp [goto, same, unsubmitted]
  · intro entry owned
    exact absurd rfl (release_eq_some.mp owned).2
  · intro row member
    dsimp only
    rcases List.mem_append.mp member with old | new
    · have submitted := sound.submitted row old
      rwa [Function.update_of_ne (fresh row old).1]
    · rw [List.mem_singleton.mp new, Function.update_self]
      rfl
  · intro jobId owner owned
    dsimp only at owned
    by_cases same : jobId = job.id
    · rw [same, Function.update_self, Option.some.injEq] at owned
      rw [← owned, same]
      exact ⟨call, present, stored⟩
    · rw [Function.update_of_ne same] at owned
      obtain ⟨call', present', stored'⟩ := sound.known jobId owner owned
      exact ⟨call', present', stored'.retained (.insert fresh)⟩

theorem Sound.execute {now : Time} (sound : Sound state)
    (moved : state.execute id now = some after) : Sound after := by
  rw [Submissions.execute, Option.bind_eq_some_iff] at moved
  obtain ⟨call, present, moved⟩ := moved
  have own := sound.phases id call present
  unfold PhaseSound at own
  have quiet : ∀ {phase}, call.phase = phase → (∀ job, phase ≠ .commit job true) →
      ∀ entry, state.holder entry ≠ some id :=
    fun known other => sound.unheld present fun job => known ▸ other job
  split at moved
  · next phase =>
    simp only [phase] at own
    split at moved
    · next row found =>
      cases moved
      exact sound.proceed (same_call present) (fun _ _ _ => Iff.rfl) ⟨⟨row, found⟩, own⟩
        fun entry owned => absurd owned (quiet phase (by simp) entry)
    · next newKey =>
      split at moved
      · next available =>
        split at moved
        · cases moved
          exact sound.leave present trivial
        · next newId =>
          cases moved
          exact sound.insert present phase newKey newId available
      · cases moved
  · next phase =>
    simp only [phase] at own
    split at moved
    · next missing =>
      obtain ⟨row, found⟩ := own.1
      rw [missing] at found
      cases found
    · next job found =>
      obtain ⟨member, same, keyed⟩ := existingJob_eq_some found
      split at moved
      · next agrees =>
        cases moved
        exact sound.proceed (same_call present) (fun _ _ _ => Iff.rfl) ⟨⟨job, member, rfl, same, agrees⟩, keyed, own.2⟩
          fun entry owned => absurd owned (quiet phase (by simp) entry)
      · next differs =>
        cases moved
        exact sound.leave present ⟨⟨job.id, job, member, rfl, same, by simpa using differs⟩, keyed, own.2⟩
  · next job phase =>
    split at moved
    · next fresh =>
      cases moved
      exact sound.commit present phase fresh
    · cases moved
  · next job phase =>
    simp only [phase] at own
    cases moved
    exact sound.leave present ⟨own.1, by simpa [goto] using own.2.2⟩
  · next job created phase =>
    simp only [phase] at own
    obtain ⟨stored, submitter⟩ := own
    split at moved
    · next row found =>
      cases moved
      have same := (JobTable.find_eq_some.mp found).2
      refine sound.proceed (same_call present) (fun _ _ _ => Iff.rfl) ⟨?_, ?_⟩
        fun entry owned => absurd owned (quiet phase (by simp) entry)
      · rwa [same]
      · rwa [same]
    · cases moved
      exact sound.proceed (same_call present) (fun _ _ _ => Iff.rfl) trivial
        fun entry owned => absurd owned (quiet phase (by simp) entry)
  · cases moved
  · cases moved

theorem Sound.start (sound : Sound state) (data : JobCreate JsonPayload) (drawn : Uuid)
    (free : state.sessions id = none) : Sound (state.goto id ⟨data, drawn, .insert⟩ .insert) := by
  have unknown : ∀ call, state.sessions id ≠ some call := by simp [free]
  refine sound.proceed (fun call' present => absurd present (unknown call')) (fun _ _ _ => Iff.rfl) ?_ ?_
  · intro jobId owned
    obtain ⟨call, present, -⟩ := sound.known jobId id owned
    exact unknown call present
  · intro entry owned
    obtain ⟨call, -, present, -⟩ := sound.held entry id owned
    exact absurd present (unknown call)

theorem Sound.queue (sound : Sound state) {op : QueueOp Jsonb}
    (queued : ∀ data id now, op ≠ .createJob data id now) :
    Sound { state with table := op.step state.table } where
  phases id call present := by
    have own := sound.phases id call present
    refine own.frame (.queue op state.table) (fun _ => Iff.rfl) (fun _ owned => owned) ?_
    intro job phase row member
    rw [PhaseSound, phase] at own
    obtain ⟨old, inside, sameId, sameKey⟩ := queue_rows queued member
    have compatible := own.2.2.1 old inside
    rwa [Job.Compatible, ← sameId, ← sameKey] at compatible
  held := sound.held
  submitted row member := by
    obtain ⟨old, inside, sameId, -⟩ := queue_rows queued member
    have submitted := sound.submitted old inside
    rwa [← sameId] at submitted
  known jobId id owned := by
    obtain ⟨call, present, stored⟩ := sound.known jobId id owned
    exact ⟨call, present, stored.retained (.queue op state.table)⟩

theorem Sound.step {action : Action} (sound : Sound state)
    (moved : state.step action = some after) : Sound after := by
  unfold Submissions.step at moved
  split at moved
  · next id data drawn =>
    split at moved
    · cases moved
    · next free =>
      cases moved
      exact sound.start data drawn free
  · exact sound.execute moved
  · next id =>
    rw [Option.bind_eq_some_iff] at moved
    obtain ⟨call, present, moved⟩ := moved
    split at moved
    · cases moved
    · cases moved
      exact sound.leave present trivial
  · cases moved
  · next op queued =>
    cases moved
    exact sound.queue queued

theorem Sound.of_reachable (reachable : state.Reachable) : Sound state :=
  reachable.invariant .initial fun _ _ _ sound moved => sound.step moved

/-- Rows stay what they were for submissions, and it stays known who inserted them. -/
structure Keeps (state after : Submissions) : Prop where
  retains : Retains state.table after.table
  submitter : ∀ jobId id, state.submitter jobId = some id → after.submitter jobId = some id

theorem Keeps.refl (state : Submissions) : Keeps state state := ⟨.refl _, fun _ _ owned => owned⟩

theorem Keeps.trans {final : Submissions} (first : Keeps state after) (second : Keeps after final) :
    Keeps state final :=
  ⟨first.retains.trans second.retains, fun jobId id owned =>
    second.submitter jobId id (first.submitter jobId id owned)⟩

theorem Keeps.of_eq (table : after.table = state.table) (submitter : after.submitter = state.submitter) :
    Keeps state after := by
  refine ⟨?_, fun jobId id owned => ?_⟩
  · rw [table]
    exact .refl _
  · rwa [submitter]

theorem execute_rows {now : Time} (sound : Sound state) (moved : state.execute id now = some after) :
    Keeps state after ∧ (after.table = state.table ∨ ∃ jobId, after.submitter jobId = some id) := by
  have still : after.table = state.table → after.submitter = state.submitter →
      Keeps state after ∧ (after.table = state.table ∨ ∃ jobId, after.submitter jobId = some id) :=
    fun table submitter => ⟨.of_eq table submitter, .inl table⟩
  rw [Submissions.execute, Option.bind_eq_some_iff] at moved
  obtain ⟨call, present, moved⟩ := moved
  split at moved
  · split at moved
    · cases moved
      exact still rfl rfl
    · split at moved
      · split at moved
        · cases moved
          exact still rfl rfl
        · cases moved
          exact still rfl rfl
      · cases moved
  · split at moved
    · cases moved
      exact still rfl rfl
    · split at moved
      · cases moved
        exact still rfl rfl
      · cases moved
        exact still rfl rfl
  · next job phase =>
    split at moved
    · next fresh =>
      cases moved
      refine ⟨⟨.insert fresh, fun jobId owner owned => ?_⟩, .inr ⟨job.id, Function.update_self ..⟩⟩
      obtain ⟨-, -, row, member, same, -⟩ := sound.known jobId owner owned
      have differs : jobId ≠ job.id := same ▸ (fresh row member).1
      exact (Function.update_of_ne differs ..).trans owned
    · cases moved
  · cases moved
    exact still rfl rfl
  · split at moved
    · cases moved
      exact still rfl rfl
    · cases moved
      exact still rfl rfl
  · cases moved
  · cases moved

theorem Keeps.step {action : Action} (sound : Sound state)
    (moved : state.step action = some after) : Keeps state after := by
  unfold Submissions.step at moved
  split at moved
  · split at moved
    · cases moved
    · cases moved
      exact .of_eq rfl rfl
  · exact (execute_rows sound moved).1
  · rw [Option.bind_eq_some_iff] at moved
    obtain ⟨call, present, moved⟩ := moved
    split at moved
    · cases moved
    · cases moved
      exact .of_eq rfl rfl
  · cases moved
  · next op queued =>
    cases moved
    exact ⟨.queue op state.table, fun _ _ owned => owned⟩

theorem Keeps.later (sound : Sound state)
    (later : Reached (fun a action b => a.step action = some b) state after) : Keeps state after := by
  refine (later.invariant (I := fun reached => Sound reached ∧ Keeps state reached)
    ⟨sound, .refl state⟩ ?_).2
  intro first action last known moved
  exact ⟨known.1.step moved, known.2.trans (.step known.1 moved)⟩

theorem execute_sessions {now : Time} (moved : state.execute id now = some after) :
    ∃ call phase, state.sessions id = some call ∧
      after.sessions = Function.update state.sessions id (some { call with phase := phase }) := by
  rw [Submissions.execute, Option.bind_eq_some_iff] at moved
  obtain ⟨call, present, moved⟩ := moved
  refine ⟨call, ?_⟩
  split at moved
  · split at moved
    · cases moved
      exact ⟨_, present, rfl⟩
    · split at moved
      · split at moved <;> cases moved <;> exact ⟨_, present, rfl⟩
      · cases moved
  · split at moved
    · cases moved
      exact ⟨_, present, rfl⟩
    · split at moved <;> cases moved <;> exact ⟨_, present, rfl⟩
  · split at moved
    · cases moved
      exact ⟨_, present, rfl⟩
    · cases moved
  · cases moved
    exact ⟨_, present, rfl⟩
  · split at moved <;> cases moved <;> exact ⟨_, present, rfl⟩
  · cases moved
  · cases moved

/-- A payload with a key has no float whose decimal is another number. -/
def Action.Keeps : Action → Prop
  | .start _ data _ => data.idempotencyKey ≠ none → ∀ value ∈ data.payload.document.scalars, value.Keeps
  | _ => True

def Keeping (state : Submissions) : Prop :=
  ∀ id call, state.sessions id = some call → call.data.idempotencyKey ≠ none →
    ∀ value ∈ call.data.payload.document.scalars, value.Keeps

theorem Keeping.goto {base : Submissions} {phase : SubmissionPhase} (keeping : Keeping state)
    (sessions : base.sessions = Function.update state.sessions id (some { call with phase := phase }))
    (own : call.data.idempotencyKey ≠ none → ∀ value ∈ call.data.payload.document.scalars, value.Keeps) :
    Keeping base := by
  intro other call' present
  rw [sessions] at present
  by_cases same : other = id
  · rw [same, Function.update_self, Option.some.injEq] at present
    rw [← present]
    exact own
  · rw [Function.update_of_ne same] at present
    exact keeping other call' present

theorem Keeping.step {action : Action} (keeping : Keeping state) (keeps : action.Keeps)
    (moved : state.step action = some after) : Keeping after := by
  unfold Submissions.step at moved
  split at moved
  · next id data drawn =>
    split at moved
    · cases moved
    · cases moved
      exact keeping.goto rfl keeps
  · next id now =>
    obtain ⟨call, phase, present, sessions⟩ := execute_sessions moved
    exact keeping.goto sessions (keeping id call present)
  · next id =>
    rw [Option.bind_eq_some_iff] at moved
    obtain ⟨call, present, moved⟩ := moved
    split at moved
    · cases moved
    · cases moved
      exact keeping.goto rfl (keeping id call present)
  · cases moved
  · cases moved
    exact keeping

/-- The submissions are idempotent: a key has one row, from the call that inserted it; who matches it and ends has
its id, and reports the creation if it was the one; who does not match it ends in the conflict, having changed
nothing; and whatever happens later, the row stays and is compared alike. -/
structure Idempotent (state : Submissions) : Prop where
  single : ∀ a ∈ state.table.rows, ∀ b ∈ state.table.rows,
    a.idempotencyKey ≠ none → a.idempotencyKey = b.idempotencyKey → a = b
  matching : ∀ row ∈ state.table.rows, row.idempotencyKey ≠ none → ∃ inserter,
    state.submitter row.id = some inserter ∧
    (∃ call, state.sessions inserter = some call ∧ call.data.idempotencyKey = row.idempotencyKey) ∧
    ∀ id call, state.sessions id = some call → call.data.idempotencyKey = row.idempotencyKey →
      jobMatchesSubmission row call.data = true →
      call.phase ≠ .raised .idempotencyConflict ∧
        ∀ job created, call.phase = .returned job created → job.id = row.id ∧ (created = true ↔ id = inserter)
  conflicting : ∀ row ∈ state.table.rows, row.idempotencyKey ≠ none →
    ∀ id call, state.sessions id = some call → call.data.idempotencyKey = row.idempotencyKey →
      jobMatchesSubmission row call.data = false → ∀ job created, call.phase ≠ .returned job created
  answered : ∀ id call, state.sessions id = some call → call.data.idempotencyKey ≠ none →
    ((∃ job created, call.phase = .returned job created) ∨ call.phase = .raised .idempotencyConflict →
      ∃ row ∈ state.table.rows, row.idempotencyKey = call.data.idempotencyKey) ∧
    call.phase ≠ .raised .runtimeError
  harmless : ∀ id now after final call, state.execute id now = some after →
    Reached (fun a action b => step a action = some b) after final →
    final.sessions id = some call → call.phase = .raised .idempotencyConflict → after.table = state.table
  lasting : ∀ final, Reached (fun a action b => step a action = some b) state final →
    ∀ row ∈ state.table.rows, ∃ row' ∈ final.table.rows, row'.id = row.id ∧
      row'.idempotencyKey = row.idempotencyKey ∧
      ∀ data, jobMatchesSubmission row' data = jobMatchesSubmission row data

theorem Stored.of_key {data : JobCreate JsonPayload} {jobId : Uuid} {verdict : Bool} {row : Job Jsonb}
    (stored : Stored state.table data jobId verdict) (member : row ∈ state.table.rows)
    (keyed : row.idempotencyKey ≠ none) (same : data.idempotencyKey = row.idempotencyKey) :
    jobId = row.id ∧ jobMatchesSubmission row data = verdict := by
  obtain ⟨other, inside, rfl, sameKey, known⟩ := stored
  rw [← eq_of_key member inside keyed (same.symm.trans sameKey.symm)] at known ⊢
  exact ⟨rfl, known⟩

theorem Sound.ended {row : Job Jsonb} (sound : Sound state) (member : row ∈ state.table.rows)
    (keyed : row.idempotencyKey ≠ none) (present : state.sessions id = some call)
    (same : call.data.idempotencyKey = row.idempotencyKey) :
    (∀ job created, call.phase = .returned job created →
      job.id = row.id ∧ (created = true ↔ state.submitter row.id = some id) ∧
        (jobMatchesSubmission row call.data = true ↔
          (created = true → ∀ value ∈ call.data.payload.document.scalars, value.Keeps))) ∧
    (call.phase = .raised .idempotencyConflict → jobMatchesSubmission row call.data = false) := by
  have own := sound.phases id call present
  constructor
  · intro job created phase
    simp only [PhaseSound, phase] at own
    obtain ⟨answered, submitter⟩ := own
    cases created with
    | true =>
      obtain ⟨other, inside, sameId, stores⟩ := answered
      have equal : row = other := eq_of_key member inside keyed (same.symm.trans stores.idempotencyKey.symm)
      subst equal
      rw [submitter, stores.matches_iff, sameId]
      simp
    | false =>
      obtain ⟨sameId, matched⟩ := Stored.of_key answered member keyed same
      rw [submitter, sameId, matched]
      simp
  · intro phase
    simp only [PhaseSound, phase] at own
    obtain ⟨⟨jobId, stored⟩, -⟩ := own
    exact (stored.of_key member keyed same).2

theorem Sound.keyed_row (sound : Sound state) (present : state.sessions id = some call)
    (ended : (∃ job created, call.phase = .returned job created) ∨ call.phase = .raised .idempotencyConflict) :
    ∃ row ∈ state.table.rows, row.idempotencyKey = call.data.idempotencyKey := by
  have own := sound.phases id call present
  obtain ⟨job, created, phase⟩ | phase := ended
  · simp only [PhaseSound, phase] at own
    obtain ⟨row, member, -, sameKey⟩ := own.1.row
    exact ⟨row, member, sameKey⟩
  · simp only [PhaseSound, phase] at own
    obtain ⟨⟨jobId, row, member, -, sameKey, -⟩, -⟩ := own
    exact ⟨row, member, sameKey⟩

/-- A call that ends in a conflict has not written in any of its steps. -/
theorem Sound.conflict_unwritten {after final : Submissions} {now : Time} (sound : Sound state)
    (moved : state.execute id now = some after)
    (later : Reached (fun a action b => Submissions.step a action = some b) after final)
    (present : final.sessions id = some call) (phase : call.phase = .raised .idempotencyConflict) :
    after.table = state.table := by
  have reached := sound.execute moved
  rcases (execute_rows sound moved).2 with same | ⟨jobId, submitted⟩
  · exact same
  · have kept := (Keeps.later reached later).submitter jobId id submitted
    have ending := later.invariant reached fun _ _ _ known step => known.step step
    have own := ending.phases id call present
    simp only [PhaseSound, phase] at own
    exact absurd kept (own.2.2 jobId)

theorem Sound.idempotent_iff (sound : Sound state) : Idempotent state ↔
    ∀ id call job, state.sessions id = some call → call.data.idempotencyKey ≠ none →
      call.phase = .returned job true → ∀ value ∈ call.data.payload.document.scalars, value.Keeps := by
  constructor
  · intro idempotent id call job present keyed phase
    obtain ⟨row, member, sameKey⟩ := (idempotent.answered id call present keyed).1 (.inl ⟨job, true, phase⟩)
    have keyed : row.idempotencyKey ≠ none := sameKey ▸ keyed
    have matched : jobMatchesSubmission row call.data = true := by
      by_contra differs
      exact idempotent.conflicting row member keyed id call present sameKey.symm (by simpa using differs) job true phase
    exact (((sound.ended member keyed present sameKey.symm).1 job true phase).2.2.mp matched) rfl
  · intro keeping
    refine ⟨fun a insideA b insideB => eq_of_key insideA insideB, fun row member keyed => ?_,
      fun row member keyed id call present same differs job created phase => ?_,
      fun id call present keyed => ⟨?_, ?_⟩, ?_, ?_⟩
    · obtain ⟨inserter, submitted⟩ := Option.isSome_iff_exists.mp (sound.submitted row member)
      obtain ⟨first, at_first, inserted, inside, sameId, stores⟩ := sound.known row.id inserter submitted
      rw [JobTable.eq_of_id inside member sameId] at stores
      refine ⟨inserter, submitted, ⟨first, at_first, stores.idempotencyKey.symm⟩, fun id call present same matched => ?_⟩
      obtain ⟨returns, refuses⟩ := sound.ended member keyed present same
      constructor
      · intro phase
        rw [refuses phase] at matched
        cases matched
      · intro job created phase
        obtain ⟨sameJob, creates, -⟩ := returns job created phase
        refine ⟨sameJob, ?_⟩
        rw [creates, submitted, Option.some.injEq, eq_comm]
    · have ends := ((sound.ended member keyed present same).1 job created phase).2.2.mpr fun creates =>
        keeping id call job present (same ▸ keyed) (creates ▸ phase)
      rw [ends] at differs
      cases differs
    · exact sound.keyed_row present
    · intro phase
      have own := sound.phases id call present
      simp only [PhaseSound, phase] at own
    · intro id now after final call moved later present phase
      exact sound.conflict_unwritten moved later present phase
    · intro final later row member
      obtain ⟨row', member', alike⟩ := (Keeps.later sound later).retains row member
      exact ⟨row', member', alike.id, alike.idempotencyKey, alike.verdict⟩

/-- Two calls with one key, a worker's claim between them, and a third call with another payload. -/
def transferActions : List Action :=
  [.start 0 smallTransfer 10, .execute 0 1, .start 1 smallTransfer 11, .execute 0 1, .execute 0 1,
    .queue (.claimJobs ⟨"worker", ["default"], 1, 30, 2, fun _ => false⟩), .execute 1 3, .execute 1 3,
    .execute 1 3, .execute 1 3, .start 2 (transferJob (.number (.int 6)) (by decide +kernel)) 12, .execute 2 4, .execute 2 4]

def answer : SubmissionPhase → Option (Except SubmissionError (Uuid × Bool))
  | .returned job created => some (.ok (job.id, created))
  | .raised error => some (.error error)
  | _ => none

/-- Two calls with one key and one payload, one after the other. -/
def repeatedActions : List Action :=
  [.start 0 largeTransfer 10, .execute 0 1, .execute 0 1, .execute 0 1, .start 1 largeTransfer 11, .execute 1 2,
    .execute 1 2]

def verdicts (state : Submissions) (id : SessionId) : Option (List (Option String × Bool)) :=
  (state.sessions id).map fun call =>
    state.table.rows.map fun row => (row.idempotencyKey, jobMatchesSubmission row call.data)

end Submissions

end CareerProjects.JobQueue
