import Mathlib.Data.List.Nodup
import CareerProjects.Library.RowLock
import CareerProjects.Library.Runs

/-! Clients that read rows without locking them. What a client does next is a function of its
request and of the rows it has read; it may end by changing one row, which it locks for the change
and publishes when it commits. Between its reads and its change other clients may commit. -/

namespace CareerProjects.Library

/-- A change of one row: which rows admit it, and what becomes of them. -/
structure Write (Key Row : Type*) where
  key : Key
  admits : Option Row → Bool
  effect : Option Row → Option Row

namespace Write

variable {Key Row : Type*}

def update (key : Key) (patch : Row → Row) : Write Key Row := ⟨key, Option.isSome, Option.map patch⟩

def insert (key : Key) (row : Row) : Write Key Row := ⟨key, Option.isNone, fun _ => some row⟩

def delete (key : Key) : Write Key Row := ⟨key, fun _ => true, fun _ => none⟩

end Write

inductive Statement (Key Row Answer : Type*)
  | read (key : Key)
  | write (change : Write Key Row)
  | finish (answer : Answer)

abbrev Program (Request Key Row Answer : Type*) := Request → List (Option Row) → Statement Key Row Answer

inductive Progress (Row Answer : Type*)
  | running
  | flushed
  | committed (row : Option Row)
  | finished (answer : Answer)
  | failed

def Progress.ended {Row Answer : Type*} : Progress Row Answer → Bool
  | .running | .flushed => false
  | _ => true

structure Client (Request Row Answer : Type*) where
  request : Request
  reads : List (Option Row)
  progress : Progress Row Answer

structure Change (Request Row : Type*) where
  client : ℕ
  request : Request
  reads : List (Option Row)
  before : Option Row
  after : Option Row

/-- The rows, the clients, and the changes in the order of their commits. -/
structure Shared (Request Key Row Answer : Type*) where
  store : RowStore ℕ Key Row
  clients : ℕ → Option (Client Request Row Answer)
  changes : List (Change Request Row)

namespace Shared

variable {Request Key Row Answer : Type*} [DecidableEq Key]

def initial (rows : Key → Option Row) : Shared Request Key Row Answer :=
  ⟨⟨rows, fun _ => none⟩, fun _ => none, []⟩

inductive Action (Request : Type*)
  | start (id : ℕ) (request : Request)
  | execute (id : ℕ)
  | fail (id : ℕ)

def goto (shared : Shared Request Key Row Answer) (id : ℕ) (client : Client Request Row Answer)
    (progress : Progress Row Answer) : Shared Request Key Row Answer :=
  { shared with clients := Function.update shared.clients id (some { client with progress := progress }) }

/-- A statement that finds no row and makes none locks nothing; any other waits for the lock. -/
def flush (shared : Shared Request Key Row Answer) (id : ℕ) (client : Client Request Row Answer)
    (change : Write Key Row) : Option (Shared Request Key Row Answer) :=
  if (shared.store.committed change.key).isNone && (change.effect none).isNone then
    some (shared.goto id client (if change.admits none then .flushed else .failed))
  else
    (shared.store.lock id change.key).map fun locked =>
      if change.admits (shared.store.committed change.key) then
        { shared with store := locked }.goto id client .flushed
      else shared.goto id client .failed

/-- The row of the change when it commits, if its statement found or made one. -/
def result (shared : Shared Request Key Row Answer) (id : ℕ) (change : Write Key Row) : Option Row :=
  if shared.store.holder change.key = some id then
    change.effect (shared.store.committed change.key)
  else shared.store.committed change.key

def commit (shared : Shared Request Key Row Answer) (id : ℕ) (client : Client Request Row Answer)
    (change : Write Key Row) : Shared Request Key Row Answer :=
  { store :=
      { committed := Function.update shared.store.committed change.key (shared.result id change)
        holder := shared.store.release id }
    clients := Function.update shared.clients id
      (some { client with progress := .committed (shared.result id change) })
    changes := shared.changes ++ [⟨id, client.request, client.reads,
      shared.store.committed change.key, shared.result id change⟩] }

/-- The next statement of a client; nothing where it waits for another client or has ended. -/
def execute (program : Program Request Key Row Answer) (shared : Shared Request Key Row Answer)
    (id : ℕ) : Option (Shared Request Key Row Answer) :=
  (shared.clients id).bind fun client =>
    match client.progress, program client.request client.reads with
    | .running, .read key =>
      some (shared.goto id
        { client with reads := client.reads ++ [shared.store.committed key] } .running)
    | .running, .finish answer => some (shared.goto id client (.finished answer))
    | .running, .write change => shared.flush id client change
    | .flushed, .write change => some (shared.commit id client change)
    | _, _ => none

def fail (shared : Shared Request Key Row Answer) (id : ℕ) : Option (Shared Request Key Row Answer) :=
  (shared.clients id).bind fun client =>
    if client.progress.ended then none
    else some ({ shared with store := shared.store.rollback id }.goto id client .failed)

def step (program : Program Request Key Row Answer) (shared : Shared Request Key Row Answer) :
    Action Request → Option (Shared Request Key Row Answer)
  | .start id request =>
    match shared.clients id with
    | some _ => none
    | none => some (shared.goto id ⟨request, [], .running⟩ .running)
  | .execute id => shared.execute program id
  | .fail id => shared.fail id

variable {program : Program Request Key Row Answer} {shared after : Shared Request Key Row Answer}
  {id : ℕ} {client : Client Request Row Answer} {wanted : Write Key Row}

structure Commits (program : Program Request Key Row Answer) (shared : Shared Request Key Row Answer)
    (id : ℕ) (client : Client Request Row Answer) (change : Write Key Row) : Prop where
  present : shared.clients id = some client
  flushed : client.progress = .flushed
  writes : program client.request client.reads = .write change

/-- By its progress: a client that is about to commit has the lock of a row that admits the change,
or there was no row; one that has committed is recorded once; one that gave an answer had it from
its program. -/
structure ClientSound (program : Program Request Key Row Answer)
    (shared : Shared Request Key Row Answer) (id : ℕ) (client : Client Request Row Answer) : Prop where
  flushed : client.progress = .flushed → ∃ change, program client.request client.reads = .write change ∧
    ((shared.store.holder change.key = some id ∧
        change.admits (shared.store.committed change.key) = true) ∨
      (shared.store.holder change.key ≠ some id ∧ change.effect none = none ∧
        change.admits none = true))
  finished : ∀ answer, client.progress = .finished answer →
    program client.request client.reads = .finish answer
  recorded : (∃ change ∈ shared.changes, change.client = id) ↔ ∃ row, client.progress = .committed row
  change : ∀ row, client.progress = .committed row → ∃ change ∈ shared.changes,
    change.client = id ∧ change.request = client.request ∧ change.reads = client.reads ∧
      change.after = row

structure Sound (program : Program Request Key Row Answer) (shared : Shared Request Key Row Answer) :
    Prop where
  clients : ∀ id client, shared.clients id = some client → ClientSound program shared id client
  holders : ∀ key id, shared.store.holder key = some id → ∃ client change,
    Commits program shared id client change ∧ change.key = key
  known : ∀ change ∈ shared.changes, (shared.clients change.client).isSome
  once : (shared.changes.map Change.client).Nodup

omit [DecidableEq Key] in
theorem Sound.initial (rows : Key → Option Row) : Sound program (.initial rows) := by
  constructor <;> simp [Shared.initial]

omit [DecidableEq Key] in
theorem Sound.frame (sound : Sound program shared)
    (clients : ∀ other, other ≠ id → after.clients other = shared.clients other)
    (holder : ∀ other, other ≠ id → ∀ key,
      after.store.holder key = some other ↔ shared.store.holder key = some other)
    (rows : ∀ key other, other ≠ id → shared.store.holder key = some other →
      after.store.committed key = shared.store.committed key)
    (changes : ∀ other, other ≠ id → ∀ change,
      change ∈ after.changes ∧ change.client = other ↔ change ∈ shared.changes ∧ change.client = other)
    (own : ∀ client, after.clients id = some client → ClientSound program after id client)
    (held : ∀ key, after.store.holder key = some id → ∃ client change,
      Commits program after id client change ∧ change.key = key)
    (mine : (∃ change ∈ after.changes, change.client = id) → (after.clients id).isSome)
    (once : (after.changes.map Change.client).Nodup) : Sound program after where
  clients other client present := by
    by_cases same : other = id
    · subst same
      exact own client present
    · have before := sound.clients other client (by rw [← clients other same, present])
      refine ⟨fun flushed => ?_, before.finished, ?_, fun row progress => ?_⟩
      · obtain ⟨change, writes, held | free⟩ := before.flushed flushed
        · refine ⟨change, writes, .inl ⟨(holder other same _).mpr held.1, ?_⟩⟩
          rw [rows _ other same held.1]
          exact held.2
        · exact ⟨change, writes, .inr ⟨fun holds => free.1 ((holder other same _).mp holds), free.2⟩⟩
      · rw [← before.recorded]
        exact exists_congr (changes other same)
      · obtain ⟨change, member, owned, rest⟩ := before.change row progress
        have kept := (changes other same change).mpr ⟨member, owned⟩
        exact ⟨change, kept.1, kept.2, rest⟩
  holders key other holds := by
    by_cases same : other = id
    · subst same
      exact held key holds
    · obtain ⟨client, change, commits, found⟩ := sound.holders key other ((holder other same key).mp holds)
      exact ⟨client, change, ⟨by rw [clients other same, commits.present], commits.flushed,
        commits.writes⟩, found⟩
  known change member := by
    by_cases same : change.client = id
    · rw [same]
      exact mine ⟨change, member, same⟩
    · rw [clients _ same]
      exact sound.known change ((changes _ same change).mp ⟨member, rfl⟩).1
  once := once

omit [DecidableEq Key] in
theorem goto_of_ne {other : ℕ} (progress : Progress Row Answer) (different : other ≠ id) :
    (shared.goto id client progress).clients other = shared.clients other :=
  Function.update_of_ne different ..

omit [DecidableEq Key] in
theorem Sound.proceed (sound : Sound program shared) {progress : Progress Row Answer}
    (unheld : ∀ key, shared.store.holder key ≠ some id)
    (unrecorded : ¬∃ change ∈ shared.changes, change.client = id)
    (open_ : ∀ row, progress ≠ .committed row)
    (flushed : progress = .flushed → ∃ change, program client.request client.reads = .write change ∧
      change.effect none = none ∧ change.admits none = true)
    (finished : ∀ answer, progress = .finished answer →
      program client.request client.reads = .finish answer) :
    Sound program (shared.goto id client progress) := by
  refine @Sound.frame _ _ _ _ _ _ _ id sound (fun other => goto_of_ne progress)
    (fun _ _ _ => Iff.rfl) (fun _ _ _ _ => rfl) (fun _ _ _ => Iff.rfl) ?_
    (fun key holds => absurd holds (unheld key))
    unrecorded.elim sound.once
  intro gone present
  simp only [goto, Function.update_self, Option.some.injEq] at present
  subst present
  refine ⟨fun now => ?_, finished, iff_of_false ?_ ?_, fun row now => absurd now (open_ row)⟩
  · obtain ⟨change, writes, none_left, admits⟩ := flushed now
    exact ⟨change, writes, .inr ⟨unheld _, none_left, admits⟩⟩
  · exact unrecorded
  · exact fun ⟨row, now⟩ => open_ row now

omit [DecidableEq Key] in
theorem Sound.unrecorded (sound : Sound program shared) (present : shared.clients id = some client)
    (running : client.progress.ended = false) : ¬∃ change ∈ shared.changes, change.client = id := by
  intro recorded
  obtain ⟨row, committed⟩ := (sound.clients id client present).recorded.mp recorded
  rw [committed] at running
  cases running

omit [DecidableEq Key] in
theorem Sound.unheld (sound : Sound program shared)
    (elsewhere : ∀ client, shared.clients id = some client → client.progress ≠ .flushed) :
    ∀ key, shared.store.holder key ≠ some id := by
  intro key holds
  obtain ⟨client, change, commits, -⟩ := sound.holders key id holds
  exact elsewhere client commits.present commits.flushed

theorem Sound.flush (sound : Sound program shared) (present : shared.clients id = some client)
    (running : client.progress = .running) (writes : program client.request client.reads = .write wanted)
    (moved : shared.flush id client wanted = some after) : Sound program after := by
  have unrecorded := sound.unrecorded present (by rw [running]; rfl)
  have unheld : ∀ key, shared.store.holder key ≠ some id := by
    refine sound.unheld fun other same => ?_
    rw [present, Option.some.injEq] at same
    rw [← same, running]
    simp
  unfold Shared.flush at moved
  split at moved
  · next missing =>
    cases moved
    rw [Bool.and_eq_true, Option.isNone_iff_eq_none, Option.isNone_iff_eq_none] at missing
    refine sound.proceed unheld unrecorded ?_ ?_ ?_
    · intro row
      split <;> simp
    · intro flushed
      split at flushed
      · next admits => exact ⟨wanted, writes, missing.2, admits⟩
      · cases flushed
    · intro answer finished
      split at finished <;> cases finished
  · rw [Option.map_eq_some_iff] at moved
    obtain ⟨locked, available, moved⟩ := moved
    split at moved
    · next admits =>
      subst moved
      refine @Sound.frame _ _ _ _ _ _ _ id sound (fun other => goto_of_ne .flushed) ?_ ?_
        (fun _ _ _ => Iff.rfl) ?_ ?_ unrecorded.elim sound.once
      · exact fun other different key => RowStore.lock_holder_of_ne available different
      · exact fun key other different holds => congrFun (RowStore.lock_committed available) key
      · intro gone now
        simp only [goto, Function.update_self, Option.some.injEq] at now
        subst now
        refine ⟨fun _ => ⟨wanted, writes, .inl ⟨?_, ?_⟩⟩, fun answer now => (by cases now),
          iff_of_false unrecorded ?_, fun row now => (by cases now)⟩
        · simp [goto, RowStore.lock_holder available]
        · simpa [goto, RowStore.lock_committed available] using admits
        · exact fun ⟨row, now⟩ => by cases now
      · intro key holds
        by_cases same : key = wanted.key
        · exact ⟨_, wanted, ⟨Function.update_self .., rfl, writes⟩, same.symm⟩
        · simp only [goto, RowStore.lock_holder available, if_neg same] at holds
          exact absurd holds (unheld key)
    · subst moved
      exact sound.proceed unheld unrecorded (fun _ => by simp) (fun now => by cases now)
        (fun _ now => by cases now)

theorem Sound.commit (sound : Sound program shared) (commits : Commits program shared id client wanted) :
    Sound program (shared.commit id client wanted) := by
  have unrecorded := sound.unrecorded commits.present (by rw [commits.flushed]; rfl)
  refine @Sound.frame _ _ _ _ _ _ _ id sound (fun other different => Function.update_of_ne different ..)
    (fun other different key => RowStore.release_of_ne different) ?_ ?_ ?_ ?_ ?_ ?_
  · intro key other different holds
    simp only [Shared.commit]
    by_cases same : key = wanted.key
    · subst same
      have unheld : ¬shared.store.holder wanted.key = some id := by
        rw [holds, Option.some.injEq]
        exact different
      rw [Function.update_self, result, if_neg unheld]
    · exact Function.update_of_ne same ..
  · intro other different change
    simp only [Shared.commit, List.mem_append, List.mem_singleton]
    constructor
    · rintro ⟨old | rfl, owned⟩
      · exact ⟨old, owned⟩
      · exact absurd owned.symm different
    · exact fun old => ⟨.inl old.1, old.2⟩
  · intro gone present
    simp only [Shared.commit, Function.update_self, Option.some.injEq] at present
    subst present
    have recorded : (⟨id, client.request, client.reads, shared.store.committed wanted.key,
        shared.result id wanted⟩ : Change Request Row) ∈ (shared.commit id client wanted).changes :=
      List.mem_append_right _ List.mem_cons_self
    refine ⟨fun now => (by cases now), fun answer now => (by cases now),
      iff_of_true ⟨_, recorded, rfl⟩ ⟨_, rfl⟩, fun row now => ?_⟩
    cases now
    exact ⟨_, recorded, rfl, rfl, rfl, rfl⟩
  · intro key holds
    exact absurd rfl (RowStore.release_eq_some holds).2
  · intro _
    simp [Shared.commit]
  · simp only [Shared.commit, List.map_append, List.map_cons, List.map_nil]
    refine List.nodup_append.mpr ⟨sound.once, List.pairwise_singleton _ _, ?_⟩
    intro other member last same
    rw [List.mem_singleton] at same
    rintro rfl
    obtain ⟨change, inside, owned⟩ := List.mem_map.mp member
    exact unrecorded ⟨change, inside, owned.trans same⟩

omit [DecidableEq Key] in
theorem Sound.fail (sound : Sound program shared) (moved : shared.fail id = some after) :
    Sound program after := by
  rw [Shared.fail, Option.bind_eq_some_iff] at moved
  obtain ⟨client, present, moved⟩ := moved
  split at moved
  · cases moved
  · next running =>
    cases moved
    have unrecorded := sound.unrecorded present (by simpa using running)
    refine @Sound.frame _ _ _ _ _ _ _ id sound (fun other => goto_of_ne .failed)
      (fun other different key => RowStore.release_of_ne different) (fun _ _ _ _ => rfl)
      (fun _ _ _ => Iff.rfl) ?_ ?_ unrecorded.elim sound.once
    · intro gone now
      simp only [goto, Function.update_self, Option.some.injEq] at now
      subst now
      refine ⟨fun now => (by cases now), fun answer now => (by cases now),
        iff_of_false unrecorded ?_, fun row now => (by cases now)⟩
      exact fun ⟨row, now⟩ => by cases now
    · intro key holds
      exact absurd rfl (RowStore.release_eq_some holds).2

theorem Sound.execute (sound : Sound program shared) (moved : shared.execute program id = some after) :
    Sound program after := by
  rw [Shared.execute, Option.bind_eq_some_iff] at moved
  obtain ⟨client, present, moved⟩ := moved
  have unheld : client.progress = .running → ∀ key, shared.store.holder key ≠ some id := by
    intro running
    refine sound.unheld fun other same => ?_
    rw [present, Option.some.injEq] at same
    rw [← same, running]
    simp
  have unrecorded : client.progress = .running → ¬∃ change ∈ shared.changes, change.client = id :=
    fun running => sound.unrecorded present (by rw [running]; rfl)
  split at moved
  · next running _ =>
    cases moved
    refine sound.proceed (unheld running) (unrecorded running) ?_ ?_ ?_ <;> simp
  · next answer running finishes =>
    cases moved
    refine sound.proceed (unheld running) (unrecorded running) (by simp) (by simp) fun other same => ?_
    rw [← Progress.finished.inj same]
    exact finishes
  · next running writes => exact sound.flush present running writes moved
  · next flushed writes =>
    cases moved
    exact sound.commit ⟨present, flushed, writes⟩
  · cases moved

theorem Sound.step {action : Action Request} (sound : Sound program shared)
    (moved : shared.step program action = some after) : Sound program after := by
  unfold Shared.step at moved
  split at moved
  · next id request =>
    split at moved
    · cases moved
    · next free =>
      cases moved
      have absent : ∀ client, shared.clients id ≠ some client := by simp [free]
      refine sound.proceed (sound.unheld fun client present => absurd present (absent client)) ?_
        (by simp) (by simp) (by simp)
      rintro ⟨change, member, rfl⟩
      have known := sound.known change member
      rw [free] at known
      cases known
  · exact sound.execute moved
  · exact sound.fail moved

theorem flush_cases (moved : shared.flush id client wanted = some after) :
    after.store.committed = shared.store.committed ∧ after.changes = shared.changes ∧
      ∃ progress, after.clients = Function.update shared.clients id
        (some { client with progress := progress }) := by
  unfold Shared.flush at moved
  split at moved
  · cases moved
    exact ⟨rfl, rfl, _, rfl⟩
  · rw [Option.map_eq_some_iff] at moved
    obtain ⟨locked, available, moved⟩ := moved
    split at moved
    · subst moved
      exact ⟨RowStore.lock_committed available, rfl, _, rfl⟩
    · subst moved
      exact ⟨rfl, rfl, _, rfl⟩

theorem execute_cases (moved : shared.execute program id = some after) : ∃ client,
    shared.clients id = some client ∧
    ((∃ wanted, Commits program shared id client wanted ∧ after = shared.commit id client wanted) ∨
      (client.progress = .running ∧ after.store.committed = shared.store.committed ∧
        after.changes = shared.changes ∧ ∃ client',
          after.clients = Function.update shared.clients id (some client') ∧
          client'.request = client.request ∧
          (client'.reads = client.reads ∨ ∃ key, program client.request client.reads = .read key ∧
            client'.reads = client.reads ++ [shared.store.committed key]))) := by
  rw [Shared.execute, Option.bind_eq_some_iff] at moved
  obtain ⟨client, present, moved⟩ := moved
  refine ⟨client, present, ?_⟩
  split at moved
  · next key running reads =>
    cases moved
    exact .inr ⟨running, rfl, rfl, _, rfl, rfl, .inr ⟨key, reads, rfl⟩⟩
  · next running _ =>
    cases moved
    exact .inr ⟨running, rfl, rfl, _, rfl, rfl, .inl rfl⟩
  · next running _ =>
    obtain ⟨rows, changes, progress, clients⟩ := flush_cases moved
    exact .inr ⟨running, rows, changes, _, clients, rfl, .inl rfl⟩
  · next flushed writes =>
    cases moved
    exact .inl ⟨_, ⟨present, flushed, writes⟩, rfl⟩
  · cases moved

theorem step_cases {action : Action Request} (moved : shared.step program action = some after) :
    (∃ id client wanted, action = .execute id ∧ Commits program shared id client wanted ∧
        after = shared.commit id client wanted) ∨
      (after.store.committed = shared.store.committed ∧ after.changes = shared.changes) := by
  unfold Shared.step at moved
  split at moved
  · split at moved
    · cases moved
    · cases moved
      exact .inr ⟨rfl, rfl⟩
  · obtain ⟨client, -, ⟨wanted, commits, rfl⟩ | ⟨-, rows, changes, -⟩⟩ := execute_cases moved
    · exact .inl ⟨_, client, wanted, rfl, commits, rfl⟩
    · exact .inr ⟨rows, changes⟩
  · rw [Shared.fail, Option.bind_eq_some_iff] at moved
    obtain ⟨client, -, moved⟩ := moved
    split at moved
    · cases moved
    · cases moved
      exact .inr ⟨rfl, rfl⟩

theorem step_ended {action : Action Request} (moved : shared.step program action = some after)
    (present : shared.clients id = some client) (ended : client.progress.ended = true) :
    after.clients id = some client := by
  have away : ∀ other, shared.clients other ≠ some client → other ≠ id := by
    rintro other different rfl
    exact different present
  unfold Shared.step at moved
  split at moved
  · next other _ =>
    split at moved
    · cases moved
    · next free =>
      cases moved
      exact (goto_of_ne _ (away other (by simp [free])).symm).trans present
  · next other =>
    have different : other ≠ id := by
      rintro rfl
      obtain ⟨mine, active, ⟨wanted, commits, -⟩ | ⟨running, -⟩⟩ := execute_cases moved
      · rw [present, Option.some.injEq] at active
        rw [active, commits.flushed] at ended
        cases ended
      · rw [present, Option.some.injEq] at active
        rw [active, running] at ended
        cases ended
    obtain ⟨mine, -, ⟨wanted, -, rfl⟩ | ⟨-, -, -, mine', clients, -, -⟩⟩ := execute_cases moved
    · exact (Function.update_of_ne different.symm ..).trans present
    · rw [clients]
      exact (Function.update_of_ne different.symm ..).trans present
  · next other =>
    rw [Shared.fail, Option.bind_eq_some_iff] at moved
    obtain ⟨mine, active, moved⟩ := moved
    split at moved
    · cases moved
    · next unfinished =>
      cases moved
      refine (goto_of_ne _ (away other fun same => unfinished ?_).symm).trans present
      rw [active, Option.some.injEq] at same
      rw [same]
      exact ended

omit [DecidableEq Key] in
theorem Commits.result_cases (commits : Commits program shared id client wanted)
    (sound : Sound program shared) :
    (shared.result id wanted = wanted.effect (shared.store.committed wanted.key) ∧
        wanted.admits (shared.store.committed wanted.key) = true) ∨
      (shared.result id wanted = shared.store.committed wanted.key ∧ wanted.effect none = none ∧
        wanted.admits none = true) := by
  obtain ⟨same, writes, held | free⟩ := (sound.clients id client commits.present).flushed commits.flushed
  · rw [commits.writes] at writes
    cases writes
    exact .inl ⟨if_pos held.1, held.2⟩
  · rw [commits.writes] at writes
    cases writes
    exact .inr ⟨if_neg free.1, free.2⟩

omit [DecidableEq Key] in
theorem Sound.committed_of_change (sound : Sound program shared) {change : Change Request Row}
    (member : change ∈ shared.changes) : ∃ client, shared.clients change.client = some client ∧
      client.progress = .committed change.after ∧ client.request = change.request := by
  obtain ⟨client, present⟩ := Option.isSome_iff_exists.mp (sound.known change member)
  have own := sound.clients change.client client present
  obtain ⟨row, committed⟩ := own.recorded.mp ⟨change, member, rfl⟩
  obtain ⟨other, inside, same, request, -, result⟩ := own.change row committed
  have one : other = change := List.inj_on_of_nodup_map sound.once inside member same
  subst one
  exact ⟨client, present, result ▸ committed, request.symm⟩

theorem unchanged_or_committed {action : Action Request} {final : Shared Request Key Row Answer}
    (moved : shared.step program action = some after)
    (later : Reached (fun a action b => a.step program action = some b) after final) :
    after.store.committed = shared.store.committed ∨ ∃ id client row, action = .execute id ∧
      final.clients id = some client ∧ client.progress = .committed row := by
  rcases step_cases moved with ⟨id, client, wanted, executed, commits, rfl⟩ | ⟨same, -⟩
  · have present : (shared.commit id client wanted).clients id =
        some { client with progress := .committed (shared.result id wanted) } := Function.update_self ..
    have kept := later.invariant (I := fun reached => reached.clients id =
      some { client with progress := .committed (shared.result id wanted) }) present
      fun _ _ _ known moved => step_ended moved known rfl
    exact .inr ⟨id, _, _, executed, kept, rfl⟩
  · exact .inl same

def Permits (program : Program Request Key Row Answer)
    (guard : Shared Request Key Row Answer → ℕ → Client Request Row Answer → Write Key Row → Prop)
    (shared : Shared Request Key Row Answer) (action : Action Request) : Prop :=
  ∀ id client wanted, action = .execute id → Commits program shared id client wanted →
    guard shared id client wanted

theorem unpermitted {guard : Shared Request Key Row Answer → ℕ → Client Request Row Answer → Write Key Row → Prop}
    {action : Action Request} (moved : shared.step program action = some after)
    (late : ¬Permits program guard shared action) :
    ∃ id client wanted, Commits program shared id client wanted ∧ ¬guard shared id client wanted ∧
      after = shared.commit id client wanted := by
  simp only [Permits, not_forall] at late
  obtain ⟨id, client, wanted, rfl, commits, refused⟩ := late
  refine ⟨id, client, wanted, commits, refused, ?_⟩
  have committed : shared.execute program id = some (shared.commit id client wanted) := by
    simp only [Shared.execute, commits.present, Option.bind_some, commits.flushed, commits.writes]
  rw [Shared.step, committed, Option.some.injEq] at moved
  exact moved.symm

/-- What the client has read under a key had the property that the rows under that key have. -/
def ReadBy (program : Program Request Key Row Answer) (P : Key → Row → Prop)
    (client : Client Request Row Answer) : Prop :=
  ∀ before row later, client.reads = before ++ some row :: later →
    ∃ key, program client.request before = .read key ∧ P key row

def ReadsFrom (program : Program Request Key Row Answer) (P : Key → Row → Prop)
    (shared : Shared Request Key Row Answer) : Prop :=
  ∀ id client, shared.clients id = some client → ReadBy program P client

omit [DecidableEq Key] in
theorem ReadBy.mem {P : Row → Prop} {row : Row} (reads : ReadBy program (fun _ => P) client)
    (inside : some row ∈ client.reads) : P row := by
  obtain ⟨before, later, split⟩ := List.append_of_mem inside
  obtain ⟨-, -, holds⟩ := reads before row later split
  exact holds

omit [DecidableEq Key] in
theorem ReadsFrom.initial {P : Key → Row → Prop} (rows : Key → Option Row) :
    ReadsFrom program P (initial rows) := by
  simp [ReadsFrom, Shared.initial]

omit [DecidableEq Key] in
theorem ReadBy.read {P : Key → Row → Prop} {key : Key} {found : Option Row}
    (reads : ReadBy program P client) (next : program client.request client.reads = .read key)
    (known : ∀ row, found = some row → P key row) {client' : Client Request Row Answer}
    (request : client'.request = client.request) (more : client'.reads = client.reads ++ [found]) :
    ReadBy program P client' := by
  intro before row later split
  rw [more] at split
  rw [request]
  induction later using List.reverseRecOn with
  | nil =>
    obtain ⟨same, last⟩ := List.append_inj' split rfl
    rw [List.cons.injEq] at last
    exact ⟨key, same ▸ next, known row last.1⟩
  | append_singleton later last _ =>
    rw [← List.cons_append, ← List.append_assoc] at split
    exact reads before row later (List.append_inj' split rfl).1

theorem ReadsFrom.step {P : Key → Row → Prop} {action : Action Request}
    (reads : ReadsFrom program P shared)
    (rows : ∀ key row, shared.store.committed key = some row → P key row)
    (moved : shared.step program action = some after) : ReadsFrom program P after := by
  have update : ∀ id client', ReadBy program P client' →
      after.clients = Function.update shared.clients id (some client') → ReadsFrom program P after := by
    intro id client' mine clients other client present
    rw [clients] at present
    by_cases same : other = id
    · subst same
      rw [Function.update_self, Option.some.injEq] at present
      subst present
      exact mine
    · rw [Function.update_of_ne same] at present
      exact reads other client present
  unfold Shared.step at moved
  split at moved
  · split at moved
    · cases moved
    · cases moved
      exact update _ _ (by simp [ReadBy]) rfl
  · obtain ⟨client, present, ⟨wanted, -, rfl⟩ | ⟨-, -, -, client', clients, request, read⟩⟩ :=
      execute_cases moved
    · exact update _ { client with progress := .committed _ } (reads _ client present) rfl
    · refine update _ client' ?_ clients
      rcases read with same | ⟨key, next, more⟩
      · unfold ReadBy
        rw [request, same]
        exact reads _ client present
      · exact (reads _ client present).read next (rows key) request more
  · rw [Shared.fail, Option.bind_eq_some_iff] at moved
    obtain ⟨client, present, moved⟩ := moved
    split at moved
    · cases moved
    · cases moved
      exact update _ { client with progress := .failed } (reads _ client present) rfl

/-- What commits keep, whatever runs between the reads of a client and its commit. `P` is what the
invariant gives of the rows, and so holds of the rows that were read. -/
theorem invariant_of_commits {I : (Key → Option Row) → List (Change Request Row) → Prop}
    {P : Key → Row → Prop}
    {guard : Shared Request Key Row Answer → ℕ → Client Request Row Answer → Write Key Row → Prop}
    {rows : Key → Option Row}
    (reached : Reached (fun a action b => a.step program action = some b ∧ Permits program guard a action)
      (initial rows) shared)
    (start : I rows [])
    (known : ∀ rows changes, I rows changes → ∀ key row, rows key = some row → P key row)
    (kept : ∀ shared id client wanted, Sound program shared →
      I shared.store.committed shared.changes → ReadBy program P client →
      Commits program shared id client wanted → guard shared id client wanted →
      I (shared.commit id client wanted).store.committed (shared.commit id client wanted).changes) :
    Sound program shared ∧ I shared.store.committed shared.changes := by
  have all : Sound program shared ∧ I shared.store.committed shared.changes ∧ ReadsFrom program P shared := by
    refine reached.invariant (I := fun shared => Sound program shared ∧
      I shared.store.committed shared.changes ∧ ReadsFrom program P shared)
      ⟨.initial rows, start, .initial rows⟩ ?_
    rintro shared action after ⟨sound, holds, reads⟩ ⟨moved, permitted⟩
    refine ⟨sound.step moved, ?_, reads.step (known _ _ holds) moved⟩
    rcases step_cases moved with ⟨id, client, wanted, executed, commits, rfl⟩ | ⟨same, unchanged⟩
    · exact kept shared id client wanted sound holds (reads id client commits.present) commits
        (permitted id client wanted executed commits)
    · rwa [same, unchanged]
  exact ⟨all.1, all.2.1⟩

end Shared

end CareerProjects.Library
