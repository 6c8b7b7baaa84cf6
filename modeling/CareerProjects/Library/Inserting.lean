import Mathlib.Data.List.Nodup
import Mathlib.Data.List.Pairwise
import CareerProjects.Library.RowLock
import CareerProjects.Library.Runs

/-! Clients that insert rows under unique keys, all of them or none. A client reads what is committed,
a few times perhaps, and what it inserts then is a function of its request and of what it has read. An
insert waits for another client's uncommitted row of the same key and raises where the key is taken.
Beside the rows there is a world that other events change. -/

namespace CareerProjects.Library

/-- What a statement of a client sees. -/
structure Snapshot (World Key Row : Type*) where
  world : World
  rows : Key → Option Row

inductive Plan (Key Row Answer : Type*)
  | read
  | insert (rows : List (Key × Row))
  | finish (answer : Answer)

/-- What a client does after what it has read so far. -/
abbrev Planner (Request World Key Row Answer : Type*) :=
  Request → List (Snapshot World Key Row) → Plan Key Row Answer

inductive Inserting (Key Row Answer : Type*)
  | reading
  | inserting (done todo : List (Key × Row))
  | committed
  | finished (answer : Answer)
  | failed

def Inserting.ended {Key Row Answer : Type*} : Inserting Key Row Answer → Bool
  | .reading | .inserting .. => false
  | _ => true

structure Inserter (Request World Key Row Answer : Type*) where
  request : Request
  reads : List (Snapshot World Key Row)
  progress : Inserting Key Row Answer

/-- A committed transaction with its rows. -/
structure Inserted (Request World Key Row : Type*) where
  client : ℕ
  request : Request
  reads : List (Snapshot World Key Row)
  rows : List (Key × Row)

structure Inserts (Request World Key Row Answer : Type*) where
  world : World
  store : RowStore ℕ Key Row
  clients : ℕ → Option (Inserter Request World Key Row Answer)
  commits : List (Inserted Request World Key Row)

namespace Inserts

variable {Request World Key Row Answer Event : Type*} [DecidableEq Key]

def initial (world : World) : Inserts Request World Key Row Answer :=
  ⟨world, ⟨fun _ => none, fun _ => none⟩, fun _ => none, []⟩

def snapshot (state : Inserts Request World Key Row Answer) : Snapshot World Key Row :=
  ⟨state.world, state.store.committed⟩

inductive Action (Request Event : Type*)
  | event (event : Event)
  | start (id : ℕ) (request : Request)
  | execute (id : ℕ)
  | fail (id : ℕ)

def Action.client : Action Request Event → Option ℕ
  | .event _ => none
  | .start id _ | .execute id | .fail id => some id

def goto (state : Inserts Request World Key Row Answer) (id : ℕ)
    (client : Inserter Request World Key Row Answer) (progress : Inserting Key Row Answer) :
    Inserts Request World Key Row Answer :=
  { state with clients := Function.update state.clients id (some { client with progress := progress }) }

def rollback (state : Inserts Request World Key Row Answer) (id : ℕ)
    (client : Inserter Request World Key Row Answer) : Inserts Request World Key Row Answer :=
  { state with store := state.store.rollback id }.goto id client .failed

def insert (state : Inserts Request World Key Row Answer) (id : ℕ)
    (client : Inserter Request World Key Row Answer) (done todo : List (Key × Row)) (entry : Key × Row) :
    Option (Inserts Request World Key Row Answer) :=
  if (state.store.committed entry.1).isSome ∨ entry.1 ∈ done.map Prod.fst then
    some (state.rollback id client)
  else
    (state.store.lock id entry.1).map fun locked =>
      { state with store := locked }.goto id client (.inserting (done ++ [entry]) todo)

def commit (state : Inserts Request World Key Row Answer) (id : ℕ)
    (client : Inserter Request World Key Row Answer) (rows : List (Key × Row)) :
    Inserts Request World Key Row Answer :=
  { world := state.world
    store :=
      { committed := fun key => (rows.lookup key).or (state.store.committed key)
        holder := state.store.release id }
    clients := Function.update state.clients id (some { client with progress := .committed })
    commits := state.commits ++ [⟨id, client.request, client.reads, rows⟩] }

/-- The next statement of a client; nothing where it waits for another client or has ended. -/
def execute (planner : Planner Request World Key Row Answer)
    (state : Inserts Request World Key Row Answer) (id : ℕ) :
    Option (Inserts Request World Key Row Answer) :=
  (state.clients id).bind fun client =>
    match client.progress with
    | .reading =>
      match planner client.request client.reads with
      | .read => some (state.goto id { client with reads := client.reads ++ [state.snapshot] } .reading)
      | .finish answer => some (state.goto id client (.finished answer))
      | .insert rows => some (state.goto id client (.inserting [] rows))
    | .inserting done (entry :: todo) => state.insert id client done todo entry
    | .inserting done [] => some (state.commit id client done)
    | _ => none

def fail (state : Inserts Request World Key Row Answer) (id : ℕ) :
    Option (Inserts Request World Key Row Answer) :=
  (state.clients id).bind fun client =>
    if client.progress.ended then none else some (state.rollback id client)

def step (planner : Planner Request World Key Row Answer) (happen : World → Event → Option World)
    (state : Inserts Request World Key Row Answer) :
    Action Request Event → Option (Inserts Request World Key Row Answer)
  | .event event => (happen state.world event).map fun world => { state with world := world }
  | .start id request =>
    match state.clients id with
    | some _ => none
    | none => some (state.goto id ⟨request, [], .reading⟩ .reading)
  | .execute id => state.execute planner id
  | .fail id => state.fail id

variable {planner : Planner Request World Key Row Answer} {happen : World → Event → Option World}
  {state after : Inserts Request World Key Row Answer} {id other : ℕ}
  {client : Inserter Request World Key Row Answer} {done todo rows : List (Key × Row)}
  {entry : Key × Row} {action : Action Request Event}

/-- By its progress: a client that inserts holds the keys of the rows it has inserted, which are free
otherwise; one that has committed is recorded. -/
structure ClientSound (planner : Planner Request World Key Row Answer)
    (state : Inserts Request World Key Row Answer) (id : ℕ)
    (client : Inserter Request World Key Row Answer) : Prop where
  inserting : ∀ done todo, client.progress = .inserting done todo →
    planner client.request client.reads = .insert (done ++ todo) ∧ (done.map Prod.fst).Nodup ∧
      ∀ entry ∈ done, state.store.holder entry.1 = some id ∧ state.store.committed entry.1 = none
  finished : ∀ answer, client.progress = .finished answer →
    planner client.request client.reads = .finish answer
  recorded : (∃ commit ∈ state.commits, commit.client = id) → client.progress = .committed
  committed : client.progress = .committed → ∃ commit ∈ state.commits,
    commit.client = id ∧ commit.request = client.request ∧ commit.reads = client.reads

structure Sound (planner : Planner Request World Key Row Answer)
    (state : Inserts Request World Key Row Answer) : Prop where
  clients : ∀ id client, state.clients id = some client → ClientSound planner state id client
  holders : ∀ key id, state.store.holder key = some id → ∃ client done todo,
    state.clients id = some client ∧ client.progress = .inserting done todo ∧ key ∈ done.map Prod.fst
  known : ∀ commit ∈ state.commits, (state.clients commit.client).isSome
  once : (state.commits.map Inserted.client).Nodup
  planned : ∀ commit ∈ state.commits, planner commit.request commit.reads = .insert commit.rows
  keys : ((state.commits.flatMap Inserted.rows).map Prod.fst).Nodup
  rows : ∀ key row, state.store.committed key = some row ↔
    (key, row) ∈ state.commits.flatMap Inserted.rows

omit [DecidableEq Key] in
theorem Sound.initial (world : World) : Sound planner (initial world) := by
  constructor <;> simp [Inserts.initial]

omit [DecidableEq Key] in
theorem goto_of_ne (progress : Inserting Key Row Answer) (different : other ≠ id) :
    (state.goto id client progress).clients other = state.clients other :=
  Function.update_of_ne different ..

omit [DecidableEq Key] in
/-- Where one client does something and nothing is committed, what is true of the rest stays true. -/
theorem Sound.frame (sound : Sound planner state)
    (clients : ∀ other, other ≠ id → after.clients other = state.clients other)
    (holder : ∀ other, other ≠ id → ∀ key,
      after.store.holder key = some other ↔ state.store.holder key = some other)
    (committed : after.store.committed = state.store.committed) (commits : after.commits = state.commits)
    (own : ∀ client, after.clients id = some client → ClientSound planner after id client)
    (held : ∀ key, after.store.holder key = some id → ∃ client done todo,
      after.clients id = some client ∧ client.progress = .inserting done todo ∧ key ∈ done.map Prod.fst)
    (mine : (∃ commit ∈ state.commits, commit.client = id) → (after.clients id).isSome) :
    Sound planner after where
  clients other client present := by
    by_cases same : other = id
    · subst same
      exact own client present
    · have before := sound.clients other client (by rw [← clients other same, present])
      refine ⟨fun done todo progress => ?_, before.finished, ?_, ?_⟩
      · obtain ⟨plan, distinct, locked⟩ := before.inserting done todo progress
        refine ⟨plan, distinct, fun entry member => ?_⟩
        rw [holder other same, committed]
        exact locked entry member
      · rw [commits]
        exact before.recorded
      · rw [commits]
        exact before.committed
  holders key other holds := by
    by_cases same : other = id
    · subst same
      exact held key holds
    · obtain ⟨client, done, todo, present, progress, member⟩ :=
        sound.holders key other ((holder other same key).mp holds)
      exact ⟨client, done, todo, by rw [clients other same, present], progress, member⟩
  known commit member := by
    rw [commits] at member
    by_cases same : commit.client = id
    · rw [same]
      exact mine ⟨commit, member, same⟩
    · rw [clients _ same]
      exact sound.known commit member
  once := commits ▸ sound.once
  planned := commits ▸ sound.planned
  keys := commits ▸ sound.keys
  rows := by
    rw [commits, committed]
    exact sound.rows

omit [DecidableEq Key] in
theorem Sound.unrecorded (sound : Sound planner state) (present : state.clients id = some client)
    (running : client.progress.ended = false) : ¬∃ commit ∈ state.commits, commit.client = id := by
  intro recorded
  rw [(sound.clients id client present).recorded recorded] at running
  cases running

omit [DecidableEq Key] in
theorem Sound.proceed (sound : Sound planner state) {progress : Inserting Key Row Answer}
    (unheld : ∀ key, state.store.holder key ≠ some id)
    (unrecorded : ¬∃ commit ∈ state.commits, commit.client = id)
    (open_ : progress ≠ .committed)
    (inserting : ∀ done todo, progress = .inserting done todo → done = [] ∧
      planner client.request client.reads = .insert todo)
    (finished : ∀ answer, progress = .finished answer →
      planner client.request client.reads = .finish answer) :
    Sound planner (state.goto id client progress) := by
  refine @Sound.frame _ _ _ _ _ _ _ _ id sound (fun other => goto_of_ne progress) (fun _ _ _ => Iff.rfl)
    rfl rfl ?_ (fun key holds => absurd holds (unheld key)) unrecorded.elim
  intro gone present
  simp only [goto, Function.update_self, Option.some.injEq] at present
  subst present
  refine ⟨fun done todo now => ?_, finished, unrecorded.elim, fun now => absurd now open_⟩
  obtain ⟨rfl, plan⟩ := inserting done todo now
  exact ⟨plan, List.nodup_nil, by simp⟩

omit [DecidableEq Key] in
theorem Sound.unheld (sound : Sound planner state)
    (elsewhere : ∀ client, state.clients id = some client → ∀ done todo,
      client.progress ≠ .inserting done todo) : ∀ key, state.store.holder key ≠ some id := by
  intro key holds
  obtain ⟨client, done, todo, present, progress, -⟩ := sound.holders key id holds
  exact elsewhere client present done todo progress

omit [DecidableEq Key] in
theorem Sound.rollback (sound : Sound planner state) (present : state.clients id = some client)
    (running : client.progress.ended = false) : Sound planner (state.rollback id client) := by
  have unrecorded := sound.unrecorded present running
  refine @Sound.frame _ _ _ _ _ _ _ _ id sound (fun other => goto_of_ne .failed)
    (fun other different key => RowStore.release_of_ne different) rfl rfl ?_ ?_ unrecorded.elim
  · intro gone now
    simp only [Inserts.rollback, goto, Function.update_self, Option.some.injEq] at now
    subst now
    exact ⟨fun _ _ now => (by cases now), fun _ now => (by cases now), unrecorded.elim,
      fun now => by cases now⟩
  · intro key holds
    exact absurd rfl (RowStore.release_eq_some holds).2

theorem Sound.insert (sound : Sound planner state) (present : state.clients id = some client)
    (progress : client.progress = .inserting done (entry :: todo))
    (moved : state.insert id client done todo entry = some after) : Sound planner after := by
  have running : client.progress.ended = false := by
    rw [progress]
    rfl
  have unrecorded := sound.unrecorded present running
  have own := sound.clients id client present
  unfold Inserts.insert at moved
  split at moved
  · cases moved
    exact sound.rollback present running
  · next free =>
    rw [not_or, Bool.not_eq_true, Option.isSome_eq_false_iff, Option.isNone_iff_eq_none] at free
    rw [Option.map_eq_some_iff] at moved
    obtain ⟨locked, available, rfl⟩ := moved
    obtain ⟨plan, distinct, holding⟩ := own.inserting done (entry :: todo) progress
    have holder : ∀ key, locked.holder key = if key = entry.1 then some id else state.store.holder key :=
      fun key => RowStore.lock_holder available
    refine @Sound.frame _ _ _ _ _ _ _ _ id sound (fun other => goto_of_ne _)
      (fun other different key => RowStore.lock_holder_of_ne available different)
      (RowStore.lock_committed available) rfl ?_ ?_ unrecorded.elim
    · intro gone now
      simp only [goto, Function.update_self, Option.some.injEq] at now
      subst now
      refine ⟨?_, fun _ now => (by cases now), unrecorded.elim, fun now => (by cases now)⟩
      intro done' todo' now
      cases now
      refine ⟨by rw [List.append_assoc, List.singleton_append, plan], ?_, ?_⟩
      · rw [List.map_append, List.map_singleton]
        exact distinct.append (List.nodup_singleton _) (List.disjoint_singleton.mpr free.2)
      · intro one member
        simp only [goto, holder, RowStore.lock_committed available]
        rw [List.mem_append, List.mem_singleton] at member
        rcases member with old | rfl
        · refine ⟨?_, (holding one old).2⟩
          split
          · rfl
          · exact (holding one old).1
        · exact ⟨if_pos rfl, free.1⟩
    · intro key holds
      refine ⟨_, done ++ [entry], todo, Function.update_self .., rfl, ?_⟩
      rw [List.map_append, List.map_singleton, List.mem_append, List.mem_singleton]
      simp only [goto, holder] at holds
      by_cases same : key = entry.1
      · exact .inr same
      · rw [if_neg same] at holds
        obtain ⟨client', done', todo', present', progress', member⟩ := sound.holders key id holds
        rw [present, Option.some.injEq] at present'
        subst present'
        rw [progress] at progress'
        cases progress'
        exact .inl member

theorem lookup_eq_some_iff {Value : Type*} {entries : List (Key × Value)} {key : Key} {value : Value}
    (distinct : (entries.map Prod.fst).Nodup) :
    entries.lookup key = some value ↔ (key, value) ∈ entries := by
  induction entries with
  | nil => simp
  | cons head entries ih =>
    rw [List.map_cons, List.nodup_cons] at distinct
    rw [List.lookup_cons, List.mem_cons]
    by_cases same : key = head.1
    · have head_key : (key == head.1) = true := by simpa using same
      rw [head_key, Option.some.injEq]
      have elsewhere : (key, value) ∉ entries := fun inside =>
        distinct.1 (same ▸ List.mem_map_of_mem (f := Prod.fst) inside)
      constructor
      · rintro rfl
        exact .inl (Prod.ext same rfl)
      · rintro (rfl | inside)
        · rfl
        · exact absurd inside elsewhere
    · have other_key : (key == head.1) = false := by simpa using same
      rw [other_key, ih distinct.2]
      constructor
      · exact .inr
      · rintro (rfl | inside)
        · exact absurd rfl same
        · exact inside

theorem Sound.commit (sound : Sound planner state) (present : state.clients id = some client)
    (progress : client.progress = .inserting rows []) : Sound planner (state.commit id client rows) := by
  obtain ⟨plan, distinct, holding⟩ := (sound.clients id client present).inserting rows [] progress
  rw [List.append_nil] at plan
  have unrecorded := sound.unrecorded present (by rw [progress]; rfl)
  have taken : ∀ key ∈ rows.map Prod.fst, state.store.holder key = some id ∧
      state.store.committed key = none := by
    intro key member
    obtain ⟨entry, inside, rfl⟩ := List.mem_map.mp member
    exact holding entry inside
  constructor
  · intro other client' found
    by_cases same : other = id
    · subst same
      simp only [Inserts.commit, Function.update_self, Option.some.injEq] at found
      subst found
      refine ⟨fun _ _ now => (by cases now), fun _ now => (by cases now), fun _ => rfl, fun _ => ?_⟩
      exact ⟨_, List.mem_append_right _ List.mem_cons_self, rfl, rfl, rfl⟩
    · have before := sound.clients other client' (by
        rw [← found]
        exact (Function.update_of_ne same ..).symm)
      refine ⟨fun done todo now => ?_, before.finished, ?_, fun now => ?_⟩
      · obtain ⟨plan', distinct', locked⟩ := before.inserting done todo now
        refine ⟨plan', distinct', fun entry member => ?_⟩
        have held := locked entry member
        refine ⟨(RowStore.release_of_ne same).mpr held.1, ?_⟩
        have missing : rows.lookup entry.1 = none := by
          rw [Option.eq_none_iff_forall_not_mem]
          intro row found'
          have inside := (lookup_eq_some_iff distinct).mp (Option.mem_def.mp found')
          have mine := taken entry.1 (List.mem_map.mpr ⟨_, inside, rfl⟩)
          rw [held.1, Option.some.injEq] at mine
          exact same mine.1
        simp [Inserts.commit, missing, held.2]
      · rintro ⟨commit, member, owned⟩
        simp only [Inserts.commit, List.mem_append, List.mem_singleton] at member
        rcases member with old | rfl
        · exact before.recorded ⟨commit, old, owned⟩
        · exact absurd owned.symm same
      · obtain ⟨commit, member, rest⟩ := before.committed now
        exact ⟨commit, List.mem_append_left _ member, rest⟩
  · intro key other holds
    obtain ⟨held, different⟩ := RowStore.release_eq_some holds
    obtain ⟨client', done, todo, found, now, member⟩ := sound.holders key other held
    exact ⟨client', done, todo, (Function.update_of_ne different ..).trans found, now, member⟩
  · intro commit member
    simp only [Inserts.commit, List.mem_append, List.mem_singleton] at member ⊢
    by_cases same : commit.client = id
    · rw [same, Function.update_self]
      rfl
    · rw [Function.update_of_ne same]
      rcases member with old | rfl
      · exact sound.known commit old
      · exact absurd rfl same
  · simp only [Inserts.commit, List.map_append, List.map_cons, List.map_nil]
    refine sound.once.append (List.nodup_singleton _) (List.disjoint_singleton.mpr fun member => ?_)
    obtain ⟨commit, inside, owned⟩ := List.mem_map.mp member
    exact unrecorded ⟨commit, inside, owned⟩
  · intro commit member
    simp only [Inserts.commit, List.mem_append, List.mem_singleton] at member
    rcases member with old | rfl
    · exact sound.planned commit old
    · exact plan
  · simp only [Inserts.commit, List.flatMap_append, List.map_append, List.flatMap_singleton]
    refine sound.keys.append distinct fun key old new => ?_
    obtain ⟨⟨key', row⟩, inside, rfl⟩ := List.mem_map.mp old
    rw [← sound.rows key' row, (taken key' new).2] at inside
    cases inside
  · intro key row
    simp only [Inserts.commit, List.flatMap_append, List.flatMap_singleton, List.mem_append, Option.or_eq_some_iff]
    rw [lookup_eq_some_iff distinct, sound.rows key row]
    constructor
    · rintro (mine | ⟨-, old⟩)
      · exact .inr mine
      · exact .inl old
    · rintro (old | mine)
      · refine .inr ⟨?_, old⟩
        rw [Option.eq_none_iff_forall_not_mem]
        intro other found
        have inside := (lookup_eq_some_iff distinct).mp (Option.mem_def.mp found)
        have free := (taken key (List.mem_map_of_mem (f := Prod.fst) inside)).2
        rw [(sound.rows key row).mpr old] at free
        cases free
      · exact .inl mine

theorem Sound.execute (sound : Sound planner state) (moved : state.execute planner id = some after) :
    Sound planner after := by
  rw [Inserts.execute, Option.bind_eq_some_iff] at moved
  obtain ⟨client, present, moved⟩ := moved
  split at moved
  · next reading =>
    have unheld := sound.unheld fun other same done todo => by
      rw [present, Option.some.injEq] at same
      rw [← same, reading]
      simp
    have unrecorded := sound.unrecorded present (by rw [reading]; rfl)
    split at moved
    · cases moved
      exact sound.proceed unheld unrecorded (by simp) (by simp) (by simp)
    · next answer finishes =>
      cases moved
      refine sound.proceed unheld unrecorded (by simp) (by simp) fun other same => ?_
      rw [← Inserting.finished.inj same]
      exact finishes
    · next rows plan =>
      cases moved
      refine sound.proceed unheld unrecorded (by simp) (fun done todo same => ?_) (by simp)
      cases same
      exact ⟨rfl, plan⟩
  · next progress => exact sound.insert present progress moved
  · next progress =>
    cases moved
    exact sound.commit present progress
  · cases moved

theorem Sound.step (sound : Sound planner state) (moved : state.step planner happen action = some after) :
    Sound planner after := by
  unfold Inserts.step at moved
  split at moved
  · rw [Option.map_eq_some_iff] at moved
    obtain ⟨world, -, rfl⟩ := moved
    exact ⟨fun id client present => ⟨(sound.clients id client present).inserting,
        (sound.clients id client present).finished, (sound.clients id client present).recorded,
        (sound.clients id client present).committed⟩,
      sound.holders, sound.known, sound.once, sound.planned, sound.keys, sound.rows⟩
  · next id request =>
    split at moved
    · cases moved
    · next free =>
      cases moved
      have absent : ∀ client, state.clients id ≠ some client := by simp [free]
      refine sound.proceed (sound.unheld fun client present => absurd present (absent client)) ?_
        (by simp) (by simp) (by simp)
      rintro ⟨commit, member, rfl⟩
      have known := sound.known commit member
      rw [free] at known
      cases known
  · exact sound.execute moved
  · rw [Inserts.fail, Option.bind_eq_some_iff] at moved
    obtain ⟨client, present, moved⟩ := moved
    split at moved
    · cases moved
    · next running =>
      cases moved
      exact sound.rollback present (by simpa using running)

theorem insert_cases (moved : state.insert id client done todo entry = some after) :
    after.world = state.world ∧ after.store.committed = state.store.committed ∧
      after.commits = state.commits ∧ ∃ progress,
        after.clients = Function.update state.clients id (some { client with progress := progress }) := by
  unfold Inserts.insert at moved
  split at moved
  · cases moved
    exact ⟨rfl, rfl, rfl, _, rfl⟩
  · rw [Option.map_eq_some_iff] at moved
    obtain ⟨locked, available, rfl⟩ := moved
    exact ⟨rfl, RowStore.lock_committed available, rfl, _, rfl⟩

theorem execute_cases (moved : state.execute planner id = some after) : after.world = state.world ∧
    ∃ client, state.clients id = some client ∧
      ((∃ rows, client.progress = .inserting rows [] ∧ after = state.commit id client rows) ∨
        (after.store.committed = state.store.committed ∧ after.commits = state.commits ∧ ∃ client',
          after.clients = Function.update state.clients id (some client') ∧
          (client'.reads = client.reads ∨ client'.reads = client.reads ++ [state.snapshot]))) := by
  rw [Inserts.execute, Option.bind_eq_some_iff] at moved
  obtain ⟨client, present, moved⟩ := moved
  split at moved
  · split at moved
    · cases moved
      exact ⟨rfl, client, present, .inr ⟨rfl, rfl, _, rfl, .inr rfl⟩⟩
    · cases moved
      exact ⟨rfl, client, present, .inr ⟨rfl, rfl, _, rfl, .inl rfl⟩⟩
    · cases moved
      exact ⟨rfl, client, present, .inr ⟨rfl, rfl, _, rfl, .inl rfl⟩⟩
  · obtain ⟨world, rows, commits, progress, clients⟩ := insert_cases moved
    exact ⟨world, client, present, .inr ⟨rows, commits, _, clients, .inl rfl⟩⟩
  · next rows progress =>
    cases moved
    exact ⟨rfl, client, present, .inl ⟨rows, progress, rfl⟩⟩
  · cases moved

theorem step_cases (moved : state.step planner happen action = some after) :
    (∃ event, action = .event event ∧ happen state.world event = some after.world ∧
        after.store = state.store ∧ after.clients = state.clients ∧ after.commits = state.commits) ∨
      (∃ id client rows, action = .execute id ∧ state.clients id = some client ∧
        client.progress = .inserting rows [] ∧ after = state.commit id client rows) ∨
      (after.world = state.world ∧ after.store.committed = state.store.committed ∧
        after.commits = state.commits) := by
  unfold Inserts.step at moved
  split at moved
  · next event =>
    rw [Option.map_eq_some_iff] at moved
    obtain ⟨world, happened, rfl⟩ := moved
    exact .inl ⟨event, rfl, happened, rfl, rfl, rfl⟩
  · split at moved
    · cases moved
    · cases moved
      exact .inr (.inr ⟨rfl, rfl, rfl⟩)
  · next id =>
    obtain ⟨world, client, present, ⟨rows, progress, rfl⟩ | ⟨rows, commits, -⟩⟩ := execute_cases moved
    · exact .inr (.inl ⟨id, client, rows, rfl, present, progress, rfl⟩)
    · exact .inr (.inr ⟨world, rows, commits⟩)
  · rw [Inserts.fail, Option.bind_eq_some_iff] at moved
    obtain ⟨client, -, moved⟩ := moved
    split at moved
    · cases moved
    · cases moved
      exact .inr (.inr ⟨rfl, rfl, rfl⟩)

/-- What is true of all that has been read: of the reads of the clients and of the commits. -/
structure ReadsFrom (P : Snapshot World Key Row → Prop) (state : Inserts Request World Key Row Answer) :
    Prop where
  clients : ∀ id client, state.clients id = some client → ∀ read ∈ client.reads, P read
  commits : ∀ commit ∈ state.commits, ∀ read ∈ commit.reads, P read

omit [DecidableEq Key] in
theorem ReadsFrom.initial {P : Snapshot World Key Row → Prop} (world : World) :
    ReadsFrom P (initial world : Inserts Request World Key Row Answer) := by
  constructor <;> simp [Inserts.initial]

/-- What was true of the reads and is true of the state now is true of the reads after a step. -/
theorem ReadsFrom.step {P Q : Snapshot World Key Row → Prop} (reads : ReadsFrom P state)
    (later : ∀ read, P read → Q read) (now : Q state.snapshot)
    (moved : state.step planner happen action = some after) : ReadsFrom Q after := by
  have update : ∀ id client', (∀ read ∈ client'.reads, Q read) →
      after.clients = Function.update state.clients id (some client') →
      (∀ commit ∈ after.commits, commit ∈ state.commits ∨ commit.reads = client'.reads) →
      ReadsFrom Q after := by
    intro id client' mine clients commits
    refine ⟨fun other client present => ?_, fun commit member read inside => ?_⟩
    · rw [clients] at present
      by_cases same : other = id
      · subst same
        rw [Function.update_self, Option.some.injEq] at present
        subst present
        exact mine
      · rw [Function.update_of_ne same] at present
        exact fun read inside => later read (reads.clients other client present read inside)
    · rcases commits commit member with old | same
      · exact later read (reads.commits commit old read inside)
      · rw [same] at inside
        exact mine read inside
  have known : ∀ id client, state.clients id = some client → ∀ read ∈ client.reads, Q read :=
    fun id client present read inside => later read (reads.clients id client present read inside)
  unfold Inserts.step at moved
  split at moved
  · rw [Option.map_eq_some_iff] at moved
    obtain ⟨world, -, rfl⟩ := moved
    exact ⟨known, fun commit member read inside => later read (reads.commits commit member read inside)⟩
  · split at moved
    · cases moved
    · cases moved
      exact update _ _ (by simp) rfl fun _ old => .inl old
  · obtain ⟨-, client, present, ⟨rows, -, rfl⟩ | ⟨-, commits, client', clients, read⟩⟩ :=
      execute_cases moved
    · refine update _ { client with progress := .committed } (known _ client present) rfl ?_
      intro commit member
      simp only [Inserts.commit, List.mem_append, List.mem_singleton] at member
      rcases member with old | rfl
      · exact .inl old
      · exact .inr rfl
    · refine update _ client' (fun snapshot inside => ?_) clients fun _ old => .inl (commits ▸ old)
      rcases read with same | more
      · rw [same] at inside
        exact known _ client present snapshot inside
      · rw [more, List.mem_append, List.mem_singleton] at inside
        rcases inside with old | rfl
        · exact known _ client present snapshot old
        · exact now
  · rw [Inserts.fail, Option.bind_eq_some_iff] at moved
    obtain ⟨client, present, moved⟩ := moved
    split at moved
    · cases moved
    · cases moved
      exact update _ { client with progress := .failed } (known _ client present) rfl
        fun _ old => .inl old

theorem reads_of_run {start : Inserts Request World Key Row Answer} {labels : List (Action Request Event)}
    (run : Run (fun a action b => a.step planner happen action = some b) start labels state)
    (fresh : ReadsFrom (fun _ => False) start) :
    ReadsFrom (fun read => ∃ before later middle, labels = before ++ later ∧
      Run (fun a action b => a.step planner happen action = some b) start before middle ∧
      Run (fun a action b => a.step planner happen action = some b) middle later state ∧
      read = middle.snapshot) state := by
  induction run with
  | nil =>
    exact ⟨fun id client present read inside => (fresh.clients id client present read inside).elim,
      fun commit member read inside => (fresh.commits commit member read inside).elim⟩
  | snoc earlier last ih =>
    refine ih.step ?_ ?_ last
    · rintro read ⟨before, later, middle, rfl, reached, rest, same⟩
      exact ⟨before, later ++ [_], middle, List.append_assoc .., reached, rest.snoc last, same⟩
    · exact ⟨_, [_], _, rfl, earlier, .single last, rfl⟩

theorem commits_of_run {start : Inserts Request World Key Row Answer} {labels : List (Action Request Event)}
    (run : Run (fun a action b => a.step planner happen action = some b) start labels state)
    {commit : Inserted Request World Key Row} (member : commit ∈ start.commits) : commit ∈ state.commits := by
  induction run with
  | nil => exact member
  | snoc earlier last ih =>
    rcases step_cases last with ⟨event, -, -, -, -, same⟩ | ⟨id, client, rows, -, -, -, rfl⟩ | ⟨-, -, same⟩
    · exact same ▸ ih
    · exact List.mem_append_left _ ih
    · exact same ▸ ih

theorem world_of_run {R : World → World → Prop} {start : Inserts Request World Key Row Answer}
    {labels : List (Action Request Event)} (refl : ∀ world, R world world) (trans : ∀ a b c, R a b → R b c → R a c)
    (events : ∀ world event world', happen world event = some world' → R world world')
    (run : Run (fun a action b => a.step planner happen action = some b) start labels state) :
    R start.world state.world := by
  induction run with
  | nil => exact refl _
  | snoc earlier last ih =>
    rcases step_cases last with ⟨event, -, happened, -⟩ | ⟨id, client, rows, -, -, -, rfl⟩ | ⟨same, -⟩
    · exact trans _ _ _ ih (events _ _ _ happened)
    · exact ih
    · rw [same]
      exact ih

theorem sound_of_run {world : World} {labels : List (Action Request Event)}
    (run : Run (fun a action b => a.step planner happen action = some b) (initial world) labels state) :
    Sound planner state :=
  run.invariant (.initial world) fun _ _ _ sound moved => sound.step moved

omit [DecidableEq Key] in
theorem Sound.commit_unique (sound : Sound planner state) {commit commit' : Inserted Request World Key Row}
    (member : commit ∈ state.commits) (member' : commit' ∈ state.commits) {key : Key}
    (mine : key ∈ commit.rows.map Prod.fst) (other : key ∈ commit'.rows.map Prod.fst) : commit = commit' := by
  have keys := sound.keys
  rw [List.map_flatMap, List.nodup_flatMap] at keys
  by_contra different
  have symmetric : Std.Symm (Function.onFun List.Disjoint
      fun commit : Inserted Request World Key Row => commit.rows.map Prod.fst) :=
    ⟨fun _ _ apart _ new old => apart old new⟩
  exact keys.2.forall member member' different mine other

omit [DecidableEq Key] in
theorem Sound.stored (sound : Sound planner state) {key : Key} {row : Row} :
    state.store.committed key = some row ↔ ∃ commit ∈ state.commits, (key, row) ∈ commit.rows := by
  rw [sound.rows, List.mem_flatMap]

theorem unchanged_of_run {world : World} {before later : List (Action Request Event)}
    {middle : Inserts Request World Key Row Answer}
    (first : Run (fun a action b => a.step planner happen action = some b) (initial world) before middle)
    (moved : middle.step planner happen action = some after)
    (rest : Run (fun a action b => a.step planner happen action = some b) after later state)
    (acts : action.client = some id)
    (uncommitted : ∀ client, state.clients id = some client → client.progress ≠ .committed) :
    after.world = middle.world ∧ after.store.committed = middle.store.committed := by
  have sound : Sound planner state := sound_of_run ((first.snoc moved).append rest)
  rcases step_cases moved with ⟨event, rfl, -⟩ | ⟨other, client, rows, rfl, -, -, rfl⟩ | ⟨world, rows, -⟩
  · cases acts
  · cases acts
    have recorded := commits_of_run rest
      (show (⟨id, client.request, client.reads, rows⟩ : Inserted Request World Key Row) ∈
        (middle.commit id client rows).commits from List.mem_append_right _ (List.mem_singleton_self _))
    obtain ⟨last, present⟩ := Option.isSome_iff_exists.mp (sound.known _ recorded)
    exact absurd ((sound.clients id last present).recorded ⟨_, recorded, rfl⟩) (uncommitted last present)
  · exact ⟨world, rows⟩

end Inserts

end CareerProjects.Library
