import Mathlib.Logic.Function.Basic

/-! Rows under READ COMMITTED. A transaction holds the lock of a row from the moment
it locks or inserts the row until it commits or rolls back, and other transactions see
the committed row meanwhile. A held key without a committed row is an insert that has
not been committed; inserted rows all start as the same row `fresh`. A statement that
has to wait for another transaction returns `none`. -/

namespace CareerProjects.Library

theorem exists_ready {Owner : Type*} {Active Waits : Owner → Prop} {rank : Owner → Nat} {bound : Nat}
    (bounded : ∀ owner, rank owner ≤ bound)
    (held : ∀ owner, Active owner → Waits owner → ∃ other, Active other ∧ (Waits other → rank owner < rank other))
    {owner : Owner} (active : Active owner) : ∃ ready, Active ready ∧ ¬Waits ready := by
  induction left : bound - rank owner using Nat.strongRecOn generalizing owner with
  | ind left ih =>
    by_cases waits : Waits owner
    · obtain ⟨other, otherActive, higher⟩ := held owner active waits
      by_cases otherWaits : Waits other
      · have above := higher otherWaits
        have within := bounded other
        exact ih (bound - rank other) (by omega) otherActive rfl
      · exact ⟨other, otherActive, otherWaits⟩
    · exact ⟨owner, active, waits⟩

structure RowStore (Owner Key Row : Type*) where
  committed : Key → Option Row
  holder : Key → Option Owner

namespace RowStore

variable {Owner Key Row : Type*} [DecidableEq Owner]

def empty : RowStore Owner Key Row := ⟨fun _ => none, fun _ => none⟩

/-- The row a transaction works on: one it holds, as committed or as it inserted it. -/
def own (store : RowStore Owner Key Row) (fresh : Row) (owner : Owner) (key : Key) : Option Row :=
  if store.holder key = some owner then some ((store.committed key).getD fresh) else none

/-- A statement of the transaction finds the row. -/
def visible (store : RowStore Owner Key Row) (owner : Owner) (key : Key) : Bool :=
  (store.committed key).isSome || store.holder key == some owner

def release (store : RowStore Owner Key Row) (owner : Owner) : Key → Option Owner :=
  fun key => if store.holder key = some owner then none else store.holder key

/-- Publish the rows the transaction holds, with the values it wrote. -/
def commit (store : RowStore Owner Key Row) (fresh : Row) (owner : Owner)
    (written : Key → Option Row) : RowStore Owner Key Row where
  committed key := ((store.own fresh owner key).map (written key).getD).or (store.committed key)
  holder := store.release owner

def rollback (store : RowStore Owner Key Row) (owner : Owner) : RowStore Owner Key Row :=
  { store with holder := store.release owner }

variable {store store' : RowStore Owner Key Row} {fresh : Row} {owner other : Owner}
  {key k : Key} {row : Row} {written : Key → Option Row}

theorem own_eq_some : store.own fresh owner key = some row ↔
    store.holder key = some owner ∧ (store.committed key).getD fresh = row := by
  by_cases held : store.holder key = some owner <;> simp [own, held]

theorem release_eq_some (h : store.release owner k = some other) :
    store.holder k = some other ∧ other ≠ owner := by
  by_cases held : store.holder k = some owner
  · simp [release, held] at h
  · rw [release, if_neg held] at h
    exact ⟨h, fun same => held (same ▸ h)⟩

theorem release_of_ne (different : other ≠ owner) :
    store.release owner k = some other ↔ store.holder k = some other := by
  refine ⟨fun h => (release_eq_some h).1, fun held => ?_⟩
  have unowned : ¬ store.holder k = some owner := by simp [held, different]
  rw [release, if_neg unowned, held]

theorem commit_holder_of_ne (different : other ≠ owner) :
    (store.commit fresh owner written).holder k = some other ↔ store.holder k = some other :=
  release_of_ne different

theorem rollback_holder_of_ne (different : other ≠ owner) :
    (store.rollback owner).holder k = some other ↔ store.holder k = some other :=
  release_of_ne different

theorem commit_committed_of_held (held : store.holder k = some owner) :
    (store.commit fresh owner written).committed k =
      some ((written k).getD ((store.committed k).getD fresh)) := by
  simp [commit, own, held]

theorem commit_committed_of_not_held (unheld : store.holder k ≠ some owner) :
    (store.commit fresh owner written).committed k = store.committed k := by
  simp [commit, own, unheld]

variable [DecidableEq Key]

/-- Wait until no other transaction holds the key, then hold it. -/
def lock (store : RowStore Owner Key Row) (owner : Owner) (key : Key) :
    Option (RowStore Owner Key Row) :=
  if (store.holder key).all (· = owner) then
    some { store with holder := Function.update store.holder key (some owner) }
  else none

/-- `INSERT ... ON CONFLICT DO NOTHING`: a committed row is left alone without waiting,
an uncommitted one is waited for. -/
def insertIfMissing (store : RowStore Owner Key Row) (owner : Owner) (key : Key) :
    Option (RowStore Owner Key Row) :=
  if (store.committed key).isSome then some store else store.lock owner key

theorem lock_cases (h : store.lock owner key = some store') :
    (∀ other, store.holder key = some other → other = owner) ∧
      store' = { store with holder := Function.update store.holder key (some owner) } := by
  by_cases available : (store.holder key).all (· = owner) = true
  · rw [lock, if_pos available, Option.some.injEq] at h
    refine ⟨fun other held => ?_, h.symm⟩
    simpa [held] using available
  · rw [lock, if_neg available] at h
    cases h

theorem lock_eq_none (waits : store.lock owner key = none) :
    ∃ other, other ≠ owner ∧ store.holder key = some other := by
  cases held : store.holder key with
  | none => simp [lock, held] at waits
  | some other =>
    refine ⟨other, fun same => ?_, rfl⟩
    simp [lock, held, same] at waits

theorem lock_of_insertIfMissing_eq_none (waits : store.insertIfMissing owner key = none) :
    store.lock owner key = none := by
  by_cases present : (store.committed key).isSome = true
  · rw [insertIfMissing, if_pos present] at waits
    cases waits
  · rwa [insertIfMissing, if_neg present] at waits

theorem insertIfMissing_cases (h : store.insertIfMissing owner key = some store') :
    store' = store ∨ store.lock owner key = some store' := by
  by_cases present : (store.committed key).isSome = true
  · rw [insertIfMissing, if_pos present, Option.some.injEq] at h
    exact .inl h.symm
  · rw [insertIfMissing, if_neg present] at h
    exact .inr h

theorem lock_committed (h : store.lock owner key = some store') :
    store'.committed = store.committed := by
  rw [(lock_cases h).2]

theorem insertIfMissing_committed (h : store.insertIfMissing owner key = some store') :
    store'.committed = store.committed := by
  rcases insertIfMissing_cases h with rfl | locked
  · rfl
  · exact lock_committed locked

theorem lock_holder (h : store.lock owner key = some store') :
    store'.holder k = if k = key then some owner else store.holder k := by
  rw [(lock_cases h).2]
  exact Function.update_apply ..

theorem insertIfMissing_holder (h : store.insertIfMissing owner key = some store')
    (held : store'.holder k = some other) :
    store.holder k = some other ∨ k = key ∧ other = owner := by
  rcases insertIfMissing_cases h with rfl | locked
  · exact .inl held
  · rw [lock_holder locked] at held
    by_cases same : k = key
    · rw [if_pos same] at held
      exact .inr ⟨same, (Option.some.inj held).symm⟩
    · rw [if_neg same] at held
      exact .inl held

theorem lock_holder_of_ne (h : store.lock owner key = some store') (different : other ≠ owner) :
    store'.holder k = some other ↔ store.holder k = some other := by
  rw [lock_holder h]
  by_cases same : k = key
  · subst same
    rw [if_pos rfl]
    refine ⟨fun held => absurd (Option.some.inj held).symm different, fun held => ?_⟩
    exact absurd ((lock_cases h).1 other held) different
  · rw [if_neg same]

theorem insertIfMissing_holder_of_ne (h : store.insertIfMissing owner key = some store')
    (different : other ≠ owner) : store'.holder k = some other ↔ store.holder k = some other := by
  rcases insertIfMissing_cases h with rfl | locked
  · rfl
  · exact lock_holder_of_ne locked different

end RowStore

end CareerProjects.Library
