import Mathlib.Data.List.Nodup
import Mathlib.Data.List.Sort

/-! Batches: the first so many, in an order, of the elements of a list that qualify, and
what is left over. -/

namespace CareerProjects.Library

variable {α : Type*} (qualifies : α → Bool) (r : α → α → Prop) [DecidableRel r] (limit : ℕ)
  (rows : List α)

def batch : List α := ((rows.filter qualifies).insertionSort r).take limit

def leftOver : List α := ((rows.filter qualifies).insertionSort r).drop limit

theorem batch_perm :
    (batch qualifies r limit rows ++ leftOver qualifies r limit rows).Perm (rows.filter qualifies) := by
  rw [batch, leftOver, List.take_append_drop]
  exact List.perm_insertionSort r _

variable {qualifies r limit rows}

theorem mem_batch {a : α} (member : a ∈ batch qualifies r limit rows) :
    a ∈ rows ∧ qualifies a = true := by
  have kept := List.mem_of_mem_take member
  rwa [List.mem_insertionSort, List.mem_filter] at kept

theorem length_batch :
    (batch qualifies r limit rows).length = min limit (rows.countP qualifies) := by
  rw [batch, List.length_take, List.length_insertionSort, List.countP_eq_length_filter]

theorem batch_nodup (distinct : rows.Nodup) :
    (batch qualifies r limit rows ++ leftOver qualifies r limit rows).Nodup :=
  (batch_perm qualifies r limit rows).nodup_iff.mpr (distinct.filter qualifies)

section Order

variable [Std.Total r] [IsTrans α r]

/-- Selecting from a sorted list, where no two of its elements come before each other. -/
theorem filter_insertionSort (p : α → Bool)
    (strict : ∀ a ∈ rows, ∀ b ∈ rows, r a b → r b a → a = b) :
    (rows.insertionSort r).filter p = (rows.filter p).insertionSort r := by
  have inside : ∀ a, a ∈ (rows.insertionSort r).filter p → a ∈ rows := by
    intro a member
    exact (List.mem_insertionSort r).mp (List.mem_of_mem_filter member)
  have inside' : ∀ b, b ∈ (rows.filter p).insertionSort r → b ∈ rows := by
    intro b member
    exact List.mem_of_mem_filter ((List.mem_insertionSort r).mp member)
  refine List.Perm.eq_of_pairwise (fun a b first second => strict a (inside a first) b (inside' b second)) ?_ ?_ ?_
  · exact (List.pairwise_insertionSort r rows).filter p
  · exact List.pairwise_insertionSort r _
  · exact ((List.perm_insertionSort r rows).filter p).trans (List.perm_insertionSort r _).symm

end Order

/-- Order by a key, and where it is the same by `r`. -/
def thenBy {β : Type*} [LT β] (key : α → β) (r : α → α → Prop) (a b : α) : Prop :=
  key a < key b ∨ key a = key b ∧ r a b

section ThenBy

variable {β : Type*} [LinearOrder β] {key : α → β} {s : α → α → Prop}

theorem thenBy_total [Std.Total s] (a b : α) : thenBy key s a b ∨ thenBy key s b a := by
  rcases lt_trichotomy (key a) (key b) with less | same | more
  · exact .inl (.inl less)
  · rcases Std.Total.total (r := s) a b with first | second
    · exact .inl (.inr ⟨same, first⟩)
    · exact .inr (.inr ⟨same.symm, second⟩)
  · exact .inr (.inl more)

theorem thenBy_trans [IsTrans α s] {a b c : α} (first : thenBy key s a b) (second : thenBy key s b c) :
    thenBy key s a c := by
  rcases first with less | ⟨same, before⟩
  · rcases second with less' | ⟨same', -⟩
    · exact .inl (less.trans less')
    · exact .inl (same' ▸ less)
  · rcases second with less' | ⟨same', before'⟩
    · exact .inl (same ▸ less')
    · exact .inr ⟨same.trans same', IsTrans.trans _ _ _ before before'⟩

instance [Std.Total s] : Std.Total (thenBy key s) := ⟨thenBy_total⟩

instance [IsTrans α s] : IsTrans α (thenBy key s) := ⟨fun _ _ _ => thenBy_trans⟩

theorem thenBy_both {a b : α} (first : thenBy key s a b) (second : thenBy key s b a) :
    s a b ∧ s b a := by
  rcases first with less | ⟨same, before⟩
  · rcases second with less' | ⟨same', -⟩
    · exact absurd less' less.asymm
    · exact absurd same' less.ne'
  · rcases second with less' | ⟨-, before'⟩
    · exact absurd same less'.ne'
    · exact ⟨before, before'⟩

end ThenBy

theorem countP_treated (distinct : rows.Nodup) {treat : α → α} {touched : α → Bool}
    (treats : ∀ a, qualifies (treat a) = false)
    (touches : ∀ a ∈ rows, touched a = true ↔ a ∈ batch qualifies r limit rows) :
    (rows.map fun a => if touched a then treat a else a).countP qualifies =
      rows.countP qualifies - limit := by
  have nodup := @batch_nodup α qualifies r _ limit rows distinct
  have treated : ∀ a ∈ batch qualifies r limit rows, touched a = true :=
    fun a member => (touches a (mem_batch member).1).mpr member
  have untouched : ∀ a ∈ leftOver qualifies r limit rows, touched a = false := by
    intro a member
    by_contra touch
    have inside : a ∈ rows := by
      have listed := (batch_perm qualifies r limit rows).subset (List.mem_append_right _ member)
      exact (List.mem_filter.mp listed).1
    have chosen := (touches a inside).mp (by simpa using touch)
    exact (List.nodup_append.mp nodup).2.2 a chosen a member rfl
  calc (rows.map fun a => if touched a then treat a else a).countP qualifies
      = rows.countP fun a => !touched a && qualifies a := by
        rw [List.countP_map]
        refine List.countP_congr fun a _ => ?_
        cases touch : touched a with
        | true => simp [touch, treats]
        | false => simp [touch]
    _ = (rows.filter qualifies).countP fun a => !touched a := List.countP_filter.symm
    _ = (batch qualifies r limit rows ++ leftOver qualifies r limit rows).countP
          fun a => !touched a := ((batch_perm qualifies r limit rows).countP_eq _).symm
    _ = (leftOver qualifies r limit rows).length := by
        rw [List.countP_append, List.countP_eq_zero.mpr, List.countP_eq_length.mpr, Nat.zero_add]
        · exact fun a member => by simp [untouched a member]
        · exact fun a member => by simp [treated a member]
    _ = rows.countP qualifies - limit := by
        rw [leftOver, List.length_drop, List.length_insertionSort, List.countP_eq_length_filter]

end CareerProjects.Library
