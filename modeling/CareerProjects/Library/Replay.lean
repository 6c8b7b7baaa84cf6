import Mathlib.Data.List.Nodup
import Mathlib.Logic.Function.Basic

/-! Logs of field changes. Each change says which value a field had and which it gets; replaying a
log applies its changes in order, and fails at a change whose old value is not the current one. -/

namespace CareerProjects.Library

structure FieldChange (Field Value : Type*) where
  field : Field
  old : Value
  new : Value
  deriving DecidableEq

variable {Field Value : Type*} [DecidableEq Field] [DecidableEq Value]

def FieldChange.apply (change : FieldChange Field Value) (values : Field → Value) :
    Option (Field → Value) :=
  if values change.field = change.old then
    some (Function.update values change.field change.new)
  else none

def replay : (Field → Value) → List (FieldChange Field Value) → Option (Field → Value)
  | values, [] => some values
  | values, change :: changes => (change.apply values).bind fun next => replay next changes

/-- The requested values that differ from the previous ones. -/
def changeSet (previous : Field → Value) (requested : List (Field × Value)) :
    List (FieldChange Field Value) :=
  requested.filterMap fun entry =>
    if previous entry.1 = entry.2 then none else some ⟨entry.1, previous entry.1, entry.2⟩

variable {values final : Field → Value} {changes more : List (FieldChange Field Value)}

theorem replay_append : replay values (changes ++ more) =
    (replay values changes).bind fun next => replay next more := by
  induction changes generalizing values with
  | nil => rfl
  | cons change changes ih =>
    simp only [List.cons_append, replay, Option.bind_assoc]
    congr 1
    funext next
    exact ih

theorem replay_isSome (distinct : (changes.map FieldChange.field).Nodup) :
    (replay values changes).isSome = true ↔
      ∀ change ∈ changes, values change.field = change.old := by
  induction changes generalizing values with
  | nil => simp [replay]
  | cons change changes ih =>
    rw [List.map_cons, List.nodup_cons] at distinct
    by_cases current : values change.field = change.old
    · have others : ∀ other ∈ changes, other.field ≠ change.field := fun other inside same =>
        distinct.1 (List.mem_map.mpr ⟨other, inside, same⟩)
      rw [replay, FieldChange.apply, if_pos current, Option.bind_some, ih distinct.2,
        List.forall_mem_cons, and_iff_right current]
      refine forall₂_congr fun other inside => ?_
      rw [Function.update_of_ne (others other inside)]
    · rw [replay, FieldChange.apply, if_neg current, Option.bind_none]
      refine iff_of_false (by simp) fun all => current (all change List.mem_cons_self)

theorem replay_values (distinct : (changes.map FieldChange.field).Nodup)
    (replayed : replay values changes = some final) :
    (∀ change ∈ changes, final change.field = change.new) ∧
      ∀ field, field ∉ changes.map FieldChange.field → final field = values field := by
  induction changes generalizing values with
  | nil =>
    cases replayed
    simp
  | cons change changes ih =>
    rw [List.map_cons, List.nodup_cons] at distinct
    rw [replay, Option.bind_eq_some_iff] at replayed
    obtain ⟨next, applied, rest⟩ := replayed
    obtain ⟨news, olds⟩ := ih distinct.2 rest
    unfold FieldChange.apply at applied
    split at applied
    · cases applied
      constructor
      · rw [List.forall_mem_cons, olds change.field distinct.1, Function.update_self]
        exact ⟨rfl, news⟩
      · intro field outside
        rw [List.map_cons, List.mem_cons, not_or] at outside
        rw [olds field outside.2, Function.update_of_ne outside.1]
    · cases applied

omit [DecidableEq Field] in
theorem mem_changeSet {previous : Field → Value} {requested : List (Field × Value)}
    {change : FieldChange Field Value} : change ∈ changeSet previous requested ↔
      (change.field, change.new) ∈ requested ∧ change.old = previous change.field ∧
        change.old ≠ change.new := by
  simp only [changeSet, List.mem_filterMap]
  constructor
  · rintro ⟨⟨field, new⟩, inside, made⟩
    split at made
    · cases made
    · next differs =>
      cases made
      exact ⟨inside, rfl, differs⟩
  · rintro ⟨inside, old, differs⟩
    refine ⟨(change.field, change.new), inside, ?_⟩
    rw [old] at differs
    rw [if_neg differs, ← old]

omit [DecidableEq Field] in
theorem changeSet_distinct {previous : Field → Value} {requested : List (Field × Value)}
    (distinct : (requested.map Prod.fst).Nodup) :
    ((changeSet previous requested).map FieldChange.field).Nodup := by
  refine distinct.sublist ?_
  induction requested with
  | nil => exact .slnil
  | cons entry requested ih =>
    have tail := ih (List.nodup_cons.mp distinct).2
    rw [changeSet, List.filterMap_cons]
    by_cases same : previous entry.1 = entry.2
    · rw [if_pos same]
      exact tail.cons _
    · rw [if_neg same]
      exact tail.cons_cons _

/-- Writing the requested values that differ from the loaded ones replays the change set, on values
that have not moved away from the loaded ones where these are changed. -/
theorem replay_changeSet {loaded current written : Field → Value} {requested : List (Field × Value)}
    (distinct : (requested.map Prod.fst).Nodup)
    (still : ∀ entry ∈ requested, loaded entry.1 ≠ entry.2 → current entry.1 = loaded entry.1)
    (asked : ∀ entry ∈ requested,
      written entry.1 = if loaded entry.1 = entry.2 then current entry.1 else entry.2)
    (others : ∀ field, field ∉ requested.map Prod.fst → written field = current field) :
    replay current (changeSet loaded requested) = some written := by
  have fields : ((changeSet loaded requested).map FieldChange.field).Nodup := changeSet_distinct distinct
  have replayable : (replay current (changeSet loaded requested)).isSome = true := by
    rw [replay_isSome fields]
    intro change inside
    obtain ⟨member, old, differs⟩ := mem_changeSet.mp inside
    rw [old] at differs ⊢
    exact still _ member differs
  obtain ⟨final, replayed⟩ := Option.isSome_iff_exists.mp replayable
  obtain ⟨news, olds⟩ := replay_values fields replayed
  rw [replayed, Option.some.injEq]
  funext field
  by_cases requests : field ∈ requested.map Prod.fst
  · obtain ⟨⟨field, new⟩, member, rfl⟩ := List.mem_map.mp requests
    rw [asked _ member]
    by_cases same : loaded field = new
    · rw [if_pos same]
      refine olds field fun changed => ?_
      obtain ⟨change, inside, at_field⟩ := List.mem_map.mp changed
      obtain ⟨asks, old, differs⟩ := mem_changeSet.mp inside
      have one : (change.field, change.new) = (field, new) :=
        List.inj_on_of_nodup_map distinct asks member at_field
      rw [Prod.mk.injEq] at one
      exact differs (by rw [old, one.1, one.2, same])
    · rw [if_neg same]
      exact news ⟨field, loaded field, new⟩ (mem_changeSet.mpr ⟨member, rfl, same⟩)
  · rw [others field requests]
    refine olds field fun changed => ?_
    obtain ⟨change, inside, at_field⟩ := List.mem_map.mp changed
    exact requests (List.mem_map.mpr ⟨_, (mem_changeSet.mp inside).1, at_field⟩)

theorem replay_changeSet_none {loaded current : Field → Value} {requested : List (Field × Value)}
    (distinct : (requested.map Prod.fst).Nodup) {entry : Field × Value} (member : entry ∈ requested)
    (differs : loaded entry.1 ≠ entry.2) (moved : current entry.1 ≠ loaded entry.1) :
    replay current (changeSet loaded requested) = none := by
  rw [← Option.not_isSome_iff_eq_none, replay_isSome (changeSet_distinct distinct)]
  intro all
  exact moved (all ⟨entry.1, loaded entry.1, entry.2⟩ (mem_changeSet.mpr ⟨member, rfl, differs⟩))

end CareerProjects.Library
