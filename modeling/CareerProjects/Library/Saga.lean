import Mathlib.Data.List.Basic

/-! Sagas: a list of remote actions that cannot share one transaction. The actions run
in turn until one fails; if one does, or the local commit fails after all of them, the
completed ones are undone, best effort. A call can fail after it took effect, and the
caller cannot tell. -/

namespace CareerProjects.Library

variable {α σ ε : Type*}

/-- Run the action on each item and stop at the first failure. Returns the outcome and
the items whose call succeeded. -/
def attemptEach (act : α → σ → Except ε Unit × σ) : List α → σ → Except ε Unit × List α × σ
  | [], s => (.ok (), [], s)
  | item :: rest, s =>
    match act item s with
    | (.error error, s') => (.error error, [], s')
    | (.ok _, s') =>
      let tail := attemptEach act rest s'
      (tail.1, item :: tail.2.1, tail.2.2)

def compensateEach (undo : α → σ → Except ε Unit × σ) : List α → σ → List (α × ε) × σ
  | [], s => ([], s)
  | item :: rest, s =>
    match undo item s with
    | (.error error, s') =>
      let tail := compensateEach undo rest s'
      ((item, error) :: tail.1, tail.2)
    | (.ok _, s') => compensateEach undo rest s'

inductive SagaResult (α ε : Type*)
  | completed
  | undone (error : ε)
  | stuck (failures : List (α × ε))

def undoCompleted (undo : α → σ → Except ε Unit × σ) (undoOrder : List α → List α)
    (error : ε) (done : List α) (s : σ) : SagaResult α ε × σ :=
  match compensateEach undo (undoOrder done) s with
  | ([], s') => (.undone error, s')
  | (failures, s') => (.stuck failures, s')

def saga (act undo : α → σ → Except ε Unit × σ) (undoOrder : List α → List α)
    (commit : Except ε Unit) (items : List α) (s : σ) : SagaResult α ε × σ :=
  match attemptEach act items s with
  | (.error error, done, s') => undoCompleted undo undoOrder error done s'
  | (.ok _, done, s') =>
    match commit with
    | .error error => undoCompleted undo undoOrder error done s'
    | .ok _ => (.completed, s')

/-- How the calls of a saga behave. `applied s item` says that the effect of the item is
in force; an action on an item not in force succeeds, or leaks its effect although it is
reported as failed, or does nothing. -/
structure SagaLaws (act undo : α → σ → Except ε Unit × σ) (items : List α)
    (Good : σ → Prop) (applied : σ → α → Prop) (succeeds leaks undoes : α → Prop) : Prop where
  act_good : ∀ item ∈ items, ∀ s, Good s → ¬ applied s item → Good (act item s).2
  act_ok : ∀ item ∈ items, ∀ s, Good s → ¬ applied s item →
    ((act item s).1 = .ok () ↔ succeeds item)
  act_applied : ∀ item ∈ items, ∀ s, Good s → ¬ applied s item → ∀ other ∈ items,
    (applied (act item s).2 other ↔ applied s other ∨ other = item ∧ (succeeds item ∨ leaks item))
  undo_good : ∀ item ∈ items, ∀ s, Good s → applied s item → Good (undo item s).2
  undo_ok : ∀ item ∈ items, ∀ s, Good s → applied s item →
    ((undo item s).1 = .ok () ↔ undoes item)
  undo_applied : ∀ item ∈ items, ∀ s, Good s → applied s item → ∀ other ∈ items,
    other ≠ item ∨ undoes item →
      (applied (undo item s).2 other ↔ applied s other ∧ other ≠ item)

namespace SagaLaws

variable {act undo : α → σ → Except ε Unit × σ} {items : List α} {Good : σ → Prop}
  {applied : σ → α → Prop} {succeeds leaks undoes : α → Prop}

theorem attempt (laws : SagaLaws act undo items Good applied succeeds leaks undoes)
    {todo : List α} (sub : ∀ item ∈ todo, item ∈ items) (nodup : todo.Nodup) {s : σ} (good : Good s)
    (fresh : ∀ item ∈ todo, ¬ applied s item) :
    Good (attemptEach act todo s).2.2 ∧
    (((attemptEach act todo s).1 = .ok () ∧ (attemptEach act todo s).2.1 = todo ∧
        (∀ item ∈ todo, succeeds item) ∧
        ∀ other ∈ items, applied (attemptEach act todo s).2.2 other ↔
          applied s other ∨ other ∈ todo) ∨
      ∃ error failed rest, (attemptEach act todo s).1 = .error error ∧
        todo = (attemptEach act todo s).2.1 ++ failed :: rest ∧
        (∀ item ∈ (attemptEach act todo s).2.1, succeeds item) ∧ ¬ succeeds failed ∧
        ∀ other ∈ items, applied (attemptEach act todo s).2.2 other ↔
          applied s other ∨ other ∈ (attemptEach act todo s).2.1 ∨
            other = failed ∧ leaks failed) := by
  induction todo generalizing s with
  | nil => exact ⟨good, .inl ⟨rfl, rfl, by simp, by simp [attemptEach]⟩⟩
  | cons item todo ih =>
    have member := sub item List.mem_cons_self
    have untouched := fresh item List.mem_cons_self
    have ok := laws.act_ok item member s good untouched
    have good' := laws.act_good item member s good untouched
    have effect := laws.act_applied item member s good untouched
    rw [List.nodup_cons] at nodup
    cases call : act item s with
    | mk result s' =>
      rw [call] at ok good' effect
      cases result with
      | error error =>
        have failed : ¬ succeeds item := fun success => by simpa using ok.mpr success
        simp only [attemptEach, call]
        refine ⟨good', .inr ⟨error, item, todo, rfl, rfl, by simp, failed, fun other known => ?_⟩⟩
        simp [effect other known, failed]
      | ok =>
        have success : succeeds item := ok.mp rfl
        have later : ∀ other ∈ todo, ¬ applied s' other := by
          intro other waits
          have known := sub other (List.mem_cons_of_mem _ waits)
          have different : other ≠ item := fun same => nodup.1 (same ▸ waits)
          simp [effect other known, different, fresh other (List.mem_cons_of_mem _ waits)]
        obtain ⟨final, tail⟩ := ih (fun other waits => sub other (List.mem_cons_of_mem _ waits))
          nodup.2 good' later
        simp only [attemptEach, call]
        refine ⟨final, ?_⟩
        rcases tail with ⟨all, done, succeeded, result⟩ | ⟨error, failed, rest, stops, split,
          succeeded, fails, result⟩
        · refine .inl ⟨all, by rw [done], by simpa [success] using succeeded, ?_⟩
          intro other known
          rw [result other known, effect other known, List.mem_cons]
          simp [success, or_assoc]
        · refine .inr ⟨error, failed, rest, stops, by rw [List.cons_append, ← split],
            by simpa [success] using succeeded, fails, fun other known => ?_⟩
          rw [result other known, effect other known, List.mem_cons]
          simp [success, or_assoc]

theorem compensate (laws : SagaLaws act undo items Good applied succeeds leaks undoes)
    {done : List α} (sub : ∀ item ∈ done, item ∈ items) (nodup : done.Nodup) {s : σ}
    (good : Good s) (active : ∀ item ∈ done, applied s item) :
    Good (compensateEach undo done s).2 ∧
    ((compensateEach undo done s).1 = [] ↔ ∀ item ∈ done, undoes item) ∧
    ((∀ item ∈ done, undoes item) → ∀ other ∈ items,
      (applied (compensateEach undo done s).2 other ↔ applied s other ∧ other ∉ done)) := by
  induction done generalizing s with
  | nil => exact ⟨good, by simp [compensateEach], by simp [compensateEach]⟩
  | cons item done ih =>
    have member := sub item List.mem_cons_self
    have inForce := active item List.mem_cons_self
    have ok := laws.undo_ok item member s good inForce
    have good' := laws.undo_good item member s good inForce
    have effect := laws.undo_applied item member s good inForce
    rw [List.nodup_cons] at nodup
    have later : ∀ other ∈ done, applied (undo item s).2 other := by
      intro other waits
      have known := sub other (List.mem_cons_of_mem _ waits)
      have different : other ≠ item := fun same => nodup.1 (same ▸ waits)
      rw [effect other known (.inl different)]
      exact ⟨active other (List.mem_cons_of_mem _ waits), different⟩
    obtain ⟨final, failures, result⟩ := ih
      (fun other waits => sub other (List.mem_cons_of_mem _ waits)) nodup.2 good' later
    cases call : undo item s with
    | mk outcome s' =>
      rw [call] at ok effect final failures result
      cases outcome with
      | error error =>
        have fails : ¬ undoes item := fun undone => by simpa using ok.mpr undone
        simp only [compensateEach, call]
        exact ⟨final, by simp [fails], fun undone => absurd (undone item List.mem_cons_self) fails⟩
      | ok =>
        have undone : undoes item := ok.mp rfl
        simp only [compensateEach, call]
        refine ⟨final, by simpa [undone] using failures, fun all other known => ?_⟩
        rw [result (fun waiting waits => all waiting (List.mem_cons_of_mem _ waits)) other known,
          effect other known (.inr undone), List.mem_cons, not_or, and_assoc]

/-- The one way in which a saga leaves an effect behind without noticing: the calls
before it succeed, it takes effect but is reported as failed, and every one of the
others is undone. -/
def Leak (succeeds leaks undoes : α → Prop) (items : List α) : Prop :=
  ∃ done failed rest, items = done ++ failed :: rest ∧
    (∀ item ∈ done, succeeds item ∧ undoes item) ∧ ¬ succeeds failed ∧ leaks failed

def Consistent (applied : σ → α → Prop) (items : List α) (result : SagaResult α ε) (s : σ) :
    Prop :=
  match result with
  | .completed => ∀ item ∈ items, applied s item
  | .undone _ => ∀ item ∈ items, ¬ applied s item
  | .stuck _ => True

theorem first_failure {done more : List α} {failed other : α} {rest tail : List α}
    (split : done ++ failed :: rest = more ++ other :: tail)
    (succeeded : ∀ item ∈ done, succeeds item) (fails : ¬ succeeds failed)
    (succeeded' : ∀ item ∈ more, succeeds item) (fails' : ¬ succeeds other) :
    done = more ∧ failed = other := by
  induction done generalizing more with
  | nil =>
    cases more with
    | nil => exact ⟨rfl, (List.cons.inj split).1⟩
    | cons first more =>
      have same : failed = first := (List.cons.inj split).1
      exact absurd (same ▸ succeeded' first List.mem_cons_self) fails
  | cons first done ih =>
    cases more with
    | nil =>
      have same : first = other := (List.cons.inj split).1
      exact absurd (same ▸ succeeded first List.mem_cons_self) fails'
    | cons second more =>
      obtain ⟨same, split⟩ := List.cons.inj split
      obtain ⟨equal, last⟩ := ih split (fun item member => succeeded item (.tail _ member))
        fun item member => succeeded' item (.tail _ member)
      exact ⟨by rw [same, equal], last⟩

theorem undoCompleted_spec (laws : SagaLaws act undo items Good applied succeeds leaks undoes)
    {undoOrder : List α → List α} (permutes : ∀ list, (undoOrder list).Perm list)
    {done : List α} (sub : ∀ item ∈ done, item ∈ items) (nodup : done.Nodup) {s : σ}
    (good : Good s) (active : ∀ item ∈ done, applied s item) (error : ε) :
    Good (undoCompleted undo undoOrder error done s).2 ∧
    ((∃ failures, (undoCompleted undo undoOrder error done s).1 = .stuck failures) ∧
        (∃ item ∈ done, ¬ undoes item) ∨
      (undoCompleted undo undoOrder error done s).1 = .undone error ∧
        (∀ item ∈ done, undoes item) ∧ ∀ other ∈ items,
          (applied (undoCompleted undo undoOrder error done s).2 other ↔
            applied s other ∧ other ∉ done)) := by
  have order := permutes done
  obtain ⟨final, failures, result⟩ := laws.compensate
    (fun item member => sub item (order.mem_iff.mp member)) (order.nodup_iff.mpr nodup) good
    (fun item member => active item (order.mem_iff.mp member))
  simp only [order.mem_iff] at failures result
  rw [undoCompleted]
  generalize compensateEach undo (undoOrder done) s = compensated at final failures result
  cases compensated with
  | mk list s' =>
    cases list with
    | nil => exact ⟨final, .inr ⟨rfl, failures.mp rfl, result (failures.mp rfl)⟩⟩
    | cons failure more =>
      refine ⟨final, .inl ⟨⟨_, rfl⟩, ?_⟩⟩
      by_contra all
      have none_failed := failures.mpr (by simpa using all)
      simp at none_failed

theorem saga_consistent (laws : SagaLaws act undo items Good applied succeeds leaks undoes)
    (undoOrder : List α → List α) (permutes : ∀ list, (undoOrder list).Perm list)
    (nodup : items.Nodup) {s : σ} (good : Good s) (fresh : ∀ item ∈ items, ¬ applied s item)
    (commit : Except ε Unit) :
    Good (saga act undo undoOrder commit items s).2 ∧
      (Consistent applied items (saga act undo undoOrder commit items s).1
          (saga act undo undoOrder commit items s).2 ↔
        ¬ Leak succeeds leaks undoes items) := by
  obtain ⟨good', outcome⟩ := laws.attempt (fun _ member => member) nodup good fresh
  rw [saga]
  generalize attemptEach act items s = attempted at good' outcome
  obtain ⟨result, done, s'⟩ := attempted
  rcases outcome with ⟨rfl, rfl, succeeded, effects⟩ | ⟨error, failed, rest, rfl, split,
    succeeded, fails, effects⟩
  · -- every call succeeded, so none leaked
    have tight : ¬ Leak succeeds leaks undoes done := by
      rintro ⟨front, failed, rest, split, -, fails, -⟩
      exact fails (succeeded failed (by rw [split]; simp))
    have active : ∀ item ∈ done, applied s' item :=
      fun item member => (effects item member).mpr (.inr member)
    simp only [tight, not_false_eq_true, iff_true]
    cases commit with
    | ok => exact ⟨good', active⟩
    | error error =>
      obtain ⟨final, ⟨⟨failures, stuck⟩, -⟩ | ⟨undone, -, result⟩⟩ :=
        laws.undoCompleted_spec permutes (fun _ member => member) nodup good' active error
      · exact ⟨final, by rw [stuck]; trivial⟩
      · refine ⟨final, ?_⟩
        rw [undone]
        intro item member
        simp [result item member, member]
  · have sub : ∀ item ∈ done, item ∈ items := by
      intro item member
      rw [split]
      exact List.mem_append_left _ member
    have parts := nodup
    rw [split, List.nodup_append] at parts
    have active : ∀ item ∈ done, applied s' item :=
      fun item member => (effects item (sub item member)).mpr (.inr (.inl member))
    obtain ⟨final, ⟨⟨failures, stuck⟩, item, member, remains⟩ | ⟨undone, all, result⟩⟩ :=
      laws.undoCompleted_spec permutes sub parts.1 good' active error
    · refine ⟨final, ?_⟩
      have tight : ¬ Leak succeeds leaks undoes items := by
        rintro ⟨front, other, tail, split', succeeded', fails', -⟩
        obtain ⟨rfl, -⟩ := first_failure (split.symm.trans split') succeeded fails
          (fun item member => (succeeded' item member).1) fails'
        exact remains (succeeded' item member).2
      simp only [tight, not_false_eq_true, iff_true]
      rw [stuck]
      trivial
    · refine ⟨final, ?_⟩
      have absent : failed ∉ done := fun member => parts.2.2 failed member failed (by simp) rfl
      have known : failed ∈ items := by rw [split]; simp
      rw [undone]
      constructor
      · rintro none ⟨front, other, tail, split', succeeded', fails', leaked⟩
        obtain ⟨rfl, rfl⟩ := first_failure (split.symm.trans split') succeeded fails
          (fun item member => (succeeded' item member).1) fails'
        refine none failed known ((result failed known).mpr ⟨?_, absent⟩)
        exact (effects failed known).mpr (.inr (.inr ⟨rfl, leaked⟩))
      · intro tight item member active'
        obtain ⟨inForce, kept⟩ := (result item member).mp active'
        rcases (effects item member).mp inForce with before | doneHere | ⟨rfl, leaked⟩
        · exact fresh item member before
        · exact kept doneHere
        · exact tight ⟨done, item, rest, split,
            fun other here => ⟨succeeded other here, all other here⟩, fails, leaked⟩

theorem saga_completed (laws : SagaLaws act undo items Good applied succeeds leaks undoes)
    (undoOrder : List α → List α) (nodup : items.Nodup) {s : σ} (good : Good s) (fresh : ∀ item ∈ items, ¬ applied s item)
    (commit : Except ε Unit) :
    (saga act undo undoOrder commit items s).1 = .completed ↔
      commit = .ok () ∧ ∀ item ∈ items, succeeds item := by
  obtain ⟨good', outcome⟩ := laws.attempt (fun _ member => member) nodup good fresh
  rw [saga]
  generalize attemptEach act items s = attempted at good' outcome
  obtain ⟨result, done, s'⟩ := attempted
  have incomplete : ∀ error done s, (undoCompleted undo undoOrder error done s).1 ≠
      SagaResult.completed := by
    intro error done s
    rw [undoCompleted]
    split <;> simp
  rcases outcome with ⟨rfl, rfl, succeeded, -⟩ | ⟨error, failed, rest, rfl, split, -, fails, -⟩
  · cases commit with
    | ok => simpa using succeeded
    | error error => simp [incomplete]
  · simp only [incomplete, false_iff, not_and]
    intro _ all
    exact fails (all failed (by rw [split]; simp))

theorem completed_tight (laws : SagaLaws act undo items Good applied succeeds leaks undoes)
    {undoOrder : List α → List α} (nodup : items.Nodup) {s : σ} (good : Good s)
    (fresh : ∀ item ∈ items, ¬ applied s item) {commit : Except ε Unit}
    (completed : (saga act undo undoOrder commit items s).1 = .completed) :
    ¬ Leak succeeds leaks undoes items := by
  have all := ((laws.saga_completed undoOrder nodup good fresh commit).mp completed).2
  rintro ⟨done, failed, rest, split, -, fails, -⟩
  exact fails (all failed (by rw [split]; simp))

end SagaLaws

theorem saga_completed_state {act undo : α → σ → Except ε Unit × σ} {undoOrder : List α → List α}
    {commit : Except ε Unit} {items : List α} {s : σ}
    (h : (saga act undo undoOrder commit items s).1 = .completed) :
    (attemptEach act items s).1 = .ok () ∧
      (saga act undo undoOrder commit items s).2 = (attemptEach act items s).2.2 := by
  have incomplete : ∀ error done s, (undoCompleted undo undoOrder error done s).1 ≠
      SagaResult.completed := by
    intro error done s
    rw [undoCompleted]
    split <;> simp
  rw [saga] at h ⊢
  generalize attemptEach act items s = attempted at h ⊢
  obtain ⟨result, done, s'⟩ := attempted
  cases result with
  | error error => exact absurd h (incomplete error done s')
  | ok =>
    cases commit with
    | error error => exact absurd h (incomplete error done s')
    | ok => exact ⟨rfl, rfl⟩

theorem attemptEach_history {β : Type*} {act : α → σ → Except ε Unit × σ}
    {history : σ → List β} {entry : α → β} {items : List α}
    (each : ∀ item ∈ items, ∀ s, (act item s).1 = .ok () →
      history (act item s).2 = history s ++ [entry item])
    {s : σ} (ok : (attemptEach act items s).1 = .ok ()) :
    history (attemptEach act items s).2.2 = history s ++ items.map entry := by
  induction items generalizing s with
  | nil => simp [attemptEach]
  | cons item rest ih =>
    have first := each item List.mem_cons_self s
    cases call : act item s with
    | mk result s' =>
      rw [call] at first
      cases result with
      | error error => simp [attemptEach, call] at ok
      | ok =>
        simp only [attemptEach, call] at ok ⊢
        rw [ih (fun other member => each other (.tail _ member)) ok, first rfl]
        simp

end CareerProjects.Library
