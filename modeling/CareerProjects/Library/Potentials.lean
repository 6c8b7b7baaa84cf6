import Mathlib.Algebra.BigOperators.Group.List.Basic
import Mathlib.Data.Int.Basic
import Mathlib.Data.List.Nodup
import Mathlib.Logic.Function.Basic
import Mathlib.Tactic.Ring

/-! Quantities of a table: each row has its share, and a write changes the quantity by what it changes on the rows
it rewrites. -/

namespace CareerProjects.Library

variable {α : Type*} (f : α → ℤ) (touched p : α → Bool) (write : α → α) (rows : List α)

theorem sum_rewritten : ((rows.map fun row => if touched row then write row else row).map f).sum =
    (rows.map f).sum + ((rows.filter touched).map fun row => f (write row) - f row).sum := by
  induction rows with
  | nil => rfl
  | cons row rows ih =>
    simp only [List.map_cons, List.sum_cons, ih]
    by_cases touch : touched row = true
    · rw [if_pos touch, List.filter_cons_of_pos touch, List.map_cons, List.sum_cons]
      ring
    · rw [if_neg touch, List.filter_cons_of_neg touch]
      ring

theorem sum_indicator : (rows.map fun row => if p row then (1 : ℤ) else 0).sum = rows.countP p := by
  induction rows with
  | nil => rfl
  | cons row rows ih =>
    rw [List.map_cons, List.sum_cons, ih, List.countP_cons]
    by_cases holds : p row = true
    · simp [holds, add_comm]
    · simp [holds]

/-- Counting where a function has been changed in one place. -/
theorem countP_update {ι β : Type*} [DecidableEq ι] (q : β → Bool) (g : ι → β) (b : β) {i : ι} {l : List ι}
    (distinct : l.Nodup) (member : i ∈ l) :
    l.countP (fun j => q (Function.update g i b j)) + (q (g i)).toNat = l.countP (fun j => q (g j)) + (q b).toNat := by
  have one : ∀ c : Bool, (if c = true then 1 else 0) = c.toNat := by decide
  induction l with
  | nil => cases member
  | cons j l ih =>
    obtain ⟨absent, rest⟩ := List.nodup_cons.mp distinct
    rw [List.countP_cons, List.countP_cons, one, one]
    by_cases here : j = i
    · subst here
      have others : l.countP (fun k => q (Function.update g j b k)) = l.countP fun k => q (g k) := by
        refine List.countP_congr fun k inside => ?_
        rw [Function.update_of_ne (ne_of_mem_of_not_mem inside absent)]
      rw [others, Function.update_self]
      omega
    · have later := ih rest ((List.mem_cons.mp member).resolve_left (Ne.symm here))
      rw [Function.update_of_ne here]
      omega

end CareerProjects.Library
