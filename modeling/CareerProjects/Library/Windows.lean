import Mathlib.Algebra.Order.Group.Defs
import Mathlib.Data.List.TakeWhile
import Mathlib.Data.List.Basic
import Mathlib.Tactic.Abel
import Mathlib.Tactic.Linarith

/-! Times in order, and how many of them lie in a window that ends at some time. -/

namespace CareerProjects.Library

section Bounds

variable {α : Type*} [LinearOrder α]

theorem dropWhile_eq_filter {times : List α} (ordered : times.Pairwise (· ≤ ·)) (bound : α) :
    times.dropWhile (· ≤ bound) = times.filter (bound < ·) := by
  induction times with
  | nil => rfl
  | cons t times ih =>
    rw [List.pairwise_cons] at ordered
    by_cases old : t ≤ bound
    · rw [List.dropWhile_cons_of_pos (by simpa using old), ih ordered.2, List.filter_cons_of_neg (by simpa using old)]
    · have all : ∀ later ∈ t :: times, bound < later := by
        rw [List.forall_mem_cons]
        exact ⟨not_le.mp old, fun later member => lt_of_lt_of_le (not_le.mp old) (ordered.1 later member)⟩
      rw [List.dropWhile_cons_of_neg (by simpa using old), List.filter_eq_self.mpr (by simpa using all)]

end Bounds

section Windows

variable {α : Type*} [AddCommGroup α] [LinearOrder α] {width now t : α} {times : List α} {limit : ℕ}

/-- The times in the window that ends at a time; its start is not in it. -/
def window (width now : α) (times : List α) : List α := times.filter fun t => now - width < t ∧ t ≤ now

theorem window_snoc : window width now (times ++ [t]) =
    window width now times ++ if now - width < t ∧ t ≤ now then [t] else [] := by
  rw [window, List.filter_append, List.filter_singleton]
  by_cases inside : now - width < t ∧ t ≤ now <;> simp [inside, window]

theorem window_of_le (past : ∀ other ∈ times, other ≤ now) :
    window width now times = times.filter (now - width < ·) := by
  refine List.filter_congr fun other member => ?_
  simp [past other member]

variable [IsOrderedAddMonoid α]

theorem filter_window {later : α} (past : ∀ other ∈ times, other ≤ now) (order : now ≤ later) :
    (window width now times).filter (later - width < ·) = window width later times := by
  rw [window_of_le past, window_of_le fun other member => (past other member).trans order, List.filter_filter]
  refine List.filter_congr fun other _ => ?_
  have earlier : now - width ≤ later - width := sub_le_sub_right order width
  by_cases inside : later - width < other
  · simp [inside, lt_of_le_of_lt earlier inside]
  · simp [inside]

theorem window_snoc_le (past : ∀ other ∈ times, other ≤ t) (free : (window width t times).length < limit)
    (bounded : ∀ now, (window width now times).length ≤ limit) (now : α) :
    (window width now (times ++ [t])).length ≤ limit := by
  rw [window_snoc, List.length_append]
  by_cases inside : now - width < t ∧ t ≤ now
  · have fewer : (window width now times).length ≤ (window width t times).length := by
      rw [← filter_window past inside.2]
      exact List.length_filter_le _ _
    rw [if_pos inside, List.length_singleton]
    omega
  · rw [if_neg inside, List.length_nil]
    exact bounded now

end Windows

end CareerProjects.Library
