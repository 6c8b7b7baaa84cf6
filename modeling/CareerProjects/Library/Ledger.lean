import Mathlib.Algebra.BigOperators.Finprod
import Mathlib.Algebra.BigOperators.Group.List.Basic
import Mathlib.Data.List.Induction

/-! Sums over an append-only history. An entry carries a delta; a balance is the sum
of the deltas of the entries that a test selects, and an entry may also record the
balance of its own account as it was right after the entry. -/

namespace CareerProjects.Library

variable {ε κ ρ M : Type*}

section sumWhere

variable [AddCommMonoid M]

/-- The sum of the deltas of the selected entries. -/
def sumWhere (selects : ε → Bool) (delta : ε → M) (entries : List ε) : M :=
  ((entries.filter selects).map delta).sum

variable {selects : ε → Bool} {delta : ε → M} {entries : List ε}

@[simp] theorem sumWhere_nil : sumWhere selects delta [] = 0 := rfl

theorem sumWhere_cons (entry : ε) : sumWhere selects delta (entry :: entries) =
    (if selects entry then delta entry else 0) + sumWhere selects delta entries := by
  by_cases h : selects entry = true
  · simp [sumWhere, h]
  · simp [sumWhere, h]

theorem sumWhere_append (more : List ε) : sumWhere selects delta (entries ++ more) =
    sumWhere selects delta entries + sumWhere selects delta more := by
  simp [sumWhere]

theorem sumWhere_filter {keep : ε → Bool} (kept : ∀ entry, selects entry = true → keep entry = true) :
    sumWhere selects delta (entries.filter keep) = sumWhere selects delta entries := by
  have same : (entries.filter keep).filter selects = entries.filter selects := by
    rw [List.filter_filter]
    refine List.filter_congr fun entry _ => ?_
    cases chosen : selects entry with
    | false => rfl
    | true => simp [kept entry chosen]
  rw [sumWhere, same, sumWhere]

theorem sumWhere_eq_zero (h : ∀ entry ∈ entries, selects entry = true → delta entry = 0) :
    sumWhere selects delta entries = 0 := by
  refine List.sum_eq_zero fun value member => ?_
  obtain ⟨entry, kept, rfl⟩ := List.mem_map.mp member
  obtain ⟨present, chosen⟩ := List.mem_filter.mp kept
  exact h entry present chosen

theorem sumWhere_eq_finsum [DecidableEq ρ] (selects : ε → Bool) (delta : ε → M)
    (entries : List ε) (classOf : ε → Option ρ)
    (classified : ∀ entry ∈ entries, selects entry = true → classOf entry ≠ none) :
    (Function.support fun r =>
      sumWhere (fun entry => selects entry && classOf entry == some r) delta entries).Finite ∧
    sumWhere selects delta entries = finsum fun r =>
      sumWhere (fun entry => selects entry && classOf entry == some r) delta entries := by
  induction entries with
  | nil => simp
  | cons entry entries ih =>
    obtain ⟨finite, sum⟩ := ih fun other member => classified other (List.mem_cons_of_mem _ member)
    by_cases chosen : selects entry = true
    · obtain ⟨own, hown⟩ := Option.ne_none_iff_exists'.mp
        (classified entry List.mem_cons_self chosen)
      have single : ∀ r, r ≠ own → (if own = r then delta entry else 0) = 0 :=
        fun r other => if_neg (Ne.symm other)
      have finite' : (Function.support fun r => if own = r then delta entry else 0).Finite :=
        (Set.finite_singleton own).subset fun r hr => by
          by_contra other
          exact hr (single r other)
      simp only [sumWhere_cons, chosen, hown, Bool.true_and, beq_iff_eq, Option.some.injEq,
        if_true]
      refine ⟨(finite'.union finite).subset (Function.support_add _ _), ?_⟩
      rw [finsum_add_distrib finite' finite, finsum_eq_single _ own single, if_pos rfl, sum]
    · simp only [sumWhere_cons, chosen, Bool.false_and, Bool.false_eq_true, if_false, zero_add]
      exact ⟨finite, sum⟩

end sumWhere

section RunningTotals

variable [AddCommMonoid M] [DecidableEq κ]

/-- Each entry records the total of its account up to and including itself. -/
def RunningTotals (account : ε → κ) (delta after : ε → M) (entries : List ε) : Prop :=
  ∀ before entry rest, entries = before ++ entry :: rest →
    after entry = sumWhere (fun e => account e == account entry) delta (before ++ [entry])

variable {account : ε → κ} {delta after : ε → M} {entries : List ε}

theorem runningTotals_nil : RunningTotals account delta after [] := by
  intro before entry rest h
  simp at h

theorem RunningTotals.append_singleton (h : RunningTotals account delta after entries) (new : ε)
    (total : after new =
      sumWhere (fun e => account e == account new) delta entries + delta new) :
    RunningTotals account delta after (entries ++ [new]) := by
  intro before entry rest split
  cases rest using List.reverseRecOn with
  | nil =>
    obtain ⟨rfl, same⟩ := List.append_inj' split rfl
    obtain rfl : new = entry := by simpa using same
    rw [total, sumWhere_append]
    simp [sumWhere]
  | append_singleton rest last =>
    rw [← List.cons_append, ← List.append_assoc] at split
    obtain ⟨rfl, -⟩ := List.append_inj' split rfl
    exact h before entry rest rfl

theorem RunningTotals.filter (h : RunningTotals account delta after entries) (keep : κ → Bool) :
    RunningTotals account delta after (entries.filter fun entry => keep (account entry)) := by
  intro before entry rest split
  obtain ⟨front, back, rfl, rfl, later⟩ := List.filter_eq_append_iff.mp split
  obtain ⟨erased, tail, rfl, gone, stays, -⟩ := List.filter_eq_cons_iff.mp later
  have total := h (front ++ erased) entry tail (by rw [List.append_assoc])
  have none : erased.filter (fun entry => keep (account entry)) = [] := by
    simpa using gone
  have kept : (front.filter fun entry => keep (account entry)) ++ [entry] =
      (front ++ erased ++ [entry]).filter fun entry => keep (account entry) := by
    rw [List.filter_append, List.filter_append, none, List.append_nil]
    simp [stays]
  rw [total, kept, sumWhere_filter]
  intro other same
  have equal : account other = account entry := by simpa using same
  rw [equal]
  exact stays

end RunningTotals

end CareerProjects.Library
