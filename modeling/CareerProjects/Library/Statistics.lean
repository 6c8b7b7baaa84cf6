import Mathlib.Algebra.Order.BigOperators.Group.List
import Mathlib.Algebra.Order.Field.Basic
import Mathlib.Algebra.Order.Ring.Rat
import Mathlib.Data.List.Nodup
import Mathlib.Data.List.Sort
import Mathlib.Tactic.Linarith

/-! Order statistics of a list, by their ranks in it, and its mean. None of them depends on the order of
the list. -/

namespace CareerProjects.Library

section Ranks

variable {α : Type} [LinearOrder α] {samples others : List α} {value : α} {share : ℚ} {rank : ℕ}

/-- The sample of a rank, counted from the smallest. -/
def ranked (samples : List α) (rank : ℕ) : Option α := (samples.insertionSort (· ≤ ·))[rank]?

/-- A sample that at least the share of the samples do not exceed, and less than the share are below. -/
structure IsPercentile (share : ℚ) (samples : List α) (value : α) : Prop where
  member : value ∈ samples
  covered : share * samples.length ≤ samples.countP (· ≤ value)
  least : (samples.countP (· < value) : ℚ) < share * samples.length

theorem exists_ranked (inside : rank < samples.length) : ∃ value, ranked samples rank = some value := by
  have sorted : rank < (samples.insertionSort (· ≤ ·)).length := by
    rw [List.length_insertionSort]
    exact inside
  exact ⟨_, List.getElem?_eq_getElem sorted⟩

theorem ranked_perm (same : samples.Perm others) (rank : ℕ) : ranked samples rank = ranked others rank := by
  have sorted : samples.insertionSort (· ≤ ·) = others.insertionSort (· ≤ ·) := by
    have onto : (samples.insertionSort (· ≤ ·)).Perm others := (List.perm_insertionSort _ _).trans same
    have back := List.perm_insertionSort (· ≤ ·) others
    exact List.Perm.eq_of_pairwise' (List.pairwise_insertionSort _ _) (List.pairwise_insertionSort _ _)
      (onto.trans back.symm)
  rw [ranked, ranked, sorted]

/-- The samples in order: those up to the rank, the sample of the rank, and those after it. -/
theorem ranked_split (found : ranked samples rank = some value) : ∃ below above,
    samples.Perm (below ++ value :: above) ∧ below.length = rank ∧ (∀ other ∈ below, other ≤ value) ∧
      ∀ other ∈ above, value ≤ other := by
  obtain ⟨inside, rfl⟩ := List.getElem?_eq_some_iff.mp found
  have order := List.pairwise_insertionSort (· ≤ ·) samples
  have same := List.perm_insertionSort (· ≤ ·) samples
  generalize samples.insertionSort (· ≤ ·) = sorted at inside order same
  have parts : sorted = sorted.take rank ++ sorted[rank] :: sorted.drop (rank + 1) := by
    rw [List.getElem_cons_drop, List.take_append_drop]
  rw [parts, List.pairwise_append, List.pairwise_cons] at order
  refine ⟨sorted.take rank, sorted.drop (rank + 1), ?_, ?_, ?_, order.2.1.1⟩
  · rw [← parts]
    exact same.symm
  · rw [List.length_take]
    omega
  · exact fun other member => order.2.2 other member _ List.mem_cons_self

theorem ranked_mem (found : ranked samples rank = some value) : value ∈ samples := by
  obtain ⟨below, above, same, -⟩ := ranked_split found
  rw [same.mem_iff]
  simp

theorem rank_lt_countP (found : ranked samples rank = some value) :
    rank < samples.countP (· ≤ value) := by
  obtain ⟨below, above, same, length, before, -⟩ := ranked_split found
  have counted : below.countP (· ≤ value) = below.length := by
    simpa [List.countP_eq_length] using before
  rw [same.countP_eq, List.countP_append, List.countP_cons, counted, length]
  simp only [le_refl, decide_true, if_true]
  omega

theorem countP_le_rank (found : ranked samples rank = some value) :
    samples.countP (· < value) ≤ rank := by
  obtain ⟨below, above, same, length, -, after⟩ := ranked_split found
  have none : above.countP (· < value) = 0 := by
    simpa [List.countP_eq_zero] using after
  have some : below.countP (· < value) ≤ rank := length ▸ List.countP_le_length
  rw [same.countP_eq, List.countP_append, List.countP_cons, none]
  simpa using some

theorem isPercentile_of_ranked (found : ranked samples rank = some value)
    (reached : share * samples.length ≤ rank + 1) (first : rank < share * samples.length) :
    IsPercentile share samples value where
  member := ranked_mem found
  covered := by
    have count : ((rank + 1 : ℕ) : ℚ) ≤ samples.countP (· ≤ value) := by
      exact_mod_cast rank_lt_countP found
    push_cast at count
    linarith
  least := by
    have count : (samples.countP (· < value) : ℚ) ≤ rank := by
      exact_mod_cast countP_le_rank found
    linarith

theorem countP_of_nodup (found : ranked samples rank = some value) (distinct : samples.Nodup) :
    samples.countP (· ≤ value) = rank + 1 := by
  obtain ⟨below, above, same, length, before, after⟩ := ranked_split found
  have counted : below.countP (· ≤ value) = below.length := by
    simpa [List.countP_eq_length] using before
  have others : value ∉ above := by
    rw [same.nodup_iff, List.nodup_append, List.nodup_cons] at distinct
    exact distinct.2.1.1
  have none : above.countP (· ≤ value) = 0 := by
    refine List.countP_eq_zero.mpr fun other member small => others ?_
    rw [le_antisymm (after other member) (of_decide_eq_true small)]
    exact member
  rw [same.countP_eq, List.countP_append, List.countP_cons, counted, none, length]
  simp

theorem min?_perm (same : samples.Perm others) : samples.min? = others.min? := by
  cases least : samples.min? with
  | none =>
    rw [List.min?_eq_none_iff.mp least, List.nil_perm] at same
    rw [same, List.min?_nil]
  | some value =>
    have smallest := List.min?_eq_some_iff.mp least
    symm
    refine List.min?_eq_some_iff.mpr ⟨same.mem_iff.mp smallest.1, fun other member => ?_⟩
    exact smallest.2 other (same.mem_iff.mpr member)

theorem max?_perm (same : samples.Perm others) : samples.max? = others.max? := by
  cases most : samples.max? with
  | none =>
    rw [List.max?_eq_none_iff.mp most, List.nil_perm] at same
    rw [same, List.max?_nil]
  | some value =>
    have greatest := List.max?_eq_some_iff.mp most
    symm
    refine List.max?_eq_some_iff.mpr ⟨same.mem_iff.mp greatest.1, fun other member => ?_⟩
    exact greatest.2 other (same.mem_iff.mpr member)

end Ranks

section Mean

variable {samples others : List ℚ} {bound : ℚ}

def mean (samples : List ℚ) : ℚ := samples.sum / samples.length

theorem mean_perm (same : samples.Perm others) : mean samples = mean others := by
  rw [mean, mean, same.sum_eq, same.length_eq]

theorem le_mean (some : samples ≠ []) (below : ∀ sample ∈ samples, bound ≤ sample) :
    bound ≤ mean samples := by
  have positive : (0 : ℚ) < samples.length := by
    exact_mod_cast List.length_pos_iff.mpr some
  have total := List.card_nsmul_le_sum samples bound below
  rw [nsmul_eq_mul, mul_comm] at total
  rwa [mean, le_div_iff₀ positive]

theorem mean_le (some : samples ≠ []) (above : ∀ sample ∈ samples, sample ≤ bound) :
    mean samples ≤ bound := by
  have positive : (0 : ℚ) < samples.length := by
    exact_mod_cast List.length_pos_iff.mpr some
  have total := List.sum_le_card_nsmul samples bound above
  rw [nsmul_eq_mul, mul_comm] at total
  rwa [mean, div_le_iff₀ positive]

end Mean

end CareerProjects.Library
