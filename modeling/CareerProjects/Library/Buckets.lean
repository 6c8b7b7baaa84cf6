import Mathlib.Algebra.BigOperators.Group.List.Lemmas
import Mathlib.Data.List.Induction
import Mathlib.Data.List.Nodup
import Mathlib.Data.List.Sort
import Mathlib.Algebra.GroupWithZero.Nat

/-! A dict that keeps under each key the list of the values that have it. -/

namespace CareerProjects.Library

variable {α β γ δ : Type*} [DecidableEq β] {key : α → β} {values others : List α}

/-- The value goes to the end of the list of its key, which is a new one if there is none. -/
def appendTo (k : β) (value : α) : List (β × List α) → List (β × List α)
  | [] => [(k, [value])]
  | (other, bucket) :: rest =>
    if other = k then (other, bucket ++ [value]) :: rest else (other, bucket) :: appendTo k value rest

def buckets (key : α → β) (values : List α) : List (β × List α) :=
  values.foldl (fun dict value => appendTo (key value) value dict) []

theorem appendTo_map (k : β) (value : α) (content : β → List α) {keys : List β} (distinct : keys.Nodup) :
    appendTo k value (keys.map fun other => (other, content other)) =
      if k ∈ keys then keys.map fun other => (other, if other = k then content other ++ [value] else content other)
      else (keys.map fun other => (other, content other)) ++ [(k, [value])] := by
  induction keys with
  | nil => rfl
  | cons first keys ih =>
    rw [List.nodup_cons] at distinct
    by_cases here : first = k
    · have rest : ∀ other ∈ keys, other ≠ k := fun other member same => distinct.1 (here ▸ same ▸ member)
      have untouched : (keys.map fun other => (other, if other = k then content other ++ [value] else content other)) =
          keys.map fun other => (other, content other) :=
        List.map_congr_left fun other member => by rw [if_neg (rest other member)]
      rw [List.map_cons, appendTo, if_pos here, if_pos (by simp [here]), List.map_cons, if_pos here, untouched]
    · rw [List.map_cons, appendTo, if_neg here, ih distinct.2]
      by_cases later : k ∈ keys
      · rw [if_pos later, if_pos (List.mem_cons_of_mem _ later), List.map_cons, if_neg here]
      · have missing : k ∉ first :: keys := by
          rw [List.mem_cons, not_or]
          exact ⟨fun same => here same.symm, later⟩
        rw [if_neg later, if_neg missing, List.cons_append]

theorem buckets_eq (key : α → β) (values : List α) : ∃ keys : List β, keys.Nodup ∧
    (∀ k, k ∈ keys ↔ k ∈ values.map key) ∧
      buckets key values = keys.map fun k => (k, values.filter fun value => key value = k) := by
  induction values using List.reverseRecOn with
  | nil => exact ⟨[], List.nodup_nil, by simp, rfl⟩
  | append_singleton values value ih =>
    obtain ⟨keys, distinct, known, shape⟩ := ih
    have step : buckets key (values ++ [value]) = appendTo (key value) value (buckets key values) := by
      rw [buckets, List.foldl_append]
      rfl
    rw [step, shape, appendTo_map _ _ _ distinct]
    simp only [List.map_append, List.mem_append, List.map_singleton, List.mem_singleton]
    by_cases old : key value ∈ keys
    · refine ⟨keys, distinct, fun k => ?_, ?_⟩
      · rw [known, iff_self_or]
        intro same
        rwa [same, ← known]
      · rw [if_pos old]
        refine List.map_congr_left fun k _ => ?_
        by_cases same : k = key value
        · simp [same]
        · simp [same, Ne.symm same]
    · refine ⟨keys ++ [key value], ?_, fun k => ?_, ?_⟩
      · rw [List.nodup_append]
        refine ⟨distinct, List.nodup_singleton _, fun k member other new same => ?_⟩
        rw [same, List.mem_singleton.mp new] at member
        exact old member
      · rw [List.mem_append, known, List.mem_singleton]
      · rw [if_neg old, List.map_append]
        refine congrArg₂ _ (List.map_congr_left fun k member => ?_) ?_
        · have other : key value ≠ k := fun same => old (same ▸ member)
          simp [other]
        · have none : values.filter (fun other => key other = key value) = [] := by
            rw [List.filter_eq_nil_iff]
            intro other member
            rw [decide_eq_true_iff]
            exact fun same => old ((known _).mpr (same ▸ List.mem_map_of_mem member))
          simp [none]

theorem sum_length_buckets {keys : List β} (distinct : keys.Nodup) (known : ∀ k, k ∈ keys ↔ k ∈ values.map key) :
    (keys.map fun k => (values.filter fun value => key value = k).length).sum = values.length := by
  have perm : keys.Perm (values.map key).dedup := by
    refine (List.perm_ext_iff_of_nodup distinct (List.nodup_dedup _)).mpr fun k => ?_
    rw [known, List.mem_dedup]
  have lengths : (fun k => (values.filter fun value => key value = k).length) = fun k => (values.map key).count k := by
    funext k
    rw [← List.countP_eq_length_filter, List.count, List.countP_map]
    refine List.countP_congr fun value _ => ?_
    simp
  rw [(perm.map _).sum_eq, lengths, List.sum_map_count_dedup_eq_length, List.length_map]

variable [LinearOrder δ] {rank : β → δ}

def sortedBuckets (key : α → β) (rank : β → δ) (values : List α) : List (β × List α) :=
  (buckets key values).insertionSort fun a b => rank a.1 ≤ rank b.1

theorem sortedBuckets_eq (key : α → β) (rank : β → δ) (values : List α) : ∃ keys : List β, keys.Nodup ∧
    (∀ k, k ∈ keys ↔ k ∈ values.map key) ∧ keys.Pairwise (fun a b => rank a ≤ rank b) ∧
      sortedBuckets key rank values = keys.map fun k => (k, values.filter fun value => key value = k) := by
  obtain ⟨keys, distinct, known, shape⟩ := buckets_eq key values
  have total : Std.Total fun a b : β => rank a ≤ rank b := ⟨fun a b => le_total (rank a) (rank b)⟩
  have transitive : IsTrans β fun a b => rank a ≤ rank b := ⟨fun a b c => le_trans⟩
  refine ⟨keys.insertionSort fun a b => rank a ≤ rank b, ?_, fun k => ?_, List.pairwise_insertionSort _ _, ?_⟩
  · exact (List.perm_insertionSort _ keys).nodup_iff.mpr distinct
  · rw [List.mem_insertionSort, known]
  · rw [sortedBuckets, shape]
    exact (List.map_insertionSort (fun a b => rank a ≤ rank b)
      (fun a b : β × List α => rank a.1 ≤ rank b.1) _ _ fun _ _ _ _ => Iff.rfl).symm

theorem map_sortedBuckets_perm (key : α → β) (injective : rank.Injective) (f : β × List α → γ)
    (invariant : ∀ k xs ys, xs.Perm ys → f (k, xs) = f (k, ys)) (same : values.Perm others) :
    (sortedBuckets key rank values).map f = (sortedBuckets key rank others).map f := by
  obtain ⟨keys, distinct, known, inOrder, shape⟩ := sortedBuckets_eq key rank values
  obtain ⟨keys', distinct', known', inOrder', shape'⟩ := sortedBuckets_eq key rank others
  have perm : keys.Perm keys' := by
    refine (List.perm_ext_iff_of_nodup distinct distinct').mpr fun k => ?_
    rw [known, known', (same.map key).mem_iff]
  have keys_eq : keys = keys' :=
    perm.eq_of_pairwise (fun a b _ _ first second => injective (le_antisymm first second)) inOrder inOrder'
  rw [shape, shape', keys_eq, List.map_map, List.map_map]
  exact List.map_congr_left fun k _ => invariant k _ _ (same.filter _)

end CareerProjects.Library
