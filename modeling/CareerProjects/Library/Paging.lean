import Mathlib.Data.List.Sort
import Mathlib.Data.List.TakeWhile
import Mathlib.Tactic.Ring

/-! Rows read page by page, the rows with the greatest keys first. Each page is a query of its own, and the
rows of one key may come in another order in each of them. All pages together are the rows, each once,
exactly where no page ends between two rows of one key. -/

namespace CareerProjects.Library

variable {α κ : Type*} [LinearOrder κ] {key : α → κ} {rows sorted other front back page : List α} {pages : List (List α)}
  {offset limit count : ℕ} {x y : α}

/-- An order of the rows that `ORDER BY key DESC` allows. -/
structure Descending (key : α → κ) (rows sorted : List α) : Prop where
  perm : sorted.Perm rows
  order : sorted.Pairwise fun a b => key b ≤ key a

def Page (key : α → κ) (rows : List α) (offset limit : ℕ) (page : List α) : Prop :=
  ∃ sorted, Descending key rows sorted ∧ page = (sorted.drop offset).take limit

/-- Reading one page after another until one is empty, by a query with `OFFSET` and `LIMIT`. -/
inductive Pages (query : ℕ → ℕ → List α → Prop) (limit : ℕ) : ℕ → List (List α) → Prop
  | last {offset : ℕ} : query offset limit [] → Pages query limit offset [[]]
  | more {offset : ℕ} {page : List α} {pages : List (List α)} : query offset limit page → page ≠ [] →
      Pages query limit (offset + limit) pages → Pages query limit offset (page :: pages)

def descendingKeys (key : α → κ) (rows : List α) : List κ := (rows.map key).insertionSort fun a b => b ≤ a

/-- After so many rows comes one with the key of the last of them. -/
def TiedAt (key : α → κ) (rows : List α) (count : ℕ) : Prop :=
  0 < count ∧ ∃ k, (descendingKeys key rows)[count - 1]? = some k ∧ (descendingKeys key rows)[count]? = some k

theorem Descending.keys (descending : Descending key rows sorted) : sorted.map key = descendingKeys key rows := by
  have total : Std.Total fun a b : κ => b ≤ a := ⟨fun a b => le_total b a⟩
  have transitive : IsTrans κ fun a b => b ≤ a := ⟨fun a b c first second => second.trans first⟩
  have perm : (sorted.map key).Perm (descendingKeys key rows) :=
    (descending.perm.map key).trans (List.perm_insertionSort _ _).symm
  refine perm.eq_of_pairwise (fun a b _ _ first second => le_antisymm second first) ?_
    (List.pairwise_insertionSort (fun a b : κ => b ≤ a) (rows.map key))
  exact List.pairwise_map.mpr descending.order

theorem exists_descending (key : α → κ) (rows : List α) : ∃ sorted, Descending key rows sorted := by
  have total : Std.Total fun a b : α => key b ≤ key a := ⟨fun a b => le_total (key b) (key a)⟩
  have transitive : IsTrans α fun a b => key b ≤ key a := ⟨fun a b c first second => second.trans first⟩
  exact ⟨rows.insertionSort fun a b => key b ≤ key a, List.perm_insertionSort _ _,
    List.pairwise_insertionSort (fun a b : α => key b ≤ key a) rows⟩

theorem descendingKeys_pairwise (key : α → κ) (rows : List α) : (descendingKeys key rows).Pairwise fun a b => b ≤ a := by
  obtain ⟨sorted, descending⟩ := exists_descending key rows
  rw [← descending.keys]
  exact List.pairwise_map.mpr descending.order

theorem Descending.length (descending : Descending key rows sorted) : sorted.length = rows.length :=
  descending.perm.length_eq

theorem take_eq_filter {bound : κ} (inside : ∀ a ∈ sorted.take count, bound ≤ key a)
    (outside : ∀ a ∈ sorted.drop count, key a < bound) : sorted.take count = sorted.filter (bound ≤ key ·) := by
  conv_rhs => rw [← List.take_append_drop count sorted]
  rw [List.filter_append, List.filter_eq_self.mpr (by simpa using inside),
    List.filter_eq_nil_iff.mpr (by simpa using outside), List.append_nil]

theorem exists_bound (some : 0 < count) (less : count < rows.length) (whole : ¬TiedAt key rows count) :
    ∃ bound, (∀ k ∈ (descendingKeys key rows).take count, bound ≤ k) ∧
      ∀ k ∈ (descendingKeys key rows).drop count, k < bound := by
  have order := descendingKeys_pairwise key rows
  have length : (descendingKeys key rows).length = rows.length := by
    rw [descendingKeys, List.length_insertionSort, List.length_map]
  unfold TiedAt at whole
  generalize descendingKeys key rows = keys at order length whole ⊢
  have before : count - 1 < keys.length := by omega
  have after : count < keys.length := by omega
  have split : keys = keys.take (count - 1) ++ keys[count - 1] :: keys.drop count := by
    have shifted : count - 1 + 1 = count := by omega
    conv_lhs => rw [← List.take_append_drop (count - 1) keys, List.drop_eq_getElem_cons before, shifted]
  have start : keys.take count = keys.take (count - 1) ++ [keys[count - 1]] := by
    conv_lhs => rw [show count = count - 1 + 1 by omega, List.take_succ_eq_append_getElem before]
  have rest : keys.drop count = keys[count] :: keys.drop (count + 1) := List.drop_eq_getElem_cons after
  have different : keys[count] ≠ keys[count - 1] := fun same =>
    whole ⟨some, keys[count - 1], List.getElem?_eq_getElem before, by rw [List.getElem?_eq_getElem after, same]⟩
  rw [split, List.pairwise_append, List.pairwise_cons] at order
  obtain ⟨-, ⟨last, later⟩, across⟩ := order
  refine ⟨keys[count - 1], fun k member => ?_, fun k member => ?_⟩
  · rw [start, List.mem_append, List.mem_singleton] at member
    rcases member with earlier | rfl
    · exact across k earlier _ List.mem_cons_self
    · exact le_refl _
  · rw [rest] at last later member
    have least : keys[count] < keys[count - 1] := lt_of_le_of_ne (last _ List.mem_cons_self) different
    rcases List.mem_cons.mp member with rfl | further
    · exact least
    · exact lt_of_le_of_lt ((List.pairwise_cons.mp later).1 k further) least

theorem Descending.take_perm (first : Descending key rows sorted) (second : Descending key rows other)
    (whole : ¬TiedAt key rows count) : (sorted.take count).Perm (other.take count) := by
  have same : sorted.Perm other := first.perm.trans second.perm.symm
  by_cases none : count = 0
  · simp [none]
  · by_cases all : rows.length ≤ count
    · rwa [List.take_of_length_le (by rw [first.length]; exact all),
        List.take_of_length_le (by rw [second.length]; exact all)]
    · obtain ⟨bound, inside, outside⟩ := exists_bound (by omega) (by omega) whole
      have taken {sorted : List α} (descending : Descending key rows sorted) :
          sorted.take count = sorted.filter (bound ≤ key ·) := by
        rw [← descending.keys] at inside outside
        refine take_eq_filter (fun a member => inside _ ?_) fun a member => outside _ ?_
        · rw [← List.map_take]
          exact List.mem_map_of_mem member
        · rw [← List.map_drop]
          exact List.mem_map_of_mem member
      rw [taken first, taken second]
      exact same.filter _

theorem page_perm (first : Descending key rows sorted) (queried : Page key rows offset limit page)
    (start : ¬TiedAt key rows offset) (end' : ¬TiedAt key rows (offset + limit)) :
    page.Perm ((sorted.drop offset).take limit) := by
  obtain ⟨other, second, rfl⟩ := queried
  have front := second.take_perm first start
  have whole := second.take_perm first end'
  rw [List.take_add, List.take_add] at whole
  exact (List.perm_append_left_iff _).mp ((front.symm.append_right _).trans whole)

theorem pages_perm (descending : Descending key rows sorted) (positive : 0 < limit)
    (reads : Pages (Page key rows) limit offset pages) (whole : ∀ k, ¬TiedAt key rows (offset + k * limit)) :
    pages.flatten.Perm (sorted.drop offset) := by
  induction reads with
  | @last offset queried =>
    have same := page_perm descending queried (by simpa using whole 0) (by simpa using whole 1)
    have finished : sorted.drop offset = [] := by
      have none := List.nil_perm.mp same
      rw [List.take_eq_nil_iff] at none
      exact none.resolve_left (by omega)
    rw [finished]
    exact .refl _
  | @more offset page pages queried some rest ih =>
    have same := page_perm descending queried (by simpa using whole 0) (by simpa using whole 1)
    have later := ih fun k => by
      have next := whole (k + 1)
      rwa [Nat.add_one_mul, Nat.add_comm (k * limit), ← Nat.add_assoc] at next
    rw [List.flatten_cons, ← List.take_append_drop limit (sorted.drop offset), List.drop_drop]
    exact same.append later

theorem exists_pages (descending : Descending key rows sorted) (positive : 0 < limit) (offset : ℕ) :
    ∃ pages, Pages (Page key rows) limit offset pages ∧ pages.flatten = sorted.drop offset := by
  induction left : sorted.length - offset using Nat.strongRecOn generalizing offset with
  | ind left ih =>
    by_cases finished : sorted.length ≤ offset
    · refine ⟨[[]], .last ⟨sorted, descending, by rw [List.drop_of_length_le finished, List.take_nil]⟩, ?_⟩
      rw [List.drop_of_length_le finished]
      rfl
    · obtain ⟨pages, reads, rest⟩ := ih (sorted.length - (offset + limit)) (by omega) (offset + limit) rfl
      refine ⟨(sorted.drop offset).take limit :: pages, .more ⟨sorted, descending, rfl⟩ ?_ reads, ?_⟩
      · rw [ne_eq, List.take_eq_nil_iff, List.drop_eq_nil_iff]
        omega
      · rw [List.flatten_cons, rest, ← List.drop_drop, List.take_append_drop]

theorem pages_before (descending : Descending key rows sorted) (positive : 0 < limit) (count offset : ℕ)
    (inside : offset + count * limit ≤ sorted.length)
    (reads : Pages (Page key rows) limit (offset + count * limit) pages) :
    ∃ all, Pages (Page key rows) limit offset all ∧
      all.flatten = (sorted.drop offset).take (count * limit) ++ pages.flatten := by
  induction count generalizing offset with
  | zero => exact ⟨pages, by simpa using reads, by simp⟩
  | succ count ih =>
    have steps : offset + limit + count * limit = offset + (count + 1) * limit := by ring
    obtain ⟨all, later, rest⟩ := ih (offset + limit) (by rw [steps]; exact inside) (by rw [steps]; exact reads)
    refine ⟨(sorted.drop offset).take limit :: all, .more ⟨sorted, descending, rfl⟩ ?_ later, ?_⟩
    · rw [ne_eq, List.take_eq_nil_iff, List.drop_eq_nil_iff]
      have : limit ≤ (count + 1) * limit := Nat.le_mul_of_pos_left _ (by omega)
      omega
    · have total : (count + 1) * limit = limit + count * limit := by ring
      rw [List.flatten_cons, rest, total, List.take_add, List.drop_drop, List.append_assoc]

theorem Descending.swap (descending : Descending key rows (front ++ x :: y :: back)) (same : key x = key y) :
    Descending key rows (front ++ y :: x :: back) := by
  refine ⟨(((List.Perm.swap x y back).append_left front)).trans descending.perm, ?_⟩
  have order := descending.order
  simp only [List.pairwise_append, List.pairwise_cons, List.mem_cons, same] at order ⊢
  grind

theorem Descending.parts (descending : Descending key rows sorted) {k : κ} (within : 0 < count)
    (last : (descendingKeys key rows)[count - 1]? = some k) (next : (descendingKeys key rows)[count]? = some k) :
    ∃ front x y back, sorted = front ++ x :: y :: back ∧ front.length + 1 = count ∧ key x = key y := by
  rw [← descending.keys, List.getElem?_map, Option.map_eq_some_iff] at last next
  obtain ⟨x, atLast, keyX⟩ := last
  obtain ⟨y, atNext, keyY⟩ := next
  obtain ⟨before, rfl⟩ := List.getElem?_eq_some_iff.mp atLast
  obtain ⟨after, rfl⟩ := List.getElem?_eq_some_iff.mp atNext
  refine ⟨sorted.take (count - 1), _, _, sorted.drop (count + 1), ?_, ?_, keyX.trans keyY.symm⟩
  · have shifted : count - 1 + 1 = count := by omega
    conv_lhs => rw [← List.take_append_drop (count - 1) sorted, List.drop_eq_getElem_cons before, shifted,
      List.drop_eq_getElem_cons after]
  · rw [List.length_take]
    omega

theorem pages_perm_iff (distinct : rows.Nodup) (positive : 0 < limit) :
    (∀ pages, Pages (Page key rows) limit 0 pages → pages.flatten.Perm rows) ↔ ∀ k, ¬TiedAt key rows (k * limit) := by
  obtain ⟨sorted, descending⟩ := exists_descending key rows
  constructor
  · intro complete k ⟨within, common, last, next⟩
    obtain ⟨front, x, y, back, rfl, count, same⟩ := descending.parts within last next
    -- the page after the end reads the two rows in the other order, so that one of them is read twice
    obtain ⟨pages, reads, rest⟩ := exists_pages (descending.swap same) positive (k * limit)
    obtain ⟨all, complete', together⟩ := pages_before descending positive k 0 (by simp; omega) (by simpa using reads)
    have unique := (complete all complete').nodup_iff.mpr distinct
    have firstRead : x ∈ ((front ++ x :: y :: back).drop 0).take (k * limit) := by
      rw [← count, List.drop_zero, List.take_length_add_append]
      simp
    have readAgain : x ∈ (front ++ y :: x :: back).drop (k * limit) := by simp [← count]
    rw [together, rest, List.nodup_append] at unique
    exact unique.2.2 x firstRead x readAgain rfl
  · intro whole pages reads
    have perm := pages_perm descending positive reads (by simpa using whole)
    exact perm.trans descending.perm

end CareerProjects.Library
