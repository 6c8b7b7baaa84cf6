import Mathlib.Data.List.Forall2
import Mathlib.Data.List.Nodup
import Mathlib.Data.List.Sort
import Mathlib.Data.List.TakeWhile
import Mathlib.Data.List.Zip

/-! Lists of rows with keys, as the tables of a database are: rows that are added, rows built from
their positions, the rows of one key, and rows grouped by their keys. -/

namespace CareerProjects.Library

theorem nodup_map_snoc {α β : Type*} {key : α → β} {rows : List α} {row : α}
    (distinct : (rows.map key).Nodup) (new : key row ∉ rows.map key) :
    ((rows ++ [row]).map key).Nodup := by
  rw [List.map_append, List.map_singleton]
  exact distinct.append (List.nodup_singleton _) (List.disjoint_singleton.mpr new)

theorem forall_mem_snoc {α : Type*} {P : α → Prop} {rows : List α} {row : α}
    (all : ∀ row ∈ rows, P row) (last : P row) : ∀ other ∈ rows ++ [row], P other := by
  intro other member
  rw [List.mem_append, List.mem_singleton] at member
  rcases member with old | rfl
  · exact all other old
  · exact last

/-- Rows whose keys are new and differ from each other. -/
def NewKeys {α β : Type*} (key : α → β) (table rows : List α) : Prop := ((table ++ rows).map key).Nodup

theorem NewKeys.head {α β : Type*} {key : α → β} {table rows : List α} {row : α}
    (new : NewKeys key table (row :: rows)) : key row ∉ table.map key := by
  rw [NewKeys, List.map_append, List.nodup_append] at new
  exact fun old => new.2.2 _ old _ (by simp) rfl

theorem NewKeys.tail {α β : Type*} {key : α → β} {table rows : List α} {row : α}
    (new : NewKeys key table (row :: rows)) : NewKeys key (table ++ [row]) rows := by
  rw [NewKeys, List.append_assoc, List.singleton_append]
  exact new

theorem forall₂_mapIdx {α β γ : Type*} {R : γ → β → Prop} {f : ℕ → α → β} {g : γ → α}
    (values : List γ) (each : ∀ i, ∀ value ∈ values, R value (f i (g value))) :
    List.Forall₂ R values ((values.map g).mapIdx f) := by
  induction values generalizing f with
  | nil => exact .nil
  | cons value values ih =>
    rw [List.map_cons, List.mapIdx_cons]
    exact .cons (each 0 value List.mem_cons_self)
      (ih fun i other member => each (i + 1) other (List.mem_cons_of_mem _ member))

theorem map_mapIdx {α β γ : Type*} {f : ℕ → α → β} {key : β → γ} {g : α → γ} (values : List α)
    (same : ∀ i value, key (f i value) = g value) : (values.mapIdx f).map key = values.map g := by
  refine List.ext_getElem (by simp) fun i _ _ => ?_
  simp [same]

theorem newKeys_drawn {α β γ : Type*} {key : β → γ} {table : List β} {f : ℕ → α → β} {draws : ℕ → γ}
    (values : List α) (drawn : ∀ i value, key (f i value) = draws i)
    (new : (table.map key ++ (List.range values.length).map draws).Nodup) : NewKeys key table (values.mapIdx f) := by
  have keys : (values.mapIdx f).map key = (List.range values.length).map draws := by
    refine List.ext_getElem (by simp) fun i _ _ => ?_
    simp [drawn]
  rwa [NewKeys, List.map_append, keys]

theorem filter_key {α β : Type*} [DecidableEq β] {key : α → β} {values : List α} {value : α}
    (distinct : (values.map key).Nodup) (member : value ∈ values) :
    values.filter (fun other => key other = key value) = [value] := by
  induction values with
  | nil => cases member
  | cons head values ih =>
    rw [List.map_cons, List.nodup_cons] at distinct
    by_cases same : key head = key value
    · have equal : head = value := by
        rcases List.mem_cons.mp member with rfl | later
        · rfl
        · exact absurd (same ▸ List.mem_map_of_mem later) distinct.1
      subst equal
      rw [List.filter_cons_of_pos (by simp), List.filter_eq_nil_iff.mpr]
      intro other inside
      have different : key other ≠ key head := fun again => distinct.1 (again ▸ List.mem_map_of_mem inside)
      simpa using different
    · have later : value ∈ values := by
        rcases List.mem_cons.mp member with rfl | later
        · exact absurd rfl same
        · exact later
      rw [List.filter_cons_of_neg (by simpa using same)]
      exact ih distinct.2 later

theorem find?_unique {α : Type*} {p : α → Bool} {values : List α} {value : α}
    (once : ∀ a ∈ values, ∀ b ∈ values, p a = true → p b = true → a = b) :
    values.find? p = some value ↔ value ∈ values ∧ p value = true := by
  constructor
  · intro found
    exact ⟨List.mem_of_find?_eq_some found, List.find?_some found⟩
  · intro ⟨member, passes⟩
    cases found : values.find? p with
    | none => exact absurd passes (List.find?_eq_none.mp found value member)
    | some other =>
      rw [once other (List.mem_of_find?_eq_some found) value member (List.find?_some found) passes]

theorem find?_key_iff {α β : Type*} [DecidableEq β] {key : α → β} {values : List α} {value : α} {k : β}
    (distinct : (values.map key).Nodup) :
    values.find? (fun other => key other = k) = some value ↔ value ∈ values ∧ key value = k := by
  rw [find?_unique, decide_eq_true_eq]
  intro a member b member' first second
  rw [decide_eq_true_eq] at first second
  exact List.inj_on_of_nodup_map distinct member member' (first.trans second.symm)

theorem find?_key {α β : Type*} [DecidableEq β] {key : α → β} {values : List α} {value : α}
    (distinct : (values.map key).Nodup) (member : value ∈ values) :
    values.find? (fun other => key other = key value) = some value :=
  (find?_key_iff distinct).mpr ⟨member, rfl⟩

theorem filter_flatMap_blocks {α β : Type*} {p : β → Bool} {q : α → Bool} {block : α → List β} {values : List α}
    (whole : ∀ value ∈ values, ∀ entry ∈ block value, p entry = q value) :
    (values.flatMap block).filter p = (values.filter q).flatMap block := by
  induction values with
  | nil => rfl
  | cons value values ih =>
    have later := ih fun other member => whole other (List.mem_cons_of_mem _ member)
    have first := whole value List.mem_cons_self
    rw [List.flatMap_cons, List.filter_append, later, List.filter_cons]
    by_cases passes : q value = true
    · rw [if_pos passes, List.flatMap_cons, List.filter_eq_self.mpr]
      intro entry member
      rw [first entry member, passes]
    · rw [if_neg passes, List.filter_eq_nil_iff.mpr, List.nil_append]
      intro entry member
      rw [first entry member]
      exact passes

theorem filter_flatMap_key {α β γ : Type*} [DecidableEq γ] {key : α → γ} {tag : β → γ}
    {block : α → List β} {values : List α} {value : α} (distinct : (values.map key).Nodup)
    (tagged : ∀ value, ∀ entry ∈ block value, tag entry = key value) (member : value ∈ values) :
    (values.flatMap block).filter (fun entry => tag entry = key value) = block value := by
  rw [filter_flatMap_blocks (q := fun other => key other = key value), filter_key distinct member,
    List.flatMap_singleton]
  intro other _ entry inside
  rw [tagged other entry inside]

theorem map_zip_fst {α β γ : Type*} {key : α → γ} {xs : List α} {ys : List β} (enough : xs.length ≤ ys.length) :
    (xs.zip ys).map (fun entry => key entry.1) = xs.map key := by
  calc (xs.zip ys).map (fun entry => key entry.1)
      = ((xs.zip ys).map Prod.fst).map key := by rw [List.map_map, Function.comp_def]
    _ = xs.map key := by rw [List.map_fst_zip enough]

theorem map_zip_snd {α β γ : Type*} {key : β → γ} {xs : List α} {ys : List β} (enough : ys.length ≤ xs.length) :
    (xs.zip ys).map (fun entry => key entry.2) = ys.map key := by
  calc (xs.zip ys).map (fun entry => key entry.2)
      = ((xs.zip ys).map Prod.snd).map key := by rw [List.map_map, Function.comp_def]
    _ = ys.map key := by rw [List.map_snd_zip enough]

theorem forall₂_mem_zip {α β : Type*} {R : α → β → Prop} {xs : List α} {ys : List β}
    (related : List.Forall₂ R xs ys) :
    List.Forall₂ (fun x y => R x y ∧ (y, x) ∈ ys.zip xs) xs ys := by
  refine List.forall₂_iff_zip.mpr ⟨related.length_eq, fun inside => ⟨List.forall₂_zip related inside, ?_⟩⟩
  rw [← List.zip_swap]
  exact List.mem_map.mpr ⟨_, inside, rfl⟩

theorem map_eq_of_forall₂ {α β γ : Type*} {R : α → β → Prop} {f : α → γ} {g : β → γ} {xs : List α}
    {ys : List β} (related : List.Forall₂ R xs ys) (same : ∀ x y, R x y → f x = g y) :
    xs.map f = ys.map g := by
  induction related with
  | nil => rfl
  | cons first _ ih => rw [List.map_cons, List.map_cons, same _ _ first, ih]

/-- What a partial map takes from a list can be mapped back to a part of it. -/
theorem map_filterMap_sublist {α β γ : Type*} {f : α → Option β} {g : β → γ} {h : α → γ}
    (back : ∀ x y, f x = some y → g y = h x) (values : List α) :
    ((values.filterMap f).map g).Sublist (values.map h) := by
  induction values with
  | nil => exact .slnil
  | cons value values ih =>
    rw [List.filterMap_cons, List.map_cons]
    cases found : f value with
    | none => exact ih.cons _
    | some taken =>
      rw [List.map_cons, back value taken found]
      exact ih.cons_cons _

theorem filter_filterMap {α β : Type*} {f : α → Option β} {p : α → Bool} {q : β → Bool}
    (same : ∀ x y, f x = some y → q y = p x) (values : List α) :
    (values.filter p).filterMap f = (values.filterMap f).filter q := by
  induction values with
  | nil => rfl
  | cons value values ih =>
    rw [List.filter_cons, List.filterMap_cons]
    cases found : f value with
    | none =>
      rw [← ih]
      split <;> simp [found]
    | some taken =>
      rw [List.filter_cons, same value taken found, ← ih]
      split <;> simp [found]

theorem filterMap_mapIdx_map {α β γ δ : Type*} {f : ℕ → α → β} {g : β → Option γ} {h : γ → δ} {k : α → δ}
    {values : List α} (each : ∀ i, ∀ value ∈ values, ∃ y, g (f i value) = some y ∧ h y = k value) :
    ((values.mapIdx f).filterMap g).map h = values.map k := by
  induction values generalizing f with
  | nil => rfl
  | cons value values ih =>
    obtain ⟨y, found, same⟩ := each 0 value List.mem_cons_self
    rw [List.mapIdx_cons, List.filterMap_cons, found, List.map_cons, List.map_cons, same,
      ih fun i value member => each (i + 1) value (List.mem_cons_of_mem _ member)]

theorem pairwise_sort {α β : Type*} [LinearOrder β] {key : α → β} {values : List α}
    (distinct : (values.map key).Nodup) :
    (values.insertionSort fun a b => key a ≤ key b).Pairwise fun a b => key a < key b := by
  have total : Std.Total fun a b : α => key a ≤ key b := ⟨fun a b => le_total (key a) (key b)⟩
  have transitive : IsTrans α fun a b => key a ≤ key b := ⟨fun a b c => le_trans⟩
  have sorted := List.pairwise_insertionSort (fun a b : α => key a ≤ key b) values
  have apart : ((values.insertionSort fun a b => key a ≤ key b).map key).Nodup :=
    ((List.perm_insertionSort (fun a b : α => key a ≤ key b) values).map key).nodup_iff.mpr distinct
  rw [List.Nodup, List.pairwise_map] at apart
  exact sorted.imp₂ (fun _ _ ordered different => lt_of_le_of_ne ordered different) apart

section Grouping

variable {α β : Type*} [DecidableEq β] {key : α → β}

/-- The values of each key together, the keys in the order of their first values. -/
def grouped (key : α → β) (values : List α) : List α :=
  (values.map key).eraseDups.flatMap fun k => values.filter fun value => key value = k

/-- No key comes back after the value of another one. -/
def Together (key : α → β) : List α → Prop
  | [] => True
  | value :: rest =>
    (∀ other ∈ rest.dropWhile fun other => key other = key value, key other ≠ key value) ∧ Together key rest

instance decidableTogether (key : α → β) (values : List α) : Decidable (Together key values) :=
  match values with
  | [] => isTrue trivial
  | value :: rest =>
    have := decidableTogether key rest
    inferInstanceAs (Decidable ((∀ other ∈ rest.dropWhile fun other => key other = key value,
      key other ≠ key value) ∧ Together key rest))

theorem grouped_cons (value : α) (rest : List α) :
    grouped key (value :: rest) = value :: (rest.filter fun other => key other = key value) ++
      grouped key (rest.filter fun other => key other ≠ key value) := by
  have keys : ((rest.map key).filter fun k => !k == key value) =
      (rest.filter fun other => key other ≠ key value).map key := by
    rw [List.filter_map]
    refine congrArg (List.map key) (List.filter_congr fun other _ => ?_)
    simp [beq_eq_decide]
  rw [grouped, List.map_cons, List.eraseDups_cons, List.flatMap_cons, keys]
  rw [List.filter_cons_of_pos (by simp), grouped]
  refine congrArg _ (List.flatMap_congr fun k member => ?_)
  rw [List.mem_eraseDups, List.mem_map] at member
  obtain ⟨other, inside, rfl⟩ := member
  have different : key other ≠ key value := by simpa using (List.mem_filter.mp inside).2
  rw [List.filter_cons_of_neg (by simpa using different.symm), List.filter_filter]
  refine List.filter_congr fun another _ => ?_
  by_cases same : key another = key other <;> simp [same, different]

theorem together_append {front back : List α} {k : β} (same : ∀ value ∈ front, key value = k)
    (other : ∀ value ∈ back, key value ≠ k) : Together key (front ++ back) ↔ Together key back := by
  induction front with
  | nil => rfl
  | cons value front ih =>
    rw [List.forall_mem_cons] at same
    rw [List.cons_append, Together, ih same.2, and_iff_right]
    intro another member
    rw [same.1] at member ⊢
    rw [List.dropWhile_append_of_pos (by simpa using same.2)] at member
    exact other another ((List.dropWhile_sublist _).subset member)

/-- Grouping leaves values in their order exactly where those of a key are already together. -/
theorem grouped_eq_iff (values : List α) : grouped key values = values ↔ Together key values := by
  induction size : values.length using Nat.strongRecOn generalizing values with
  | ind n ih =>
    cases values with
    | nil => exact iff_of_true rfl trivial
    | cons value rest =>
      let same : α → Bool := fun other => key other = key value
      have parts : rest.takeWhile same ++ rest.dropWhile same = rest := List.takeWhile_append_dropWhile
      have front : ∀ other ∈ rest.takeWhile same, key other = key value := fun other member => by
        simpa [same] using List.mem_takeWhile_imp member
      have kept : rest.filter same = rest.takeWhile same ++ (rest.dropWhile same).filter same := by
        conv_lhs => rw [← parts]
        rw [List.filter_append, List.filter_eq_self.mpr (by simpa [same] using front)]
      rw [grouped_cons, Together]
      by_cases apart : ∀ other ∈ rest.dropWhile same, key other ≠ key value
      · have first : rest.filter same = rest.takeWhile same := by
          rw [kept, List.filter_eq_nil_iff.mpr (by simpa [same] using apart), List.append_nil]
        have second : (rest.filter fun other => key other ≠ key value) = rest.dropWhile same := by
          conv_lhs => rw [← parts]
          rw [List.filter_append, List.filter_eq_nil_iff.mpr (by simpa using front),
            List.filter_eq_self.mpr (by simpa using apart), List.nil_append]
        have shorter : (rest.dropWhile same).length < n := by
          have bound := (List.dropWhile_sublist same (l := rest)).length_le
          rw [List.length_cons] at size
          omega
        have later := ih _ shorter (rest.dropWhile same) rfl
        rw [← together_append front apart, parts] at later
        rw [second, and_iff_right apart, ← later]
        change value :: rest.filter same ++ _ = value :: rest ↔ _
        rw [first, List.cons_append, List.cons.injEq, and_iff_right rfl]
        constructor
        · intro equal
          exact List.append_cancel_left (equal.trans parts.symm)
        · intro equal
          rw [equal, parts]
      · refine iff_of_false (fun equal => ?_) fun both => apart both.1
        -- a value of the key would stand where the run of them ended
        change value :: rest.filter same ++ _ = value :: rest at equal
        rw [List.cons_append, List.cons.injEq, kept, List.append_assoc] at equal
        have tail := List.append_cancel_left (equal.2.trans parts.symm)
        have stopped := List.head?_dropWhile_not same rest
        cases again : (rest.dropWhile same).filter same with
        | nil => exact apart (by simpa [same] using List.filter_eq_nil_iff.mp again)
        | cons other others =>
          have member : other ∈ (rest.dropWhile same).filter same := by rw [again]; exact List.mem_cons_self
          rw [again] at tail
          rw [← tail, List.cons_append, List.head?_cons] at stopped
          exact absurd (List.mem_filter.mp member).2 (by simpa using stopped)

end Grouping

end CareerProjects.Library
