import Mathlib.Data.List.Forall2
import Mathlib.Data.List.Nodup

/-! Documents of objects, arrays and scalars, and when two of them are equal: objects as maps without an
order, arrays item by item, and scalars by a relation of their own. -/

namespace CareerProjects.Library

inductive Document (κ α : Type) where
  | object (entries : List (κ × Document κ α))
  | array (items : List (Document κ α))
  | scalar (value : α)

namespace Document

variable {κ α β γ δ : Type}

section definitions

mutual

def map (f : α → β) : Document κ α → Document κ β
  | .object entries => .object (mapEntries f entries)
  | .array items => .array (mapItems f items)
  | .scalar value => .scalar (f value)

def mapEntries (f : α → β) : List (κ × Document κ α) → List (κ × Document κ β)
  | [] => []
  | (key, value) :: rest => (key, value.map f) :: mapEntries f rest

def mapItems (f : α → β) : List (Document κ α) → List (Document κ β)
  | [] => []
  | item :: rest => item.map f :: mapItems f rest

end

mutual

/-- The same document with the entries of each object in another order. -/
def arrange (order : κ → κ → Bool) : Document κ α → Document κ α
  | .object entries => .object ((arrangeEntries order entries).mergeSort fun a b => order a.1 b.1)
  | .array items => .array (arrangeItems order items)
  | .scalar value => .scalar value

def arrangeEntries (order : κ → κ → Bool) : List (κ × Document κ α) → List (κ × Document κ α)
  | [] => []
  | (key, value) :: rest => (key, value.arrange order) :: arrangeEntries order rest

def arrangeItems (order : κ → κ → Bool) : List (Document κ α) → List (Document κ α)
  | [] => []
  | item :: rest => item.arrange order :: arrangeItems order rest

end

mutual

def scalars : Document κ α → List α
  | .object entries => scalarsOfEntries entries
  | .array items => scalarsOfItems items
  | .scalar value => [value]

def scalarsOfEntries : List (κ × Document κ α) → List α
  | [] => []
  | (_, value) :: rest => value.scalars ++ scalarsOfEntries rest

def scalarsOfItems : List (Document κ α) → List α
  | [] => []
  | item :: rest => item.scalars ++ scalarsOfItems rest

end

mutual

def keys : Document κ α → List κ
  | .object entries => keysOfEntries entries
  | .array items => keysOfItems items
  | .scalar _ => []

def keysOfEntries : List (κ × Document κ α) → List κ
  | [] => []
  | (key, value) :: rest => key :: (value.keys ++ keysOfEntries rest)

def keysOfItems : List (Document κ α) → List κ
  | [] => []
  | item :: rest => item.keys ++ keysOfItems rest

end

variable [DecidableEq κ]

mutual

/-- No object has two entries of one key. -/
def distinct : Document κ α → Bool
  | .object entries => decide (entries.map (·.1)).Nodup && distinctEntries entries
  | .array items => distinctItems items
  | .scalar _ => true

def distinctEntries : List (κ × Document κ α) → Bool
  | [] => true
  | (_, value) :: rest => value.distinct && distinctEntries rest

def distinctItems : List (Document κ α) → Bool
  | [] => true
  | item :: rest => item.distinct && distinctItems rest

end

mutual

def equal (same : α → β → Bool) : Document κ α → Document κ β → Bool
  | .object entries, .object others => entries.length == others.length && equalEntries same entries others
  | .array items, .array others => equalItems same items others
  | .scalar value, .scalar other => same value other
  | _, _ => false

/-- Each entry is among the others. -/
def equalEntries (same : α → β → Bool) : List (κ × Document κ α) → List (κ × Document κ β) → Bool
  | [], _ => true
  | (key, value) :: rest, others =>
    match others.lookup key with
    | none => false
    | some other => value.equal same other && equalEntries same rest others

def equalItems (same : α → β → Bool) : List (Document κ α) → List (Document κ β) → Bool
  | [], [] => true
  | item :: rest, other :: others => item.equal same other && equalItems same rest others
  | _, _ => false

end

end definitions

theorem mapEntries_eq (f : α → β) (entries : List (κ × Document κ α)) :
    mapEntries f entries = entries.map fun entry => (entry.1, entry.2.map f) := by
  induction entries with
  | nil => rfl
  | cons entry rest ih => simp [mapEntries, ih]

theorem mapItems_eq (f : α → β) (items : List (Document κ α)) : mapItems f items = items.map (map f) := by
  induction items with
  | nil => rfl
  | cons item rest ih => simp [mapItems, ih]

theorem arrangeEntries_eq (order : κ → κ → Bool) (entries : List (κ × Document κ α)) :
    arrangeEntries order entries = entries.map fun entry => (entry.1, entry.2.arrange order) := by
  induction entries with
  | nil => rfl
  | cons entry rest ih => simp [arrangeEntries, ih]

theorem arrangeItems_eq (order : κ → κ → Bool) (items : List (Document κ α)) :
    arrangeItems order items = items.map (arrange order) := by
  induction items with
  | nil => rfl
  | cons item rest ih => simp [arrangeItems, ih]

theorem scalarsOfEntries_eq (entries : List (κ × Document κ α)) :
    scalarsOfEntries entries = entries.flatMap fun entry => entry.2.scalars := by
  induction entries with
  | nil => rfl
  | cons entry rest ih => simp [scalarsOfEntries, ih]

theorem scalarsOfItems_eq (items : List (Document κ α)) : scalarsOfItems items = items.flatMap scalars := by
  induction items with
  | nil => rfl
  | cons item rest ih => simp [scalarsOfItems, ih]

/-- A document whose entries and items all have a property has it. -/
theorem induct {motive : Document κ α → Prop}
    (object : ∀ entries, (∀ entry ∈ entries, motive entry.2) → motive (.object entries))
    (array : ∀ items, (∀ item ∈ items, motive item) → motive (.array items))
    (scalar : ∀ value, motive (.scalar value)) (document : Document κ α) : motive document :=
  @Document.rec κ α motive (fun entries => ∀ entry ∈ entries, motive entry.2) (fun items => ∀ item ∈ items, motive item)
    (fun entry => motive entry.2) object array scalar (by simp)
    (fun _ _ first rest => List.forall_mem_cons.mpr ⟨first, rest⟩) (by simp)
    (fun _ _ first rest => List.forall_mem_cons.mpr ⟨first, rest⟩) (fun _ _ value => value) document

section equality

variable [DecidableEq κ]

theorem equalEntries_iff (same : α → β → Bool) (entries : List (κ × Document κ α)) (others : List (κ × Document κ β)) :
    equalEntries same entries others = true ↔
      ∀ entry ∈ entries, ∃ other, others.lookup entry.1 = some other ∧ entry.2.equal same other = true := by
  induction entries with
  | nil => simp [equalEntries]
  | cons entry rest ih =>
    rw [equalEntries, List.forall_mem_cons, ← ih]
    cases others.lookup entry.1 <;> simp

theorem equalItems_iff (same : α → β → Bool) (items : List (Document κ α)) (others : List (Document κ β)) :
    equalItems same items others = true ↔ List.Forall₂ (fun item other => item.equal same other = true) items others := by
  induction items generalizing others with
  | nil => cases others <;> simp [equalItems]
  | cons item rest ih => cases others <;> simp [equalItems, ih]

theorem distinct_object (entries : List (κ × Document κ α)) : (object entries).distinct = true ↔
    (entries.map (·.1)).Nodup ∧ ∀ entry ∈ entries, entry.2.distinct = true := by
  have all : distinctEntries entries = true ↔ ∀ entry ∈ entries, entry.2.distinct = true := by
    induction entries with
    | nil => simp [distinctEntries]
    | cons entry rest ih => rw [distinctEntries, List.forall_mem_cons, ← ih, Bool.and_eq_true]
  rw [distinct, Bool.and_eq_true, decide_eq_true_iff, all]

theorem distinct_array (items : List (Document κ α)) :
    (array items).distinct = true ↔ ∀ item ∈ items, item.distinct = true := by
  have all : distinctItems items = true ↔ ∀ item ∈ items, item.distinct = true := by
    induction items with
    | nil => simp [distinctItems]
    | cons item rest ih => rw [distinctItems, List.forall_mem_cons, ← ih, Bool.and_eq_true]
  rw [distinct, all]

theorem equal_object (same : α → β → Bool) (entries : List (κ × Document κ α)) (others : List (κ × Document κ β)) :
    (object entries).equal same (object others) = true ↔ entries.length = others.length ∧
      ∀ entry ∈ entries, ∃ other, others.lookup entry.1 = some other ∧ entry.2.equal same other = true := by
  rw [equal, Bool.and_eq_true, beq_iff_eq, equalEntries_iff]

theorem equal_array (same : α → β → Bool) (items : List (Document κ α)) (others : List (Document κ β)) :
    (array items).equal same (array others) = true ↔
      List.Forall₂ (fun item other => item.equal same other = true) items others := by
  rw [equal, equalItems_iff]

theorem forall₂_iff {R S : α → β → Prop} {items : List α} {others : List β}
    (each : ∀ item ∈ items, ∀ other, R item other ↔ S item other) :
    List.Forall₂ R items others ↔ List.Forall₂ S items others := by
  induction items generalizing others with
  | nil => simp
  | cons item rest ih =>
    rw [List.forall_mem_cons] at each
    cases others with
    | nil => simp
    | cons other others => rw [List.forall₂_cons, List.forall₂_cons, each.1, ih each.2]

theorem lookup_map (g : β → δ) (others : List (κ × Document κ β)) (key : κ) :
    (others.map fun entry => (entry.1, entry.2.map g)).lookup key = (others.lookup key).map (map g) := by
  induction others with
  | nil => rfl
  | cons entry rest ih =>
    obtain ⟨name, document⟩ := entry
    by_cases same : key = name
    · simp [same]
    · have other : (key == name) = false := by simpa using same
      simp [List.lookup_cons, other, ih]

theorem equal_map (same : γ → δ → Bool) (f : α → γ) (g : β → δ) (document : Document κ α) (other : Document κ β) :
    (document.map f).equal same (other.map g) = true ↔ document.equal (fun a b => same (f a) (g b)) other = true := by
  induction document using induct generalizing other with
  | object entries ih =>
    cases other with
    | object others =>
      rw [map, map, mapEntries_eq, mapEntries_eq, equal_object, equal_object]
      simp only [List.length_map, List.forall_mem_map, lookup_map, Option.map_eq_some_iff]
      refine and_congr_right fun _ => forall₂_congr fun entry member => ?_
      constructor
      · rintro ⟨_, ⟨value, found, rfl⟩, equals⟩
        exact ⟨value, found, (ih entry member value).mp equals⟩
      · rintro ⟨value, found, equals⟩
        exact ⟨_, ⟨value, found, rfl⟩, (ih entry member value).mpr equals⟩
    | array | scalar => simp [map, equal]
  | array items ih =>
    cases other with
    | array others =>
      rw [map, map, mapItems_eq, mapItems_eq, equal_array, equal_array, List.forall₂_map_left_iff,
        List.forall₂_map_right_iff]
      exact forall₂_iff ih
    | object | scalar => simp [map, equal]
  | scalar value => cases other <;> simp [map, equal]

theorem equal_arrange (same : α → β → Bool) (order : κ → κ → Bool) (document : Document κ α) (other : Document κ β) :
    (document.arrange order).equal same other = true ↔ document.equal same other = true := by
  induction document using induct generalizing other with
  | object entries ih =>
    cases other with
    | object others =>
      rw [arrange, arrangeEntries_eq, equal_object, equal_object]
      simp only [List.length_mergeSort, List.mem_mergeSort, List.length_map, List.forall_mem_map]
      refine and_congr_right fun _ => forall₂_congr fun entry member => ?_
      simp only [ih entry member]
    | array | scalar => simp [arrange, equal]
  | array items ih =>
    cases other with
    | array others =>
      rw [arrange, arrangeItems_eq, equal_array, equal_array, List.forall₂_map_left_iff]
      exact forall₂_iff ih
    | object | scalar => simp [arrange, equal]
  | scalar value => cases other <;> simp [arrange, equal]

theorem equal_congr {same same' : α → β → Bool} {document : Document κ α}
    (each : ∀ value ∈ document.scalars, ∀ other, same value other = same' value other) (other : Document κ β) :
    document.equal same other = true ↔ document.equal same' other = true := by
  induction document using induct generalizing other with
  | object entries ih =>
    cases other with
    | object others =>
      rw [scalars, scalarsOfEntries_eq] at each
      rw [equal_object, equal_object]
      refine and_congr_right fun _ => forall₂_congr fun entry member => ?_
      have inside := ih entry member fun value inner => each value (List.mem_flatMap.mpr ⟨entry, member, inner⟩)
      simp only [inside]
    | array | scalar => simp [equal]
  | array items ih =>
    cases other with
    | array others =>
      rw [scalars, scalarsOfItems_eq] at each
      rw [equal_array, equal_array]
      exact forall₂_iff fun item member =>
        ih item member fun value inner => each value (List.mem_flatMap.mpr ⟨item, member, inner⟩)
    | object | scalar => simp [equal]
  | scalar value =>
    cases other with
    | scalar other => simp [equal, each value (by simp [scalars])]
    | object | array => simp [equal]

theorem lookup_of_mem {entries : List (κ × Document κ α)} (distinct : (entries.map (·.1)).Nodup)
    {entry : κ × Document κ α} (member : entry ∈ entries) : entries.lookup entry.1 = some entry.2 := by
  induction entries with
  | nil => cases member
  | cons first rest ih =>
    obtain ⟨name, document⟩ := first
    rw [List.map_cons, List.nodup_cons] at distinct
    rcases List.mem_cons.mp member with rfl | later
    · simp
    · have other : (entry.1 == name) = false := by
        rw [beq_eq_false_iff_ne]
        intro same
        exact distinct.1 (List.mem_map.mpr ⟨entry, later, same⟩)
      simp [List.lookup_cons, other, ih distinct.2 later]

/-- A document equals itself exactly if all its scalars do. -/
theorem equal_self {same : α → α → Bool} {document : Document κ α} (distinct : document.distinct = true) :
    document.equal same document = true ↔ ∀ value ∈ document.scalars, same value value = true := by
  induction document using induct with
  | object entries ih =>
    rw [distinct_object] at distinct
    rw [equal_object, scalars, scalarsOfEntries_eq, List.forall_mem_flatMap]
    simp only [true_and]
    refine forall₂_congr fun entry member => ?_
    rw [lookup_of_mem distinct.1 member]
    simp [ih entry member (distinct.2 entry member)]
  | array items ih =>
    rw [distinct_array] at distinct
    rw [equal_array, scalars, scalarsOfItems_eq, List.forall_mem_flatMap, List.forall₂_same]
    exact forall₂_congr fun item member => ih item member (distinct item member)
  | scalar value => simp [equal, scalars]

theorem distinct_arrange (order : κ → κ → Bool) (document : Document κ α) :
    (document.arrange order).distinct = document.distinct := by
  rw [Bool.eq_iff_iff]
  induction document using induct with
  | object entries ih =>
    have keys : (((entries.map fun entry => (entry.1, entry.2.arrange order)).mergeSort fun a b => order a.1 b.1).map
        (·.1)).Perm (entries.map (·.1)) := by
      have sorted := List.mergeSort_perm (entries.map fun entry => (entry.1, entry.2.arrange order))
        fun a b => order a.1 b.1
      simpa [Function.comp_def] using sorted.map (·.1)
    rw [arrange, arrangeEntries_eq, distinct_object, distinct_object, keys.nodup_iff]
    simp only [List.mem_mergeSort, List.forall_mem_map]
    exact and_congr_right fun _ => forall₂_congr ih
  | array items ih =>
    rw [arrange, arrangeItems_eq, distinct_array, distinct_array]
    simp only [List.forall_mem_map]
    exact forall₂_congr ih
  | scalar value => rfl

theorem distinct_map (f : α → β) (document : Document κ α) : (document.map f).distinct = document.distinct := by
  rw [Bool.eq_iff_iff]
  induction document using induct with
  | object entries ih =>
    rw [map, mapEntries_eq, distinct_object, distinct_object]
    simp only [List.map_map, Function.comp_def, List.forall_mem_map]
    refine and_congr_right fun _ => forall₂_congr fun entry member => ih entry member
  | array items ih =>
    rw [map, mapItems_eq, distinct_array, distinct_array]
    simp only [List.forall_mem_map]
    exact forall₂_congr fun item member => ih item member
  | scalar value => rfl

end equality

theorem map_id (document : Document κ α) : document.map id = document := by
  induction document using induct with
  | object entries ih =>
    rw [map, mapEntries_eq]
    congr 1
    conv_rhs => rw [← List.map_id entries]
    exact List.map_congr_left fun entry member => by rw [ih entry member]; rfl
  | array items ih =>
    rw [map, mapItems_eq]
    congr 1
    conv_rhs => rw [← List.map_id items]
    exact List.map_congr_left ih
  | scalar value => rfl

theorem scalars_map (f : α → β) (document : Document κ α) : (document.map f).scalars = document.scalars.map f := by
  induction document using induct with
  | object entries ih =>
    rw [map, mapEntries_eq, scalars, scalars, scalarsOfEntries_eq, scalarsOfEntries_eq, List.flatMap_map, List.map_flatMap]
    exact List.flatMap_congr ih
  | array items ih =>
    rw [map, mapItems_eq, scalars, scalars, scalarsOfItems_eq, scalarsOfItems_eq, List.flatMap_map, List.map_flatMap]
    exact List.flatMap_congr ih
  | scalar value => rfl

theorem mem_scalars_arrange (order : κ → κ → Bool) {document : Document κ α} {value : α} :
    value ∈ (document.arrange order).scalars ↔ value ∈ document.scalars := by
  induction document using induct with
  | object entries ih =>
    have sorted := (List.mergeSort_perm (entries.map fun entry => (entry.1, entry.2.arrange order))
      fun a b => order a.1 b.1).flatMap_right fun entry => entry.2.scalars
    rw [arrange, arrangeEntries_eq, scalars, scalars, scalarsOfEntries_eq, scalarsOfEntries_eq, sorted.mem_iff,
      List.flatMap_map, List.mem_flatMap, List.mem_flatMap]
    exact exists_congr fun entry => and_congr_right fun member => ih entry member
  | array items ih =>
    rw [arrange, arrangeItems_eq, scalars, scalars, scalarsOfItems_eq, scalarsOfItems_eq, List.flatMap_map,
      List.mem_flatMap, List.mem_flatMap]
    exact exists_congr fun item => and_congr_right fun member => ih item member
  | scalar value => rfl

theorem keysOfEntries_eq (entries : List (κ × Document κ α)) :
    keysOfEntries entries = entries.flatMap fun entry => entry.1 :: entry.2.keys := by
  induction entries with
  | nil => rfl
  | cons entry rest ih => simp [keysOfEntries, ih]

theorem keysOfItems_eq (items : List (Document κ α)) : keysOfItems items = items.flatMap keys := by
  induction items with
  | nil => rfl
  | cons item rest ih => simp [keysOfItems, ih]

theorem keys_map (f : α → β) (document : Document κ α) : (document.map f).keys = document.keys := by
  induction document using induct with
  | object entries ih =>
    rw [map, mapEntries_eq, keys, keys, keysOfEntries_eq, keysOfEntries_eq, List.flatMap_map]
    exact List.flatMap_congr fun entry member => congrArg (entry.1 :: ·) (ih entry member)
  | array items ih =>
    rw [map, mapItems_eq, keys, keys, keysOfItems_eq, keysOfItems_eq, List.flatMap_map]
    exact List.flatMap_congr ih
  | scalar value => rfl

end Document

end CareerProjects.Library
