import CareerProjects.Library.Python

/-! The text of a value by `json.dumps` with sorted keys, next to the text that Jackson
writes of the same value with its keys in order. Jackson's text is never longer, and as
long only if nothing but ASCII below `U+007F` occurs; then the texts agree where no
control is escaped by a hexadecimal letter. -/

namespace CareerProjects.Library
open PythonString PythonValue

section Texts

variable {α β : Type}

theorem sum_map_le {f g : α → Nat} {l : List α} (le : ∀ x ∈ l, g x ≤ f x) :
    (l.map g).sum ≤ (l.map f).sum ∧ ((l.map g).sum = (l.map f).sum → ∀ x ∈ l, g x = f x) := by
  induction l with
  | nil => simp
  | cons x l ih =>
    have first := le x List.mem_cons_self
    have others := ih fun y member => le y (List.mem_cons_of_mem _ member)
    simp only [List.map_cons, List.sum_cons, List.forall_mem_cons]
    refine ⟨by omega, fun same => ⟨by omega, others.2 (by omega)⟩⟩

theorem flatMap_eq_iff {f g : α → List β} {l : List α}
    (lengths : ∀ x ∈ l, (g x).length = (f x).length) :
    l.flatMap g = l.flatMap f ↔ ∀ x ∈ l, g x = f x := by
  induction l with
  | nil => simp
  | cons x l ih =>
    have others := ih fun y member => lengths y (List.mem_cons_of_mem _ member)
    rw [List.flatMap_cons, List.flatMap_cons, List.forall_mem_cons, ← others]
    constructor
    · exact fun same => List.append_inj same (lengths x List.mem_cons_self)
    · rintro ⟨here, rest⟩
      rw [here, rest]

theorem length_join (separator : UInt16) (texts : List JavaString) :
    (JavaString.join separator texts).length = (texts.map fun text => text.length + 1).sum - 1 := by
  induction texts with
  | nil => rfl
  | cons text texts ih =>
    cases texts with
    | nil => simp [JavaString.join]
    | cons next texts =>
      rw [JavaString.join]
      · simp only [List.length_append, List.length_cons, List.map_cons, List.sum_cons] at ih ⊢
        omega
      · simp

theorem join_eq_iff {f g : α → JavaString} {separator : UInt16} {l : List α}
    (lengths : ∀ x ∈ l, (g x).length = (f x).length) :
    JavaString.join separator (l.map g) = JavaString.join separator (l.map f) ↔
      ∀ x ∈ l, g x = f x := by
  induction l with
  | nil => simp
  | cons x l ih =>
    have others := ih fun y member => lengths y (List.mem_cons_of_mem _ member)
    cases l with
    | nil => simp [JavaString.join]
    | cons y l =>
      rw [List.map_cons, List.map_cons, List.forall_mem_cons, ← others]
      simp only [List.map_cons, JavaString.join]
      constructor
      · intro same
        have parts := List.append_inj same (lengths x List.mem_cons_self)
        exact ⟨parts.1, (List.cons.inj parts.2).2⟩
      · rintro ⟨here, rest⟩
        rw [here, rest]

end Texts

def isBasic (point : CodePoint) : Bool := point.val ≤ 126

/-- Escaped in the same way by both: not by a hexadecimal letter. -/
def isPlain (point : CodePoint) : Bool :=
  point.val ≤ 126 && !(point.val == 11 || point.val == 14 || point.val == 15 ||
    (26 ≤ point.val && point.val ≤ 31))

/-- A character in a string that Jackson writes. -/
def jacksonEscape (point : CodePoint) : JavaString := (codeUnits point).flatMap JavaString.escapeUnit

theorem escape_table : ∀ code : Fin 127,
    let point : CodePoint := ⟨code.val, by omega⟩
    (jacksonEscape point).length = (units (escape point)).length ∧
      ((jacksonEscape point == units (escape point)) = isPlain point) := by
  decide +kernel

theorem length_hexDigit {digit : Nat} (small : digit < 16) :
    (codeUnits (hexDigit digit)).length = 1 := by
  interval_cases digit <;> rfl

theorem length_escapeCode (code : Nat) : (units (escapeCode code)).length = 6 := by
  have digit : ∀ value, (codeUnits (hexDigit (value % 16))).length = 1 := fun value =>
    length_hexDigit (Nat.mod_lt _ (by omega))
  have mark : (codeUnits 92).length = 1 ∧ (codeUnits 117).length = 1 := ⟨rfl, rfl⟩
  simp only [escapeCode, units_cons, units_nil, List.length_append, digit, mark, List.length_nil]

theorem length_escape (point : CodePoint) :
    (jacksonEscape point).length ≤ (units (escape point)).length ∧
      ((jacksonEscape point).length = (units (escape point)).length ↔ isBasic point = true) := by
  by_cases basic : point.val < 127
  · have same := (escape_table ⟨point.val, basic⟩).1
    refine ⟨same.le, fun _ => ?_, fun _ => same⟩
    rw [isBasic, decide_eq_true_eq]
    omega
  · have notBasic : isBasic point = false := by
      rw [isBasic, decide_eq_false_iff_not]
      omega
    have bound := point.isLt
    rw [notBasic, escape, if_neg (by omega), if_neg (by omega), if_neg (by omega), if_neg (by omega),
      if_neg (by omega), if_neg (by omega), if_neg (by omega), jacksonEscape, codeUnits]
    split
    · have value : (UInt16.ofNat point.val).toNat = point.val := by
        rw [UInt16.toNat_ofNat']
        omega
      rw [length_escapeCode, List.flatMap_singleton, JavaString.escapeUnit_large (by omega)]
      simp
    · have high : 127 ≤ (UInt16.ofNat (0xD800 + (point.val - 0x10000) / 0x400)).toNat := by
        rw [UInt16.toNat_ofNat']
        omega
      have low : 127 ≤ (UInt16.ofNat (0xDC00 + (point.val - 0x10000) % 0x400)).toNat := by
        rw [UInt16.toNat_ofNat']
        omega
      rw [units_append, List.length_append, length_escapeCode, length_escapeCode, List.flatMap_cons,
        List.flatMap_singleton, JavaString.escapeUnit_large high, JavaString.escapeUnit_large low]
      simp

theorem escape_eq_iff {point : CodePoint} (basic : isBasic point = true) :
    jacksonEscape point = units (escape point) ↔ isPlain point = true := by
  rw [isBasic, decide_eq_true_eq] at basic
  have table := (escape_table ⟨point.val, by omega⟩).2
  rw [← table, beq_iff_eq]

theorem units_quoted (text : PythonString) :
    units (PythonString.quoted text) = 34 :: ((text.flatMap fun point => units (escape point)) ++ [34]) := by
  have inside : units (text.flatMap escape) = text.flatMap fun point => units (escape point) := by
    rw [units, List.flatMap_assoc]
    rfl
  rw [PythonString.quoted, units_cons, units_append, inside]
  rfl

theorem quoted_units (text : PythonString) :
    JavaString.quoted (units text) = 34 :: (text.flatMap jacksonEscape ++ [34]) := by
  rw [JavaString.quoted, units, List.flatMap_assoc]
  rfl

theorem length_quoted (text : PythonString) :
    (JavaString.quoted (units text)).length ≤ (units (PythonString.quoted text)).length ∧
      ((JavaString.quoted (units text)).length = (units (PythonString.quoted text)).length ↔
        text.all isBasic = true) := by
  have sizes := @sum_map_le _ (fun point => (units (escape point)).length)
    (fun point => (jacksonEscape point).length) text fun point _ => (length_escape point).1
  rw [units_quoted, quoted_units]
  simp only [List.length_cons, List.length_append, List.length_flatMap, List.length_nil,
    List.all_eq_true]
  refine ⟨by omega, fun same point member => ?_, fun basic => ?_⟩
  · exact (length_escape point).2.mp (sizes.2 (by omega) point member)
  · have equal : text.map (fun point => (jacksonEscape point).length) =
        text.map fun point => (units (escape point)).length :=
      List.map_congr_left fun point member => (length_escape point).2.mpr (basic point member)
    rw [equal]

theorem quoted_eq_iff {text : PythonString} (basic : text.all isBasic = true) :
    JavaString.quoted (units text) = units (PythonString.quoted text) ↔ text.all isPlain = true := by
  rw [List.all_eq_true] at basic
  rw [units_quoted, quoted_units]
  simp only [List.cons.injEq, true_and, List.append_cancel_right_eq, List.all_eq_true]
  rw [flatMap_eq_iff fun point member => (length_escape point).2.mpr (basic point member)]
  exact forall₂_congr fun point member => escape_eq_iff (basic point member)

theorem units_lt_iff {a b : PythonString} (basicA : a.all isBasic = true)
    (basicB : b.all isBasic = true) : units a < units b ↔ a < b := by
  have single : ∀ point : CodePoint, isBasic point = true →
      codeUnits point = [.ofNat point.val] ∧ (UInt16.ofNat point.val).toNat = point.val := by
    intro point basic
    rw [isBasic, decide_eq_true_eq] at basic
    rw [codeUnits, if_pos (by omega), UInt16.toNat_ofNat']
    exact ⟨rfl, by omega⟩
  induction a generalizing b with
  | nil =>
    cases b with
    | nil => simp
    | cons point b =>
      rw [List.all_cons, Bool.and_eq_true] at basicB
      simp [(single point basicB.1).1]
  | cons point a ih =>
    rw [List.all_cons, Bool.and_eq_true] at basicA
    obtain ⟨unitsA, valueA⟩ := single point basicA.1
    cases b with
    | nil => simp
    | cons point' b =>
      rw [List.all_cons, Bool.and_eq_true] at basicB
      obtain ⟨unitsB, valueB⟩ := single point' basicB.1
      have tail := ih basicA.2 basicB.2
      rw [units_cons, units_cons, unitsA, unitsB, List.singleton_append, List.singleton_append,
        List.cons_lt_cons_iff, List.cons_lt_cons_iff, UInt16.lt_iff_toNat_lt, valueA, valueB,
        Fin.lt_def, ← UInt16.toNat_inj, valueA, valueB, Fin.ext_iff]
      simp only [tail]

/-- The text by `json.dumps(sort_keys=True)`. -/
def pythonText (value : PythonValue) : JavaString := units (value.dumps true)

/-- The text that Jackson writes of the value it received, as a map with ordered entries. -/
def jacksonText (value : PythonValue) : JavaString := value.received.toMap.write

def pythonEntry (entry : PythonString × PythonValue) : JavaString :=
  units (PythonString.quoted entry.1) ++ 58 :: pythonText entry.2

def jacksonEntry (entry : PythonString × PythonValue) : JavaString :=
  JavaString.quoted (units entry.1) ++ 58 :: jacksonText entry.2

theorem units_intercalate {point : CodePoint} {separator : UInt16}
    (single : units [point] = [separator]) (texts : List PythonString) :
    units (List.intercalate [point] texts) = JavaString.join separator (texts.map units) := by
  induction texts with
  | nil => rfl
  | cons text texts ih =>
    cases texts with
    | nil => simp [JavaString.join]
    | cons next texts =>
      rw [List.intercalate_cons_cons, units_append, units_append, ih, single]
      simp only [List.map_cons, JavaString.join, List.append_assoc, List.singleton_append]

theorem dumpsEntries_eq (items : List (PythonString × PythonValue)) :
    dumpsEntries true items = items.map (Prod.map id (dumps true)) := by
  induction items with
  | nil => rfl
  | cons item items ih =>
    rw [dumpsEntries, ih]
    rfl

theorem pythonText_dict (items : List (PythonString × PythonValue)) :
    pythonText (.dict items) = 123 :: (JavaString.join 44 ((sortedMap items).map pythonEntry) ++ [125]) := by
  have entries : sortedMap (dumpsEntries true items) =
      (sortedMap items).map (Prod.map id (dumps true)) := by
    rw [dumpsEntries_eq]
    exact sortedMap_map fun _ _ _ _ => Iff.rfl
  have members : (units ∘ fun entry => PythonString.quoted entry.1 ++ 58 :: entry.2) ∘
      Prod.map id (dumps true) = pythonEntry := by
    funext entry
    have colon : codeUnits 58 = [58] := rfl
    simp only [Function.comp_apply, Prod.map_fst, Prod.map_snd, id, units_append, units_cons, colon]
    rfl
  rw [pythonText, dumps, if_pos rfl, entries, units_cons, units_append, units_intercalate rfl,
    List.map_map, List.map_map, members]
  rfl

theorem pythonText_list (items : List PythonValue) :
    pythonText (.list items) = 91 :: (JavaString.join 44 (items.map pythonText) ++ [93]) := by
  have texts : (dumpsItems true items).map units = items.map pythonText := by
    induction items with
    | nil => rfl
    | cons item items ih =>
      rw [dumpsItems, List.map_cons, ih]
      rfl
  rw [pythonText, dumps, units_cons, units_append, units_intercalate rfl, texts]
  rfl

theorem writeEntries_eq (entries : List (JavaString × Json)) : Json.writeEntries entries =
    entries.map fun entry => JavaString.quoted entry.1 ++ 58 :: entry.2.write := by
  induction entries with
  | nil => rfl
  | cons entry entries ih =>
    rw [Json.writeEntries, ih]
    rfl

theorem toMapEntries_eq (items : List (PythonString × PythonValue)) :
    Json.toMapEntries (receivedEntries items) =
      items.map (Prod.map units fun value => value.received.toMap) := by
  induction items with
  | nil => rfl
  | cons item items ih =>
    rw [receivedEntries, Json.toMapEntries, ih]
    rfl

theorem jacksonText_dict (items : List (PythonString × PythonValue)) :
    jacksonText (.dict items) = 123 :: (JavaString.join 44
      ((sortedMap (items.map (Prod.map units fun value => value.received.toMap))).map fun entry =>
        JavaString.quoted entry.1 ++ 58 :: entry.2.write) ++ [125]) := by
  rw [jacksonText, received, Json.toMap, Json.write, writeEntries_eq, toMapEntries_eq]

theorem jacksonText_list (items : List PythonValue) :
    jacksonText (.list items) = 91 :: (JavaString.join 44 (items.map jacksonText) ++ [93]) := by
  have texts : Json.writeItems (Json.toMapItems (receivedItems items)) = items.map jacksonText := by
    induction items with
    | nil => rfl
    | cons item items ih =>
      rw [receivedItems, Json.toMapItems, Json.writeItems, ih]
      rfl
  rw [jacksonText, received, Json.toMap, Json.write, texts]

theorem jacksonText_scalar {value : PythonValue} (scalar : match value with
    | .dict _ | .list _ | .str _ => False
    | _ => True) : jacksonText value = pythonText value := by
  cases value with
  | int value => simp [jacksonText, pythonText, received, Json.toMap, Json.write, dumps]
  | bool value => cases value <;> rfl
  | none => rfl
  | _ => exact absurd scalar id

theorem str_texts (value : PythonString) :
    jacksonText (.str value) = JavaString.quoted (units value) ∧
      pythonText (.str value) = units (PythonString.quoted value) := by
  rw [jacksonText, received, Json.toMap, Json.write, pythonText, dumps]
  exact ⟨rfl, rfl⟩

theorem everyItems_eq (known : CodePoint → Bool) (items : List PythonValue) :
    everyItems known items = items.all (·.every known) := by
  induction items with
  | nil => rfl
  | cons item items ih => rw [everyItems, ih, List.all_cons]

theorem everyEntries_eq (known : CodePoint → Bool) (items : List (PythonString × PythonValue)) :
    everyEntries known items = items.all fun entry => entry.1.all known && entry.2.every known := by
  induction items with
  | nil => rfl
  | cons item items ih =>
    obtain ⟨key, value⟩ := item
    rw [everyEntries, ih, List.all_cons]

/-- Members as Jackson has them before it merges those with equal keys. -/
theorem sum_jacksonEntries_le (items : List (PythonString × PythonValue)) :
    (((sortedMap (items.map (Prod.map units fun value => value.received.toMap))).map fun entry =>
      JavaString.quoted entry.1 ++ 58 :: entry.2.write).map fun text => text.length + 1).sum ≤
      (items.map fun entry => (jacksonEntry entry).length + 1).sum := by
  have merged := sum_sortedMap_le
    (fun entry : JavaString × Json => (JavaString.quoted entry.1 ++ 58 :: entry.2.write).length + 1)
    (items.map (Prod.map units fun value => value.received.toMap))
  rw [List.map_map] at merged ⊢
  exact merged

theorem length_entry {entry : PythonString × PythonValue}
    (value : (jacksonText entry.2).length ≤ (pythonText entry.2).length ∧
      ((jacksonText entry.2).length = (pythonText entry.2).length → entry.2.every isBasic = true)) :
    (jacksonEntry entry).length ≤ (pythonEntry entry).length ∧
      ((jacksonEntry entry).length = (pythonEntry entry).length →
        entry.1.all isBasic = true ∧ entry.2.every isBasic = true) := by
  have key := length_quoted entry.1
  rw [jacksonEntry, pythonEntry, List.length_append, List.length_append, List.length_cons,
    List.length_cons]
  exact ⟨by omega, fun same => ⟨key.2.mp (by omega), value.2 (by omega)⟩⟩

mutual

/-- Jackson's text is not longer, and shorter where a character is not basic. -/
theorem length_text : ∀ value : PythonValue, value.distinct = true →
    (jacksonText value).length ≤ (pythonText value).length ∧
      ((jacksonText value).length = (pythonText value).length → value.every isBasic = true)
  | .dict items, distinct => by
    rw [PythonValue.distinct, Bool.and_eq_true, decide_eq_true_eq] at distinct
    have entries := length_entries items distinct.2
    have sizes := @sum_map_le _ (fun entry => (pythonEntry entry).length + 1)
      (fun entry => (jacksonEntry entry).length + 1) items fun entry member => by
        have := (entries entry member).1
        omega
    have merged := sum_jacksonEntries_le items
    have sorted : ((sortedMap items).map fun entry => (pythonEntry entry).length + 1).sum =
        (items.map fun entry => (pythonEntry entry).length + 1).sum :=
      ((sortedMap_perm distinct.1).map _).sum_eq
    rw [pythonText_dict, jacksonText_dict]
    simp only [List.length_cons, List.length_append, length_join, List.length_nil, List.map_map,
      Function.comp_def] at merged ⊢
    refine ⟨by omega, fun same => ?_⟩
    have large : items = [] ∨ 2 ≤ (items.map fun entry => (pythonEntry entry).length + 1).sum := by
      cases items with
      | nil => exact .inl rfl
      | cons entry items =>
        simp only [List.map_cons, List.sum_cons, pythonEntry, List.length_append, List.length_cons]
        omega
    rw [PythonValue.every, everyEntries_eq, List.all_eq_true]
    intro entry member
    rw [Bool.and_eq_true]
    refine (entries entry member).2 (Nat.succ.inj (sizes.2 ?_ entry member))
    rcases large with rfl | large
    · cases member
    · omega
  | .list items, distinct => by
    rw [PythonValue.distinct] at distinct
    have known := length_items items distinct
    have sizes := @sum_map_le _ (fun item => (pythonText item).length + 1)
      (fun item => (jacksonText item).length + 1) items fun item member => by
        have := (known item member).1
        omega
    rw [pythonText_list, jacksonText_list]
    simp only [List.length_cons, List.length_append, length_join, List.length_nil, List.map_map,
      Function.comp_def]
    refine ⟨by omega, fun same => ?_⟩
    have large : items = [] ∨ 1 ≤ (items.map fun item => (jacksonText item).length + 1).sum := by
      cases items with
      | nil => exact .inl rfl
      | cons item items =>
        simp only [List.map_cons, List.sum_cons]
        omega
    rw [PythonValue.every, everyItems_eq, List.all_eq_true]
    intro item member
    refine (known item member).2 (Nat.succ.inj (sizes.2 ?_ item member))
    rcases large with rfl | large
    · cases member
    · omega
  | .str value, _ => by
    have known := length_quoted value
    have texts := str_texts value
    rw [texts.1, texts.2, PythonValue.every]
    exact ⟨known.1, known.2.mp⟩
  | .int value, _ => by
    rw [@jacksonText_scalar (.int value) trivial]
    exact ⟨Nat.le_refl _, fun _ => rfl⟩
  | .bool value, _ => by
    rw [@jacksonText_scalar (.bool value) trivial]
    exact ⟨Nat.le_refl _, fun _ => rfl⟩
  | .none, _ => by
    rw [@jacksonText_scalar .none trivial]
    exact ⟨Nat.le_refl _, fun _ => rfl⟩

theorem length_items : ∀ items : List PythonValue, distinctItems items = true →
    ∀ item ∈ items, (jacksonText item).length ≤ (pythonText item).length ∧
      ((jacksonText item).length = (pythonText item).length → item.every isBasic = true)
  | [], _ => by simp
  | item :: items, distinct => by
    rw [distinctItems, Bool.and_eq_true] at distinct
    exact List.forall_mem_cons.mpr ⟨length_text item distinct.1, length_items items distinct.2⟩

theorem length_entries : ∀ items : List (PythonString × PythonValue), distinctEntries items = true →
    ∀ entry ∈ items, (jacksonEntry entry).length ≤ (pythonEntry entry).length ∧
      ((jacksonEntry entry).length = (pythonEntry entry).length →
        entry.1.all isBasic = true ∧ entry.2.every isBasic = true)
  | [], _ => by simp
  | (key, value) :: items, distinct => by
    rw [distinctEntries, Bool.and_eq_true] at distinct
    have known := length_text value distinct.1
    exact List.forall_mem_cons.mpr ⟨length_entry known, length_entries items distinct.2⟩

end

theorem closed_eq_iff {α : Type} {f g : α → JavaString} {l : List α} (opening close : UInt16)
    (lengths : ∀ x ∈ l, (g x).length = (f x).length) :
    (opening :: (JavaString.join 44 (l.map g) ++ [close])).length =
        (opening :: (JavaString.join 44 (l.map f) ++ [close])).length ∧
      (opening :: (JavaString.join 44 (l.map g) ++ [close]) =
          opening :: (JavaString.join 44 (l.map f) ++ [close]) ↔ ∀ x ∈ l, g x = f x) := by
  have sizes : (l.map g).map (fun text => text.length + 1) =
      (l.map f).map fun text => text.length + 1 := by
    rw [List.map_map, List.map_map]
    exact List.map_congr_left fun x member => congrArg Nat.succ (lengths x member)
  constructor
  · simp only [List.length_cons, List.length_append, length_join, sizes]
  · rw [List.cons_inj_right, List.append_left_inj, join_eq_iff lengths]

theorem entry_eq_iff {entry : PythonString × PythonValue} (basic : entry.1.all isBasic = true)
    (value : (jacksonText entry.2).length = (pythonText entry.2).length ∧
      (jacksonText entry.2 = pythonText entry.2 ↔ entry.2.every isPlain = true)) :
    (jacksonEntry entry).length = (pythonEntry entry).length ∧
      (jacksonEntry entry = pythonEntry entry ↔
        (entry.1.all isPlain && entry.2.every isPlain) = true) := by
  have lengths := (length_quoted entry.1).2.mpr basic
  have keys := quoted_eq_iff basic
  rw [Bool.and_eq_true, ← keys, ← value.2, jacksonEntry, pythonEntry, List.length_append,
    List.length_append, List.length_cons, List.length_cons, lengths, value.1]
  refine ⟨rfl, fun same => ?_, fun ⟨key, rest⟩ => by rw [key, rest]⟩
  have parts := List.append_inj same lengths
  exact ⟨parts.1, (List.cons.inj parts.2).2⟩

mutual

/-- Of basic characters, the texts have one length, and are equal if all are plain. -/
theorem text_eq_iff : ∀ value : PythonValue, value.distinct = true → value.every isBasic = true →
    (jacksonText value).length = (pythonText value).length ∧
      (jacksonText value = pythonText value ↔ value.every isPlain = true)
  | .dict items, distinct, basic => by
    rw [PythonValue.distinct, Bool.and_eq_true, decide_eq_true_eq] at distinct
    rw [PythonValue.every] at basic
    have entries := entries_eq_iff items distinct.2 basic
    rw [everyEntries_eq, List.all_eq_true] at basic
    have members : ∀ entry, entry ∈ sortedMap items ↔ entry ∈ items := fun _ =>
      (sortedMap_perm distinct.1).mem_iff
    have order : jacksonText (.dict items) =
        123 :: (JavaString.join 44 ((sortedMap items).map jacksonEntry) ++ [125]) := by
      rw [jacksonText_dict, sortedMap_map, List.map_map]
      · rfl
      · intro a memberA b memberB
        have basicA := basic a memberA
        have basicB := basic b memberB
        rw [Bool.and_eq_true] at basicA basicB
        exact units_lt_iff basicA.1 basicB.1
    have closed := closed_eq_iff 123 125 fun entry member =>
      (entries entry ((members entry).mp member)).1
    rw [order, pythonText_dict, PythonValue.every, everyEntries_eq, List.all_eq_true]
    refine ⟨closed.1, closed.2.trans ⟨fun same entry member => ?_, fun plain entry member => ?_⟩⟩
    · exact (entries entry member).2.mp (same entry ((members entry).mpr member))
    · have inside := (members entry).mp member
      exact (entries entry inside).2.mpr (plain entry inside)
  | .list items, distinct, basic => by
    rw [PythonValue.distinct] at distinct
    rw [PythonValue.every] at basic
    have known := items_eq_iff items distinct basic
    have closed := closed_eq_iff 91 93 fun item member => (known item member).1
    rw [jacksonText_list, pythonText_list, PythonValue.every, everyItems_eq, List.all_eq_true]
    exact ⟨closed.1, closed.2.trans (forall₂_congr fun item member => (known item member).2)⟩
  | .str value, _, basic => by
    have texts := str_texts value
    rw [PythonValue.every] at basic
    rw [texts.1, texts.2, PythonValue.every]
    exact ⟨(length_quoted value).2.mpr basic, quoted_eq_iff basic⟩
  | .int value, _, _ => by
    rw [@jacksonText_scalar (.int value) trivial]
    exact ⟨rfl, fun _ => rfl, fun _ => rfl⟩
  | .bool value, _, _ => by
    rw [@jacksonText_scalar (.bool value) trivial]
    exact ⟨rfl, fun _ => rfl, fun _ => rfl⟩
  | .none, _, _ => by
    rw [@jacksonText_scalar .none trivial]
    exact ⟨rfl, fun _ => rfl, fun _ => rfl⟩

theorem items_eq_iff : ∀ items : List PythonValue, distinctItems items = true →
    everyItems isBasic items = true → ∀ item ∈ items,
      (jacksonText item).length = (pythonText item).length ∧
        (jacksonText item = pythonText item ↔ item.every isPlain = true)
  | [], _, _ => by simp
  | item :: items, distinct, basic => by
    rw [distinctItems, Bool.and_eq_true] at distinct
    rw [everyItems, Bool.and_eq_true] at basic
    exact List.forall_mem_cons.mpr
      ⟨text_eq_iff item distinct.1 basic.1, items_eq_iff items distinct.2 basic.2⟩

theorem entries_eq_iff : ∀ items : List (PythonString × PythonValue), distinctEntries items = true →
    everyEntries isBasic items = true → ∀ entry ∈ items,
      (jacksonEntry entry).length = (pythonEntry entry).length ∧
        (jacksonEntry entry = pythonEntry entry ↔
          (entry.1.all isPlain && entry.2.every isPlain) = true)
  | [], _, _ => by simp
  | (key, value) :: items, distinct, basic => by
    rw [distinctEntries, Bool.and_eq_true] at distinct
    rw [everyEntries, Bool.and_eq_true, Bool.and_eq_true] at basic
    have known := text_eq_iff value distinct.1 basic.1.2
    exact List.forall_mem_cons.mpr
      ⟨entry_eq_iff basic.1.1 known, entries_eq_iff items distinct.2 basic.2⟩

end

theorem isBasic_of_isPlain {point : CodePoint} (plain : isPlain point = true) : isBasic point = true := by
  rw [isPlain, Bool.and_eq_true] at plain
  exact plain.1

mutual

theorem every_mono {p q : CodePoint → Bool} (le : ∀ point, p point = true → q point = true) :
    ∀ value : PythonValue, value.every p = true → value.every q = true
  | .dict items, known => by
    rw [PythonValue.every] at known ⊢
    exact everyEntries_mono le items known
  | .list items, known => by
    rw [PythonValue.every] at known ⊢
    exact everyItems_mono le items known
  | .str value, known => by
    rw [PythonValue.every, List.all_eq_true] at known ⊢
    exact fun point member => le point (known point member)
  | .int _, _ => rfl
  | .bool _, _ => rfl
  | .none, _ => rfl

theorem everyItems_mono {p q : CodePoint → Bool} (le : ∀ point, p point = true → q point = true) :
    ∀ items : List PythonValue, everyItems p items = true → everyItems q items = true
  | [], _ => rfl
  | item :: items, known => by
    rw [everyItems, Bool.and_eq_true] at known ⊢
    exact ⟨every_mono le item known.1, everyItems_mono le items known.2⟩

theorem everyEntries_mono {p q : CodePoint → Bool} (le : ∀ point, p point = true → q point = true) :
    ∀ items : List (PythonString × PythonValue), everyEntries p items = true →
      everyEntries q items = true
  | [], _ => rfl
  | (key, value) :: items, known => by
    rw [everyEntries, Bool.and_eq_true, Bool.and_eq_true, List.all_eq_true] at known ⊢
    exact ⟨⟨fun point member => le point (known.1.1 point member), every_mono le value known.1.2⟩,
      everyEntries_mono le items known.2⟩

end

/-- The texts, also after Jackson's is encoded, are equal if all characters are plain. -/
theorem jacksonText_eq_iff {value : PythonValue} (distinct : value.distinct = true) :
    jacksonText value = pythonText value ↔ value.every isPlain = true := by
  constructor
  · intro same
    have basic := (length_text value distinct).2 (congrArg List.length same)
    exact (text_eq_iff value distinct basic).2.mp same
  · intro plain
    have basic := every_mono (fun _ => isBasic_of_isPlain) value plain
    exact (text_eq_iff value distinct basic).2.mpr plain

end CareerProjects.Library
