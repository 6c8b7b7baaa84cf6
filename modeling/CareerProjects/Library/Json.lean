import CareerProjects.Library.Binary64
import Mathlib.Tactic.IntervalCases

/-! JSON values of Java strings: the trees a reader gives, the maps they are converted to,
and their compact text, with entries sorted by key, as Jackson writes it. The text tells
two maps apart, but for an infinite double and the text that names it. -/

namespace CareerProjects.Library

inductive Json where
  | object (entries : List (JavaString × Json))
  | array (items : List Json)
  | text (value : JavaString)
  | integer (value : Int)
  | double (value : Double)
  | boolean (value : Bool)
  | null

section SortedMap

variable {κ α : Type} [LT κ] [DecidableLT κ]

/-- Put an entry into a list sorted by key, in the place of an entry with the same key. -/
def put (key : κ) (value : α) : List (κ × α) → List (κ × α)
  | [] => [(key, value)]
  | entry :: rest =>
    if key < entry.1 then (key, value) :: entry :: rest
    else if entry.1 < key then entry :: put key value rest
    else (key, value) :: rest

def sortedMap (entries : List (κ × α)) : List (κ × α) :=
  entries.foldl (fun map entry => put entry.1 entry.2 map) []

theorem sortedMap_concat (entries : List (κ × α)) (last : κ × α) :
    sortedMap (entries ++ [last]) = put last.1 last.2 (sortedMap entries) := by
  rw [sortedMap, List.foldl_concat, sortedMap]

def Sorted (entries : List (κ × α)) : Prop := entries.Pairwise fun a b => a.1 < b.1

theorem mem_put {key : κ} {value : α} {entries : List (κ × α)} {entry : κ × α}
    (member : entry ∈ put key value entries) : entry = (key, value) ∨ entry ∈ entries := by
  induction entries with
  | nil => simpa [put] using member
  | cons first rest ih =>
    rw [put] at member
    split at member
    · simpa using member
    · split at member
      · rcases List.mem_cons.mp member with same | inside
        · simp [same]
        · rcases ih inside with same | inside
          · exact .inl same
          · simp [inside]
      · rcases List.mem_cons.mp member with same | inside
        · exact .inl same
        · simp [inside]

theorem Sorted.put [LE κ] [Std.IsLinearOrder κ] [Std.LawfulOrderLT κ] {entries : List (κ × α)}
    (sorted : Sorted entries) (key : κ) (value : α) : Sorted (put key value entries) := by
  induction entries with
  | nil => simp [Library.put, Sorted]
  | cons first rest ih =>
    have firstBelow := (List.pairwise_cons.mp sorted).1
    have restSorted := ih (List.pairwise_cons.mp sorted).2
    rw [Library.put]
    split
    · next below =>
      refine List.pairwise_cons.mpr ⟨fun entry member => ?_, sorted⟩
      rcases List.mem_cons.mp member with rfl | inside
      · exact below
      · exact Std.lt_trans below (firstBelow entry inside)
    · split
      · next above =>
        refine List.pairwise_cons.mpr ⟨fun entry member => ?_, restSorted⟩
        rcases mem_put member with rfl | inside
        · exact above
        · exact firstBelow entry inside
      · next notBelow notAbove =>
        have same : key = first.1 := by
          rcases Std.lt_trichotomy key first.1 with below | same | above
          · exact absurd below notBelow
          · exact same
          · exact absurd above notAbove
        refine List.pairwise_cons.mpr ⟨fun entry inside => ?_, (List.pairwise_cons.mp sorted).2⟩
        rw [same]
        exact firstBelow entry inside

theorem sorted_sortedMap [LE κ] [Std.IsLinearOrder κ] [Std.LawfulOrderLT κ]
    (entries : List (κ × α)) : Sorted (sortedMap entries) := by
  induction entries using List.reverseRecOn with
  | nil => simp [sortedMap, Sorted]
  | append_singleton entries entry ih =>
    rw [sortedMap_concat]
    exact ih.put entry.1 entry.2

theorem mem_sortedMap {entries : List (κ × α)} {entry : κ × α} (member : entry ∈ sortedMap entries) :
    entry ∈ entries := by
  induction entries using List.reverseRecOn with
  | nil => exact member
  | append_singleton entries last ih =>
    rw [sortedMap_concat] at member
    rcases mem_put member with same | inside
    · simp [same]
    · exact List.mem_append_left _ (ih inside)

theorem put_perm [LE κ] [Std.IsLinearOrder κ] [Std.LawfulOrderLT κ] {key : κ} {value : α}
    {entries : List (κ × α)} (fresh : key ∉ entries.map (·.1)) :
    (put key value entries).Perm ((key, value) :: entries) := by
  induction entries with
  | nil => exact .refl _
  | cons first rest ih =>
    rw [List.map_cons, List.mem_cons, not_or] at fresh
    rw [put]
    split
    · exact .refl _
    · split
      · exact ((ih fresh.2).cons first).trans (.swap ..)
      · next notBelow notAbove =>
        rcases Std.lt_trichotomy key first.1 with below | same | above
        · exact absurd below notBelow
        · exact absurd same fresh.1
        · exact absurd above notAbove

theorem sortedMap_perm [LE κ] [Std.IsLinearOrder κ] [Std.LawfulOrderLT κ] {entries : List (κ × α)}
    (distinct : (entries.map (·.1)).Nodup) : (sortedMap entries).Perm entries := by
  induction entries using List.reverseRecOn with
  | nil => exact .refl _
  | append_singleton entries last ih =>
    rw [List.map_append, List.nodup_append] at distinct
    have earlier := ih distinct.1
    have fresh : last.1 ∉ (sortedMap entries).map (·.1) := by
      rw [(earlier.map _).mem_iff]
      exact fun member => distinct.2.2 _ member _ (by simp) rfl
    rw [sortedMap_concat]
    exact (put_perm fresh).trans ((earlier.cons last).trans
      (List.perm_append_singleton last entries).symm)

theorem sum_put_le (size : κ × α → Nat) (key : κ) (value : α) (entries : List (κ × α)) :
    ((put key value entries).map size).sum ≤ size (key, value) + (entries.map size).sum := by
  induction entries with
  | nil => simp [put]
  | cons first rest ih =>
    rw [put]
    split
    · simp
    · split
      · simp only [List.map_cons, List.sum_cons]
        omega
      · simp only [List.map_cons, List.sum_cons]
        omega

theorem sum_sortedMap_le (size : κ × α → Nat) (entries : List (κ × α)) :
    ((sortedMap entries).map size).sum ≤ (entries.map size).sum := by
  induction entries using List.reverseRecOn with
  | nil => exact Nat.le_refl _
  | append_singleton entries last ih =>
    have step : _ ≤ size last + _ := sum_put_le size last.1 last.2 (sortedMap entries)
    rw [sortedMap_concat, List.map_append, List.sum_append, List.map_singleton, List.sum_singleton]
    omega

variable {κ' β : Type} [LT κ'] [DecidableLT κ'] {f : κ → κ'} {g : α → β}

theorem put_map {key : κ} {value : α} {entries : List (κ × α)}
    (mono : ∀ entry ∈ entries, (f key < f entry.1 ↔ key < entry.1) ∧
      (f entry.1 < f key ↔ entry.1 < key)) :
    put (f key) (g value) (entries.map (Prod.map f g)) = (put key value entries).map (Prod.map f g) := by
  induction entries with
  | nil => rfl
  | cons first rest ih =>
    obtain ⟨below, above⟩ := mono first List.mem_cons_self
    have others := ih fun entry member => mono entry (List.mem_cons_of_mem _ member)
    rw [List.map_cons, put, put]
    simp only [Prod.map_fst, below, above]
    split
    · rfl
    · split
      · rw [List.map_cons, others]
      · rfl

/-- A change of keys that keeps their order, and of values, may be made before or after. -/
theorem sortedMap_map {entries : List (κ × α)}
    (mono : ∀ a ∈ entries, ∀ b ∈ entries, (f a.1 < f b.1 ↔ a.1 < b.1)) :
    sortedMap (entries.map (Prod.map f g)) = (sortedMap entries).map (Prod.map f g) := by
  induction entries using List.reverseRecOn with
  | nil => rfl
  | append_singleton entries last ih =>
    have earlier := ih fun a memberA b memberB =>
      mono a (List.mem_append_left _ memberA) b (List.mem_append_left _ memberB)
    have atEnd : last ∈ entries ++ [last] := by simp
    rw [List.map_append, List.map_singleton, sortedMap_concat, sortedMap_concat, earlier]
    refine @put_map κ α _ _ κ' β _ _ f g last.1 last.2 _ fun entry member => ?_
    have inside : entry ∈ entries ++ [last] := List.mem_append_left _ (mem_sortedMap member)
    exact ⟨mono last atEnd entry inside, mono entry inside last atEnd⟩

end SortedMap

namespace Json

mutual

/-- Objects become maps: the last value of a key counts, and the keys are in order. -/
def toMap : Json → Json
  | .object entries => .object (sortedMap (toMapEntries entries))
  | .array items => .array (toMapItems items)
  | .text value => .text value
  | .integer value => .integer value
  | .double value => .double value
  | .boolean value => .boolean value
  | .null => .null

def toMapItems : List Json → List Json
  | [] => []
  | item :: rest => item.toMap :: toMapItems rest

def toMapEntries : List (JavaString × Json) → List (JavaString × Json)
  | [] => []
  | (key, value) :: rest => (key, value.toMap) :: toMapEntries rest

end

end Json

namespace JavaString

/-- `String.join` with a separator of one unit. -/
def join (separator : UInt16) : List JavaString → JavaString
  | [] => []
  | [text] => text
  | text :: rest => text ++ separator :: join separator rest

/-- A hexadecimal digit in upper case. -/
def hexDigit (digit : UInt16) : UInt16 := if digit < 10 then 48 + digit else 55 + digit

def escapeUnit (unit : UInt16) : JavaString :=
  if unit = 34 ∨ unit = 92 then [92, unit]
  else if unit = 8 then [92, 98]
  else if unit = 9 then [92, 116]
  else if unit = 10 then [92, 110]
  else if unit = 12 then [92, 102]
  else if unit = 13 then [92, 114]
  else if unit < 32 then [92, 117, 48, 48, hexDigit (unit / 16), hexDigit (unit % 16)]
  else [unit]

def quoted (text : JavaString) : JavaString := 34 :: (text.flatMap escapeUnit ++ [34])

end JavaString

open JavaString

namespace Json

mutual

def write : Json → JavaString
  | .object entries => 123 :: (join 44 (writeEntries entries) ++ [125])
  | .array items => 91 :: (join 44 (writeItems items) ++ [93])
  | .text value => quoted value
  | .integer value => JavaString.integer value
  | .double (.finite negative magnitude) => (Double.finite negative magnitude).toString
  | .double (.infinity negative) => quoted (Double.infinity negative).toString
  | .boolean value => if value then .ofString "true" else .ofString "false"
  | .null => .ofString "null"

def writeItems : List Json → List JavaString
  | [] => []
  | item :: rest => item.write :: writeItems rest

def writeEntries : List (JavaString × Json) → List JavaString
  | [] => []
  | (key, value) :: rest => (quoted key ++ 58 :: value.write) :: writeEntries rest

end

mutual

/-- The value that the text stands for: an infinite double is written as a string. -/
def plain : Json → Json
  | .object entries => .object (plainEntries entries)
  | .array items => .array (plainItems items)
  | .text value => .text value
  | .integer value => .integer value
  | .double (.finite negative magnitude) => .double (.finite negative magnitude)
  | .double (.infinity negative) => .text (Double.infinity negative).toString
  | .boolean value => .boolean value
  | .null => .null

def plainItems : List Json → List Json
  | [] => []
  | item :: rest => item.plain :: plainItems rest

def plainEntries : List (JavaString × Json) → List (JavaString × Json)
  | [] => []
  | (key, value) :: rest => (key, value.plain) :: plainEntries rest

end

end Json

namespace JavaString

def hexValue (unit : UInt16) : UInt16 := if unit < 58 then unit - 48 else unit - 55

/-- The unit that an escape sequence stands for, and what follows it. -/
def readUnit : JavaString → Option (UInt16 × JavaString)
  | 92 :: 117 :: _ :: _ :: high :: low :: rest => some (hexValue high * 16 + hexValue low, rest)
  | 92 :: 98 :: rest => some (8, rest)
  | 92 :: 116 :: rest => some (9, rest)
  | 92 :: 110 :: rest => some (10, rest)
  | 92 :: 102 :: rest => some (12, rest)
  | 92 :: 114 :: rest => some (13, rest)
  | 92 :: unit :: rest => some (unit, rest)
  | unit :: rest => if unit = 34 then none else some (unit, rest)
  | [] => none

theorem hexValue_hexDigit {unit : UInt16} (small : unit < 32) :
    hexValue (hexDigit (unit / 16)) * 16 + hexValue (hexDigit (unit % 16)) = unit := by
  have bound : unit.toNat < 32 := UInt16.lt_iff_toNat_lt.mp small
  rw [← UInt16.ofNat_toNat (x := unit)]
  generalize unit.toNat = code at bound
  interval_cases code <;> rfl

theorem readUnit_escapeUnit (unit : UInt16) (rest : JavaString) :
    readUnit (escapeUnit unit ++ rest) = some (unit, rest) := by
  rw [escapeUnit]
  split
  · next special =>
    rcases special with rfl | rfl <;> simp [readUnit]
  · next plain =>
    rw [not_or] at plain
    split
    · simp_all [readUnit]
    · split
      · simp_all [readUnit]
      · split
        · simp_all [readUnit]
        · split
          · simp_all [readUnit]
          · split
            · simp_all [readUnit]
            · split
              · next small =>
                simp [readUnit, hexValue_hexDigit small]
              · simp [readUnit, plain]

theorem quoted_cut {a b r r' : JavaString} (same : quoted a ++ r = quoted b ++ r') :
    a = b ∧ r = r' := by
  simp only [quoted, List.cons_append, List.append_assoc, List.cons.injEq, true_and,
    List.nil_append] at same
  induction a generalizing b with
  | nil =>
    cases b with
    | nil => simpa using same
    | cons unit b =>
      have read := congrArg readUnit same
      rw [List.flatMap_cons, List.append_assoc, readUnit_escapeUnit] at read
      simp [readUnit] at read
  | cons unit a ih =>
    rw [List.flatMap_cons, List.append_assoc] at same
    have read := congrArg readUnit same
    cases b with
    | nil =>
      rw [readUnit_escapeUnit] at read
      simp [readUnit] at read
    | cons unit' b =>
      rw [List.flatMap_cons, List.append_assoc, readUnit_escapeUnit, readUnit_escapeUnit] at read
      simp only [Option.some.injEq, Prod.mk.injEq] at read
      have rest := ih read.2
      simp [read.1, rest]

/-- What may follow a value. -/
def Delimited (rest : JavaString) : Prop := ∀ unit ∈ rest.head?, unit = 44 ∨ unit = 93 ∨ unit = 125

def isNumeric (unit : UInt16) : Bool := isDigit unit || unit == 45 || unit == 46 || unit == 69

theorem numeric_cut {a b r r' : JavaString} (ha : ∀ unit ∈ a, isNumeric unit = true)
    (hb : ∀ unit ∈ b, isNumeric unit = true) (ends : Delimited r) (ends' : Delimited r')
    (same : a ++ r = b ++ r') : a = b ∧ r = r' := by
  have front : ∀ {c s : JavaString}, (∀ unit ∈ c, isNumeric unit = true) → Delimited s →
      (c ++ s).takeWhile isNumeric = c := by
    intro c s known ends
    rw [List.takeWhile_append_of_pos known]
    cases s with
    | nil => simp
    | cons first s =>
      have other : isNumeric first = false := by
        rcases ends first rfl with rfl | rfl | rfl <;> rfl
      simp [other]
  have first : a = b := by
    rw [← front ha ends, same, front hb ends']
  rw [first] at same
  exact ⟨first, List.append_cancel_left same⟩

end JavaString

namespace Json

/-- What the first unit says about a value. -/
def unitKind (unit : UInt16) : Nat :=
  if unit = 123 then 0
  else if unit = 91 then 1
  else if unit = 34 then 2
  else if unit = 116 ∨ unit = 102 then 4
  else if unit = 110 then 5
  else if isDigit unit ∨ unit = 45 then 3
  else 6

def kind : Json → Nat
  | .object _ => 0
  | .array _ => 1
  | .text _ => 2
  | .double (.infinity _) => 2
  | .integer _ => 3
  | .double (.finite _ _) => 3
  | .boolean _ => 4
  | .null => 5

theorem unitKind_digit {unit : UInt16} (digit : isDigit unit = true) : unitKind unit = 3 := by
  have other : ∀ special : UInt16, isDigit special = false → unit ≠ special := by
    rintro special none rfl
    simp [digit] at none
  simp [unitKind, digit, other 123 rfl, other 91 rfl, other 34 rfl, other 116 rfl, other 102 rfl,
    other 110 rfl]

theorem write_kind (value : Json) :
    ∃ unit rest, value.write = unit :: rest ∧ unitKind unit = value.kind := by
  have digits : ∀ n, ∃ unit rest, decimal n = unit :: rest ∧ unitKind unit = 3 := by
    intro n
    cases shape : decimal n with
    | nil => exact absurd shape (decimal_ne_nil n)
    | cons unit rest =>
      exact ⟨unit, rest, rfl, unitKind_digit (isDigit_decimal n unit (by simp [shape]))⟩
  cases value with
  | object entries => exact ⟨_, _, by rw [write], rfl⟩
  | array items => exact ⟨_, _, by rw [write], rfl⟩
  | text value => exact ⟨_, _, by rw [write, quoted], rfl⟩
  | integer value =>
    rw [write, JavaString.integer]
    split
    · exact ⟨_, _, rfl, rfl⟩
    · exact digits _
  | double value =>
    cases value with
    | infinity negative => exact ⟨_, _, by rw [write, quoted], rfl⟩
    | finite negative magnitude =>
      rw [write, Double.toString]
      split
      · exact ⟨_, _, rfl, rfl⟩
      · obtain ⟨unit, rest, shape, digit⟩ := magnitude.text_digit
        exact ⟨unit, rest, shape, unitKind_digit digit⟩
  | boolean value => cases value <;> exact ⟨_, _, by rw [write]; rfl, rfl⟩
  | null => exact ⟨_, _, by rw [write]; rfl, rfl⟩

theorem kind_le (value : Json) : value.kind ≤ 5 := by
  unfold kind
  split <;> omega

theorem kind_eq {a b : Json} {r r' : JavaString} (same : a.write ++ r = b.write ++ r') :
    a.kind = b.kind := by
  obtain ⟨unit, rest, shape, known⟩ := write_kind a
  obtain ⟨unit', rest', shape', known'⟩ := write_kind b
  rw [shape, shape'] at same
  rw [← known, ← known', (List.cons.inj same).1]

theorem integer_numeric (n : Int) : 46 ∉ JavaString.integer n ∧
    ∀ unit ∈ JavaString.integer n, isNumeric unit = true := by
  have digits := isDigit_decimal n.natAbs
  have point := not_mem_digits (show isDigit 46 = false by rfl) digits
  rw [JavaString.integer]
  split
  · refine ⟨by simpa using point, fun unit member => ?_⟩
    rcases List.mem_cons.mp member with rfl | digit
    · rfl
    · simp [isNumeric, digits unit digit]
  · exact ⟨point, fun unit member => by simp [isNumeric, digits unit member]⟩

theorem double_numeric (negative : Bool) (magnitude : Magnitude) :
    46 ∈ (Double.finite negative magnitude).toString ∧
      ∀ unit ∈ (Double.finite negative magnitude).toString, isNumeric unit = true := by
  obtain ⟨point, units⟩ := magnitude.text_units
  have numeric : ∀ unit ∈ magnitude.text, isNumeric unit = true := by
    intro unit member
    simpa [isNumeric, or_assoc] using units unit member
  cases negative with
  | true =>
    rw [Double.toString_negative]
    refine ⟨List.mem_cons_of_mem _ point, fun unit member => ?_⟩
    rcases List.mem_cons.mp member with rfl | inside
    · rfl
    · exact numeric unit inside
  | false =>
    rw [Double.toString_positive]
    exact ⟨point, numeric⟩

theorem double_injective {negative negative' : Bool} {magnitude magnitude' : Magnitude}
    (same : (Double.finite negative magnitude).toString =
      (Double.finite negative' magnitude').toString) :
    Double.finite negative magnitude = .finite negative' magnitude' := by
  rw [← Double.valueOf_toString, ← Double.valueOf_toString negative', same]

/-- The string that a text or an infinite double is written as. -/
theorem write_text {value : Json} (known : value.kind = 2) :
    ∃ text, value.write = quoted text ∧ value.plain = .text text := by
  cases value with
  | text value => exact ⟨value, by rw [write], by rw [plain]⟩
  | double value =>
    cases value with
    | infinity negative => exact ⟨_, by rw [write], by rw [plain]⟩
    | finite negative magnitude => simp [kind] at known
  | _ => simp [kind] at known

theorem number_cut {a b : Json} {r r' : JavaString} (number : a.kind = 3) (number' : b.kind = 3)
    (ends : Delimited r) (ends' : Delimited r') (same : a.write ++ r = b.write ++ r') :
    a.plain = b.plain ∧ r = r' := by
  have shape : ∀ {value : Json}, value.kind = 3 →
      (∃ n, value = .integer n) ∨ ∃ negative magnitude, value = .double (.finite negative magnitude) := by
    intro value number
    unfold kind at number
    split at number <;> simp at number ⊢
  rcases shape number with ⟨n, rfl⟩ | ⟨negative, magnitude, rfl⟩
  · have token := integer_numeric n
    rcases shape number' with ⟨n', rfl⟩ | ⟨negative', magnitude', rfl⟩
    · obtain ⟨same, rest⟩ := numeric_cut token.2 (integer_numeric n').2 ends ends' same
      exact ⟨by rw [integer_injective same], rest⟩
    · have token' := double_numeric negative' magnitude'
      obtain ⟨same, -⟩ := numeric_cut token.2 token'.2 ends ends' same
      exact absurd (same ▸ token'.1) token.1
  · have token := double_numeric negative magnitude
    rcases shape number' with ⟨n', rfl⟩ | ⟨negative', magnitude', rfl⟩
    · have token' := integer_numeric n'
      obtain ⟨same, -⟩ := numeric_cut token.2 token'.2 ends ends' same
      exact absurd (same ▸ token.1) token'.1
    · obtain ⟨same, rest⟩ :=
        numeric_cut token.2 (double_numeric negative' magnitude').2 ends ends' same
      exact ⟨by rw [double_injective same], rest⟩

theorem boolean_cut {a b : Bool} {r r' : JavaString}
    (same : (boolean a).write ++ r = (boolean b).write ++ r') : a = b ∧ r = r' := by
  have names : JavaString.ofString "true" = [116, 114, 117, 101] ∧
      JavaString.ofString "false" = [102, 97, 108, 115, 101] := by decide
  cases a <;> cases b <;> simp_all [write]

/-- The first part of a list that is closed after it, and the rest. -/
theorem join_closed (text : JavaString) (texts : List JavaString) (separator : UInt16)
    (rest : JavaString) : join separator (text :: texts) ++ rest =
      text ++ if texts = [] then rest else separator :: (join separator texts ++ rest) := by
  cases texts <;> simp [join]

theorem closed_cut {texts texts' : List JavaString} {close : UInt16} {r r' : JavaString}
    (other : close ≠ 44)
    (same : (if texts = [] then close :: r else 44 :: (join 44 texts ++ close :: r)) =
      if texts' = [] then close :: r' else 44 :: (join 44 texts' ++ close :: r')) :
    join 44 texts ++ close :: r = join 44 texts' ++ close :: r' ∧ (texts = [] ↔ texts' = []) := by
  by_cases none : texts = [] <;> by_cases none' : texts' = []
  · simpa [none, none'] using same
  · simp [none, none', other] at same
  · simp [none, none', Ne.symm other] at same
  · simpa [none, none'] using same

theorem delimited_closed {texts : List JavaString} {close : UInt16} {r : JavaString}
    (known : close = 93 ∨ close = 125) :
    Delimited (if texts = [] then close :: r else 44 :: (join 44 texts ++ close :: r)) := by
  intro unit member
  split at member <;> simp at member <;> subst member <;> simp [known]

mutual

/-- Where one value follows another text, the text determines what it stands for. -/
theorem write_cut : ∀ (a b : Json) {r r' : JavaString}, Delimited r → Delimited r' →
    a.write ++ r = b.write ++ r' → a.plain = b.plain ∧ r = r'
  | .object entries, b, r, r', ends, ends', same => by
    have kinds := kind_eq same
    cases b with
    | object entries' =>
      simp only [write, List.cons_append, List.append_assoc, List.cons.injEq, true_and,
        List.nil_append] at same
      obtain ⟨inside, rest⟩ := entries_cut entries entries' same
      simp [plain, inside, rest]
    | double value => cases value <;> simp [kind] at kinds
    | _ => simp [kind] at kinds
  | .array items, b, r, r', ends, ends', same => by
    have kinds := kind_eq same
    cases b with
    | array items' =>
      simp only [write, List.cons_append, List.append_assoc, List.cons.injEq, true_and,
        List.nil_append] at same
      obtain ⟨inside, rest⟩ := items_cut items items' same
      simp [plain, inside, rest]
    | double value => cases value <;> simp [kind] at kinds
    | _ => simp [kind] at kinds
  | .text value, b, r, r', ends, ends', same => by
    have kinds := kind_eq same
    obtain ⟨text, shape, plainShape⟩ := write_text kinds.symm
    rw [write, shape] at same
    obtain ⟨rfl, rest⟩ := quoted_cut same
    exact ⟨by rw [plainShape, plain], rest⟩
  | .double (.infinity negative), b, r, r', ends, ends', same => by
    have kinds := kind_eq same
    obtain ⟨text, shape, plainShape⟩ := write_text kinds.symm
    rw [write, shape] at same
    obtain ⟨rfl, rest⟩ := quoted_cut same
    exact ⟨by rw [plainShape, plain], rest⟩
  | .integer value, b, r, r', ends, ends', same =>
    number_cut rfl (kind_eq same).symm ends ends' same
  | .double (.finite negative magnitude), b, r, r', ends, ends', same =>
    number_cut rfl (kind_eq same).symm ends ends' same
  | .boolean value, b, r, r', ends, ends', same => by
    have kinds := kind_eq same
    cases b with
    | boolean value' =>
      obtain ⟨rfl, rest⟩ := boolean_cut same
      exact ⟨rfl, rest⟩
    | double value => cases value <;> simp [kind] at kinds
    | _ => simp [kind] at kinds
  | .null, b, r, r', ends, ends', same => by
    have kinds := kind_eq same
    cases b with
    | null => exact ⟨rfl, List.append_cancel_left same⟩
    | double value => cases value <;> simp [kind] at kinds
    | _ => simp [kind] at kinds

theorem items_cut : ∀ (items items' : List Json) {r r' : JavaString},
    join 44 (writeItems items) ++ 93 :: r = join 44 (writeItems items') ++ 93 :: r' →
      plainItems items = plainItems items' ∧ r = r'
  | [], [], r, r', same => by
    simpa [writeItems, join, plainItems] using same
  | [], item :: items, r, r', same => by
    obtain ⟨unit, rest, shape, known⟩ := write_kind item
    have bound := kind_le item
    rw [writeItems, writeItems, join_closed, shape] at same
    rw [← (List.cons.inj same).1] at known
    simp [← known, unitKind, isDigit] at bound
  | item :: items, [], r, r', same => by
    obtain ⟨unit, rest, shape, known⟩ := write_kind item
    have bound := kind_le item
    rw [writeItems, writeItems, join_closed, shape] at same
    rw [(List.cons.inj same).1] at known
    simp [← known, unitKind, isDigit] at bound
  | item :: items, item' :: items', r, r', same => by
    rw [writeItems, writeItems, join_closed, join_closed] at same
    obtain ⟨first, after⟩ := write_cut item item' (delimited_closed (.inl rfl))
      (delimited_closed (.inl rfl)) same
    obtain ⟨others, -⟩ := closed_cut (by decide) after
    obtain ⟨inside, rest⟩ := items_cut items items' others
    simp [plainItems, first, inside, rest]

theorem entries_cut : ∀ (entries entries' : List (JavaString × Json)) {r r' : JavaString},
    join 44 (writeEntries entries) ++ 125 :: r = join 44 (writeEntries entries') ++ 125 :: r' →
      plainEntries entries = plainEntries entries' ∧ r = r'
  | [], [], r, r', same => by
    simpa [writeEntries, join, plainEntries] using same
  | [], (key, value) :: entries, r, r', same => by
    simp [writeEntries, join_closed, join, quoted] at same
  | (key, value) :: entries, [], r, r', same => by
    simp [writeEntries, join_closed, join, quoted] at same
  | (key, value) :: entries, (key', value') :: entries', r, r', same => by
    rw [writeEntries, writeEntries, join_closed, join_closed, List.append_assoc,
      List.append_assoc] at same
    obtain ⟨keys, colon⟩ := quoted_cut same
    obtain ⟨first, after⟩ := write_cut value value' (delimited_closed (.inr rfl))
      (delimited_closed (.inr rfl)) (List.cons.inj colon).2
    obtain ⟨others, -⟩ := closed_cut (by decide) after
    obtain ⟨inside, rest⟩ := entries_cut entries entries' others
    simp [plainEntries, keys, first, inside, rest]

end

mutual

theorem write_plain : ∀ value : Json, value.plain.write = value.write
  | .object entries => by
    rw [plain, write, write, writeEntries_plain]
  | .array items => by
    rw [plain, write, write, writeItems_plain]
  | .text _ => rfl
  | .integer _ => rfl
  | .double (.finite _ _) => by rw [plain]
  | .double (.infinity _) => by rw [plain, write, write]
  | .boolean _ => rfl
  | .null => rfl

theorem writeItems_plain : ∀ items : List Json, writeItems (plainItems items) = writeItems items
  | [] => rfl
  | item :: items => by
    rw [plainItems, writeItems, writeItems, write_plain item, writeItems_plain items]

theorem writeEntries_plain : ∀ entries : List (JavaString × Json),
    writeEntries (plainEntries entries) = writeEntries entries
  | [] => rfl
  | (key, value) :: entries => by
    rw [plainEntries, writeEntries, writeEntries, write_plain value, writeEntries_plain entries]

end

theorem write_eq_iff {a b : Json} : a.write = b.write ↔ a.plain = b.plain := by
  constructor
  · intro same
    have closed : a.write ++ [] = b.write ++ [] := by rw [same]
    exact (write_cut a b (by simp [Delimited]) (by simp [Delimited]) closed).1
  · intro same
    rw [← write_plain a, ← write_plain b, same]

end Json

namespace JavaString

theorem join_append (separator : UInt16) (text next : JavaString) (texts : List JavaString)
    (rest : JavaString) : join separator (text :: next :: texts) ++ rest =
      text ++ separator :: (join separator (next :: texts) ++ rest) := by
  simp [join]

theorem escapeUnit_large {unit : UInt16} (large : 127 ≤ unit.toNat) : escapeUnit unit = [unit] := by
  have other : ∀ special : UInt16, special.toNat < 127 → unit ≠ special := by
    rintro special below rfl
    omega
  have notSmall : ¬unit < 32 := by
    rw [UInt16.lt_iff_toNat_lt]
    exact fun below => absurd (Nat.lt_of_le_of_lt large below) (by decide)
  simp [escapeUnit, other 34 (by decide), other 92 (by decide), other 8 (by decide),
    other 9 (by decide), other 10 (by decide), other 12 (by decide), other 13 (by decide), notSmall]

theorem escapeUnit_cases (unit : UInt16) : escapeUnit unit = [unit] ∨
    isSurrogate unit = false ∧ ∀ escape ∈ escapeUnit unit, isSurrogate escape = false ∧ 32 ≤ escape := by
  by_cases small : unit.toNat < 127
  · right
    rw [← UInt16.ofNat_toNat (x := unit)]
    generalize unit.toNat = code at small
    interval_cases code <;> exact ⟨by decide, @of_decide_eq_true _ (List.decidableBAll _ _) (by decide)⟩
  · exact .inl (escapeUnit_large (by omega))

theorem escapeUnit_surrogate {unit : UInt16} (surrogate : isSurrogate unit = true) :
    escapeUnit unit = [unit] := by
  rcases escapeUnit_cases unit with same | ⟨other, -⟩
  · exact same
  · simp [surrogate] at other

theorem encoded_append_plain {front : JavaString} (plain : ∀ unit ∈ front, isSurrogate unit = false)
    (rest : JavaString) : encoded (front ++ rest) = front ++ encoded rest := by
  induction front with
  | nil => rfl
  | cons unit front ih =>
    rw [List.cons_append, encoded_cons (plain unit List.mem_cons_self),
      ih fun other member => plain other (List.mem_cons_of_mem _ member)]
    rfl

theorem encoded_escapeUnit {unit : UInt16} {rest : JavaString}
    (alone : ∀ next ∈ rest.head?, (isHighSurrogate unit && isLowSurrogate next) = false) :
    encoded (escapeUnit unit ++ rest) =
      escapeUnit (if isSurrogate unit then 63 else unit) ++ encoded rest := by
  by_cases surrogate : isSurrogate unit = true
  · rw [escapeUnit_surrogate surrogate, if_pos surrogate, List.singleton_append,
      encoded_alone alone, if_pos surrogate]
    rfl
  · rw [if_neg surrogate]
    have plain : ∀ escape ∈ escapeUnit unit, isSurrogate escape = false := by
      rcases escapeUnit_cases unit with same | ⟨-, known⟩
      · simpa [same] using surrogate
      · exact fun escape member => (known escape member).1
    exact encoded_append_plain plain rest

/-- What follows a unit is escaped to something that is no more its partner than before. -/
theorem head_escaped {unit next : UInt16} (alone : (isHighSurrogate unit && isLowSurrogate next) = false)
    (rest : JavaString) : ∀ first ∈ (escapeUnit next ++ rest).head?,
      (isHighSurrogate unit && isLowSurrogate first) = false := by
  intro first member
  rcases escapeUnit_cases next with same | ⟨-, known⟩
  · rw [same] at member
    cases member
    exact alone
  · cases shape : escapeUnit next with
    | nil =>
      have long : escapeUnit next ≠ [] := by
        rw [escapeUnit]
        repeat' split
        all_goals simp
      exact absurd shape long
    | cons escape escapes =>
      rw [shape] at member known
      cases member
      have plain := (known first List.mem_cons_self).1
      rw [isSurrogate, Bool.or_eq_false_iff] at plain
      simp [plain.2]

theorem encoded_escaped (text rest : JavaString) {close : UInt16}
    (closed : isSurrogate close = false) :
    encoded (text.flatMap escapeUnit ++ close :: rest) =
      (encoded text).flatMap escapeUnit ++ close :: encoded rest := by
  have noPartner : isLowSurrogate close = false := by
    rw [isSurrogate, Bool.or_eq_false_iff] at closed
    exact closed.2
  induction text using encoded.induct with
  | case1 => exact encoded_cons closed rest
  | case2 unit =>
    rw [List.flatMap_singleton, encoded_escapeUnit (by simp [noPartner]), encoded_cons closed, encoded,
      List.flatMap_singleton]
  | case3 high low text pair ih =>
    have surrogates : isSurrogate high = true ∧ isSurrogate low = true := by
      rw [Bool.and_eq_true] at pair
      simp [isSurrogate, pair]
    rw [encoded, if_pos pair]
    simp only [List.flatMap_cons, escapeUnit_surrogate surrogates.1,
      escapeUnit_surrogate surrogates.2, List.cons_append, List.nil_append]
    rw [encoded, if_pos pair, ih]
  | case4 high low text alone ih =>
    rw [Bool.not_eq_true] at alone
    rw [List.flatMap_cons, List.append_assoc, encoded_escapeUnit, ih, encoded, alone]
    · simp
    · rw [List.flatMap_cons, List.append_assoc]
      exact head_escaped alone _

theorem encoded_quoted (text rest : JavaString) :
    encoded (quoted text ++ rest) = quoted (encoded text) ++ encoded rest := by
  have quote : isSurrogate 34 = false := rfl
  simp only [quoted, List.cons_append, List.append_assoc, List.nil_append]
  rw [encoded_cons quote, encoded_escaped text rest quote]

end JavaString

namespace Json

mutual

/-- The value whose text is left after encoding. -/
def encoded : Json → Json
  | .object entries => .object (encodedEntries entries)
  | .array items => .array (encodedItems items)
  | .text value => .text (JavaString.encoded value)
  | .integer value => .integer value
  | .double value => .double value
  | .boolean value => .boolean value
  | .null => .null

def encodedItems : List Json → List Json
  | [] => []
  | item :: rest => item.encoded :: encodedItems rest

def encodedEntries : List (JavaString × Json) → List (JavaString × Json)
  | [] => []
  | (key, value) :: rest => (JavaString.encoded key, value.encoded) :: encodedEntries rest

end

theorem isSurrogate_numeric {unit : UInt16} (numeric : isNumeric unit = true) :
    isSurrogate unit = false ∧ 32 ≤ unit := by
  have bound : 32 ≤ unit.toNat ∧ unit.toNat < 70 := by
    simp only [isNumeric, isDigit, Bool.or_eq_true, Bool.and_eq_true, decide_eq_true_eq,
      beq_iff_eq] at numeric
    rcases numeric with ((digit | rfl) | rfl) | rfl
    · omega
    all_goals decide
  exact ⟨isSurrogate_small (by omega), UInt16.le_iff_toNat_le.mpr bound.1⟩

theorem write_atom {value : Json} (atom : value.kind = 3 ∨ value.kind = 4 ∨ value.kind = 5) :
    (∀ unit ∈ value.write, isSurrogate unit = false ∧ 32 ≤ unit) ∧ value.encoded = value := by
  cases value with
  | integer value =>
    refine ⟨fun unit member => isSurrogate_numeric ((integer_numeric value).2 unit ?_), by rw [encoded]⟩
    rwa [write] at member
  | double value =>
    cases value with
    | infinity negative => simp [kind] at atom
    | finite negative magnitude =>
      refine ⟨fun unit member => isSurrogate_numeric ((double_numeric negative magnitude).2 unit ?_),
        by rw [encoded]⟩
      rwa [write] at member
  | boolean value =>
    rw [write, encoded]
    refine ⟨?_, rfl⟩
    cases value <;> exact @of_decide_eq_true _ (List.decidableBAll _ _) (by decide)
  | null =>
    rw [write, encoded]
    exact ⟨@of_decide_eq_true _ (List.decidableBAll _ _) (by decide), rfl⟩
  | _ => simp [kind] at atom

mutual

theorem encoded_write : ∀ (value : Json) (rest : JavaString),
    JavaString.encoded (value.write ++ rest) = value.encoded.write ++ JavaString.encoded rest
  | .object entries, rest => by
    simp only [write, encoded, List.cons_append, List.append_assoc, List.nil_append]
    rw [encoded_cons rfl, encoded_writeEntries entries, encoded_cons rfl]
  | .array items, rest => by
    simp only [write, encoded, List.cons_append, List.append_assoc, List.nil_append]
    rw [encoded_cons rfl, encoded_writeItems items, encoded_cons rfl]
  | .text value, rest => by
    rw [write, encoded_quoted, encoded, write]
  | .double (.infinity negative), rest => by
    have plain : JavaString.encoded (Double.infinity negative).toString =
        (Double.infinity negative).toString := by
      cases negative <;> decide
    rw [write, encoded_quoted, encoded, write, plain]
  | .double (.finite negative magnitude), rest => by
    obtain ⟨units, same⟩ := @write_atom (.double (.finite negative magnitude)) (.inl rfl)
    rw [encoded_append_plain (fun unit member => (units unit member).1), same]
  | .integer value, rest => by
    obtain ⟨units, same⟩ := @write_atom (.integer value) (.inl rfl)
    rw [encoded_append_plain (fun unit member => (units unit member).1), same]
  | .boolean value, rest => by
    obtain ⟨units, same⟩ := @write_atom (.boolean value) (.inr (.inl rfl))
    rw [encoded_append_plain (fun unit member => (units unit member).1), same]
  | .null, rest => by
    obtain ⟨units, same⟩ := @write_atom (.null) (.inr (.inr rfl))
    rw [encoded_append_plain (fun unit member => (units unit member).1), same]

theorem encoded_writeItems : ∀ (items : List Json) (rest : JavaString),
    JavaString.encoded (join 44 (writeItems items) ++ rest) =
      join 44 (writeItems (encodedItems items)) ++ JavaString.encoded rest
  | [], rest => rfl
  | [item], rest => encoded_write item rest
  | item :: next :: items, rest => by
    have others := encoded_writeItems (next :: items) rest
    simp only [writeItems, encodedItems] at others ⊢
    rw [join_append, join_append, encoded_write item, encoded_cons rfl, others]

theorem encoded_writeEntries : ∀ (entries : List (JavaString × Json)) (rest : JavaString),
    JavaString.encoded (join 44 (writeEntries entries) ++ rest) =
      join 44 (writeEntries (encodedEntries entries)) ++ JavaString.encoded rest
  | [], rest => rfl
  | [(key, value)], rest => by
    simp only [writeEntries, encodedEntries, join, List.append_assoc, List.cons_append]
    rw [encoded_quoted, encoded_cons rfl, encoded_write value]
  | (key, value) :: next :: entries, rest => by
    have others := encoded_writeEntries (next :: entries) rest
    obtain ⟨key', value'⟩ := next
    simp only [writeEntries, encodedEntries] at others ⊢
    rw [join_append, join_append, List.append_assoc, List.append_assoc, List.cons_append,
      List.cons_append, encoded_quoted, encoded_cons rfl, encoded_write value, encoded_cons rfl, others]

end

theorem printable_quoted (text : JavaString) : ∀ unit ∈ quoted text, 32 ≤ unit := by
  intro unit member
  simp only [quoted, List.mem_cons, List.mem_append, List.mem_flatMap, List.not_mem_nil,
    or_false] at member
  rcases member with rfl | ⟨source, -, escape⟩ | rfl
  · decide
  · rcases escapeUnit_cases source with same | ⟨-, known⟩
    · rw [same, List.mem_singleton] at escape
      rw [escape]
      by_contra small
      have control : source.toNat < 32 := by
        simpa [UInt16.le_iff_toNat_le] using small
      rw [← UInt16.ofNat_toNat (x := source)] at same
      generalize source.toNat = code at control same
      interval_cases code <;> exact absurd same (by decide)
    · exact (known unit escape).2
  · decide

theorem printable_join {texts : List JavaString} (known : ∀ text ∈ texts, ∀ unit ∈ text, 32 ≤ unit) :
    ∀ unit ∈ join 44 texts, 32 ≤ unit := by
  induction texts with
  | nil => simp [join]
  | cons text texts ih =>
    have first := known text List.mem_cons_self
    have others := ih fun other member => known other (List.mem_cons_of_mem _ member)
    cases texts with
    | nil => exact first
    | cons next texts =>
      intro unit member
      rw [join, List.mem_append, List.mem_cons] at member
      · rcases member with inside | rfl | inside
        · exact first unit inside
        · decide
        · exact others unit inside
      · simp

mutual

theorem printable_write : ∀ value : Json, ∀ unit ∈ value.write, 32 ≤ unit
  | .object entries => by
    have inside := printable_join (printable_entries entries)
    intro unit member
    simp only [write, List.mem_cons, List.mem_append, List.not_mem_nil, or_false] at member
    rcases member with rfl | member | rfl
    · decide
    · exact inside unit member
    · decide
  | .array items => by
    have inside := printable_join (printable_items items)
    intro unit member
    simp only [write, List.mem_cons, List.mem_append, List.not_mem_nil, or_false] at member
    rcases member with rfl | member | rfl
    · decide
    · exact inside unit member
    · decide
  | .text value => by
    rw [write]
    exact printable_quoted value
  | .double (.infinity negative) => by
    rw [write]
    exact printable_quoted _
  | .double (.finite negative magnitude) => fun unit member =>
    ((@write_atom (.double (.finite negative magnitude)) (.inl rfl)).1 unit member).2
  | .integer value => fun unit member => ((@write_atom (.integer value) (.inl rfl)).1 unit member).2
  | .boolean value => fun unit member =>
    ((@write_atom (.boolean value) (.inr (.inl rfl))).1 unit member).2
  | .null => fun unit member => ((@write_atom .null (.inr (.inr rfl))).1 unit member).2

theorem printable_items : ∀ items : List Json, ∀ text ∈ writeItems items, ∀ unit ∈ text, 32 ≤ unit
  | [] => by simp [writeItems]
  | item :: items => by
    intro text member
    rw [writeItems, List.mem_cons] at member
    rcases member with rfl | inside
    · exact printable_write item
    · exact printable_items items text inside

theorem printable_entries : ∀ entries : List (JavaString × Json),
    ∀ text ∈ writeEntries entries, ∀ unit ∈ text, 32 ≤ unit
  | [] => by simp [writeEntries]
  | (key, value) :: entries => by
    intro text member
    rw [writeEntries, List.mem_cons] at member
    rcases member with rfl | inside
    · intro unit member
      rw [List.mem_append, List.mem_cons] at member
      rcases member with inside | rfl | inside
      · exact printable_quoted key unit inside
      · decide
      · exact printable_write value unit inside
    · exact printable_entries entries text inside

end

end Json

end CareerProjects.Library
