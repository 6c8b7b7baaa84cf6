import CareerProjects.Library.Json
import CareerProjects.Library.Instant

/-! Python's strings, datetimes and JSON-like values, with their texts: `isoformat` and
`json.dumps`. -/

namespace CareerProjects.Library

abbrev CodePoint := Fin 0x110000

instance codePoints_neZero : NeZero 0x110000 := ⟨by decide⟩

/-- A `str`: any code points, also those of surrogates. -/
abbrev PythonString := List CodePoint

namespace PythonString

def ofString (text : String) : PythonString := text.toList.map fun character => .ofNat _ character.toNat

def ofUnits (text : JavaString) : PythonString := text.map fun unit => .ofNat _ unit.toNat

def codeUnits (point : CodePoint) : JavaString :=
  if point.val < 0x10000 then [.ofNat point.val]
  else [.ofNat (0xD800 + (point.val - 0x10000) / 0x400),
    .ofNat (0xDC00 + (point.val - 0x10000) % 0x400)]

def units (text : PythonString) : JavaString := text.flatMap codeUnits

/-- The character of a code point; a surrogate is none. -/
def character (point : CodePoint) : Option Char :=
  if point.val.isValidChar then some (.ofNat point.val) else none

/-- `encode("utf-8")`, or nothing where it raises `UnicodeEncodeError`. -/
def encode (text : PythonString) : Option (List UInt8) :=
  (text.mapM character).map fun characters => characters.flatMap String.utf8EncodeChar

@[simp] theorem units_nil : units [] = [] := rfl

@[simp] theorem units_append (a b : PythonString) : units (a ++ b) = units a ++ units b :=
  List.flatMap_append

@[simp] theorem units_cons (point : CodePoint) (text : PythonString) :
    units (point :: text) = codeUnits point ++ units text := List.flatMap_cons

@[simp] theorem units_ofUnits (text : JavaString) : units (ofUnits text) = text := by
  induction text with
  | nil => rfl
  | cons unit text ih =>
    have bound := unit.toNat_lt
    have value : (Fin.ofNat 0x110000 unit.toNat).val = unit.toNat := Nat.mod_eq_of_lt (by omega)
    rw [ofUnits, List.map_cons, units_cons, codeUnits, value, if_pos (by omega), UInt16.ofNat_toNat]
    exact congrArg (unit :: ·) ih

theorem codeUnits_character {point : CodePoint} {character : Char}
    (known : PythonString.character point = some character) :
    codeUnits point = JavaString.units character := by
  rw [PythonString.character] at known
  split at known
  · next valid =>
    cases known
    rw [codeUnits, JavaString.units, JavaString.ofNat_valid valid]
  · cases known

theorem characters_units {text : PythonString} {characters : List Char}
    (known : text.mapM character = some characters) :
    JavaString.characters (units text) = characters := by
  induction text generalizing characters with
  | nil =>
    cases known
    rfl
  | cons point text ih =>
    simp only [List.mapM_cons, Option.bind_eq_bind, Option.pure_def, Option.bind_eq_some_iff,
      Option.some.injEq] at known
    obtain ⟨first, here, others, rest, rfl⟩ := known
    rw [units_cons, codeUnits_character here, JavaString.characters_units, ih rest]

theorem encode_eq_getBytes {text : PythonString} {bytes : List UInt8}
    (known : encode text = some bytes) : bytes = JavaString.getBytes (units text) := by
  simp only [encode, Option.map_eq_some_iff] at known
  obtain ⟨characters, read, rfl⟩ := known
  rw [JavaString.getBytes, characters_units read]

end PythonString

namespace PythonString

/-- `replace`: what is left to skip belongs to an occurrence that was replaced. -/
def replaceFrom (old new : PythonString) : Nat → PythonString → PythonString
  | _, [] => []
  | skip + 1, _ :: rest => replaceFrom old new skip rest
  | 0, point :: rest =>
    if old.isPrefixOf (point :: rest) then new ++ replaceFrom old new (old.length - 1) rest
    else point :: replaceFrom old new 0 rest

def replace (text old new : PythonString) : PythonString := replaceFrom old new 0 text

theorem replaceFrom_skip (old new : PythonString) {skip : Nat} {text : PythonString}
    (short : text.length ≤ skip) : replaceFrom old new skip text = [] := by
  induction text generalizing skip with
  | nil => cases skip <;> rfl
  | cons point text ih =>
    cases skip with
    | zero => simp at short
    | succ skip => exact ih (Nat.le_of_succ_le_succ short)

theorem replace_suffix {front new : PythonString} {first : CodePoint} {rest : PythonString}
    (fresh : first ∉ front) :
    replace (front ++ first :: rest) (first :: rest) new = front ++ new := by
  have last : replaceFrom (first :: rest) new 0 (first :: rest) = new := by
    have whole : (first :: rest).isPrefixOf (first :: rest) = true := by
      exact List.isPrefixOf_iff_prefix.mpr (List.prefix_refl _)
    rw [replaceFrom, if_pos whole, replaceFrom_skip _ _ (by simp), List.append_nil]
  rw [replace]
  induction front with
  | nil => exact last
  | cons point front ih =>
    rw [List.mem_cons, not_or] at fresh
    have other : (first :: rest).isPrefixOf (point :: (front ++ first :: rest)) = false := by
      simp [List.isPrefixOf, fresh.1]
    rw [List.cons_append, replaceFrom, other, ih fresh.2]
    rfl

end PythonString

structure Datetime where
  date : LocalDate
  hour : Nat
  minute : Nat
  second : Nat
  microsecond : Nat
  dateValid : date.Valid
  yearRange : 1 ≤ date.year ∧ date.year ≤ 9999
  timeRange : hour < 24 ∧ minute < 60 ∧ second < 60
  microsecondRange : microsecond < 1000000

open JavaString in
/-- `isoformat()`: six digits of a second, or none. -/
def Datetime.isoformat (now : Datetime) : PythonString :=
  let fraction := if now.microsecond = 0 then [] else 46 :: padded 6 now.microsecond
  PythonString.ofUnits (padded 4 now.date.year.natAbs ++ 45 :: (padded 2 now.date.month ++
    45 :: (padded 2 now.date.day ++ 84 :: (padded 2 now.hour ++ 58 :: (padded 2 now.minute ++
      58 :: (padded 2 now.second ++ fraction)))))) ++ .ofString "+00:00"

inductive PythonValue where
  | dict (items : List (PythonString × PythonValue))
  | list (items : List PythonValue)
  | str (value : PythonString)
  | int (value : Int)
  | bool (value : Bool)
  | none

namespace PythonString

def hexDigit (digit : Nat) : CodePoint := .ofNat _ (if digit < 10 then 48 + digit else 87 + digit)

def escapeCode (code : Nat) : PythonString :=
  [92, 117, hexDigit (code / 4096 % 16), hexDigit (code / 256 % 16), hexDigit (code / 16 % 16),
    hexDigit (code % 16)]

/-- A character in a JSON string, as `ensure_ascii` has it. -/
def escape (point : CodePoint) : PythonString :=
  if point.val = 34 ∨ point.val = 92 then [92, point]
  else if 32 ≤ point.val ∧ point.val ≤ 126 then [point]
  else if point.val = 8 then [92, 98]
  else if point.val = 9 then [92, 116]
  else if point.val = 10 then [92, 110]
  else if point.val = 12 then [92, 102]
  else if point.val = 13 then [92, 114]
  else if point.val < 0x10000 then escapeCode point.val
  else escapeCode (0xD800 + (point.val - 0x10000) / 0x400) ++
    escapeCode (0xDC00 + (point.val - 0x10000) % 0x400)

def quoted (text : PythonString) : PythonString := 34 :: (text.flatMap escape ++ [34])

end PythonString

namespace PythonValue
open PythonString

mutual

def dumps (sortKeys : Bool) : PythonValue → PythonString
  | .dict items =>
    let texts := dumpsEntries sortKeys items
    let members := (if sortKeys then sortedMap texts else texts).map fun entry =>
      quoted entry.1 ++ 58 :: entry.2
    123 :: (List.intercalate [44] members ++ [125])
  | .list items => 91 :: (List.intercalate [44] (dumpsItems sortKeys items) ++ [93])
  | .str value => quoted value
  | .int value => ofUnits (JavaString.integer value)
  | .bool value => if value then .ofString "true" else .ofString "false"
  | .none => .ofString "null"

def dumpsItems (sortKeys : Bool) : List PythonValue → List PythonString
  | [] => []
  | item :: rest => dumps sortKeys item :: dumpsItems sortKeys rest

def dumpsEntries (sortKeys : Bool) :
    List (PythonString × PythonValue) → List (PythonString × PythonString)
  | [] => []
  | (key, value) :: rest => (key, dumps sortKeys value) :: dumpsEntries sortKeys rest

end

mutual

def received : PythonValue → Json
  | .dict items => .object (receivedEntries items)
  | .list items => .array (receivedItems items)
  | .str value => .text (units value)
  | .int value => .integer value
  | .bool value => .boolean value
  | .none => .null

def receivedItems : List PythonValue → List Json
  | [] => []
  | item :: rest => item.received :: receivedItems rest

def receivedEntries : List (PythonString × PythonValue) → List (JavaString × Json)
  | [] => []
  | (key, value) :: rest => (units key, value.received) :: receivedEntries rest

end

mutual

def distinct : PythonValue → Bool
  | .dict items => decide (items.map (·.1)).Nodup && distinctEntries items
  | .list items => distinctItems items
  | _ => true

def distinctItems : List PythonValue → Bool
  | [] => true
  | item :: rest => item.distinct && distinctItems rest

def distinctEntries : List (PythonString × PythonValue) → Bool
  | [] => true
  | (_, value) :: rest => value.distinct && distinctEntries rest

end

mutual

/-- All strings and keys, at every depth, are made of such code points. -/
def every (known : CodePoint → Bool) : PythonValue → Bool
  | .dict items => everyEntries known items
  | .list items => everyItems known items
  | .str value => value.all known
  | _ => true

def everyItems (known : CodePoint → Bool) : List PythonValue → Bool
  | [] => true
  | item :: rest => item.every known && everyItems known rest

def everyEntries (known : CodePoint → Bool) : List (PythonString × PythonValue) → Bool
  | [] => true
  | (key, value) :: rest => key.all known && value.every known && everyEntries known rest

end

end PythonValue

end CareerProjects.Library
