import Mathlib.Data.List.DropRight
import Mathlib.Data.List.Basic

/-! Strings of UTF-16 code units, as Java has them: any list of units is a string, also
one with surrogates that have no partner. Only encoding to UTF-8 tells the difference,
and writes a question mark for each of those. -/

namespace CareerProjects.Library

abbrev JavaString := List UInt16

namespace JavaString

def units (c : Char) : List UInt16 :=
  if c.toNat < 0x10000 then [.ofNat c.toNat]
  else [.ofNat (0xD800 + (c.toNat - 0x10000) / 0x400), .ofNat (0xDC00 + (c.toNat - 0x10000) % 0x400)]

def ofString (text : String) : JavaString := text.toList.flatMap units

/-- `Character.isWhitespace`: the spaces that may break a line, and some controls. -/
def isWhitespace (unit : UInt16) : Bool :=
  let code := unit.toNat
  (0x09 ≤ code && code ≤ 0x0D) || (0x1C ≤ code && code ≤ 0x20) || code == 0x1680 ||
    (0x2000 ≤ code && code ≤ 0x200A && code != 0x2007) || code == 0x2028 || code == 0x2029 ||
    code == 0x205F || code == 0x3000

def isBlank (text : JavaString) : Bool := text.all isWhitespace

theorem isBlank_append {a : JavaString} (known : isBlank a = false) (b : JavaString) :
    isBlank (a ++ b) = false := by
  simp only [isBlank, List.all_append, Bool.and_eq_false_iff] at known ⊢
  exact .inl known

def isTrimmed (unit : UInt16) : Bool := unit ≤ 0x20

/-- `trim` knows no spaces but the units up to `U+0020`. -/
def trim (text : JavaString) : JavaString :=
  (text.dropWhile isTrimmed).rdropWhile isTrimmed

theorem dropWhile_rdropWhile {α : Type*} {p : α → Bool} {l : List α} (h : l.dropWhile p = l) :
    (l.rdropWhile p).dropWhile p = l.rdropWhile p := by
  rw [List.dropWhile_eq_self_iff] at h ⊢
  intro long
  have kept := List.rdropWhile_prefix p (l := l)
  have first := h (Nat.lt_of_lt_of_le long kept.length_le)
  rwa [kept.getElem long]

theorem trim_trim (text : JavaString) : trim (trim text) = trim text := by
  have left : (trim text).dropWhile isTrimmed = trim text :=
    dropWhile_rdropWhile (List.dropWhile_idempotent ..)
  rw [trim, left]
  exact List.rdropWhile_idempotent ..

theorem trim_printable {text : JavaString} (printable : ∀ unit ∈ text, 32 < unit.toNat) :
    trim text = text := by
  have kept : ∀ unit ∈ text, isTrimmed unit = false := by
    intro unit member
    rw [isTrimmed, decide_eq_false_iff_not, UInt16.le_iff_toNat_le]
    exact not_le.mpr (printable unit member)
  have front : text.dropWhile isTrimmed = text := by
    rw [List.dropWhile_eq_self_iff]
    intro long
    simp [kept _ (List.getElem_mem long)]
  rw [trim, front, List.rdropWhile_eq_self_iff]
  intro long
  simp [kept _ (List.getLast_mem long)]

theorem cut_unique {unit : UInt16} {a b c d : JavaString} (ha : unit ∉ a) (hc : unit ∉ c)
    (same : a ++ unit :: b = c ++ unit :: d) : a = c ∧ b = d := by
  induction a generalizing c with
  | nil =>
    cases c with
    | nil => exact ⟨rfl, (List.cons.inj same).2⟩
    | cons first c =>
      rw [(List.cons.inj same).1] at hc
      exact absurd List.mem_cons_self hc
  | cons first a ih =>
    cases c with
    | nil =>
      rw [(List.cons.inj same).1] at ha
      exact absurd List.mem_cons_self ha
    | cons first' c =>
      obtain ⟨rfl, rest⟩ := List.cons.inj same
      obtain ⟨rfl, rfl⟩ := ih (List.not_mem_of_not_mem_cons ha) (List.not_mem_of_not_mem_cons hc) rest
      exact ⟨rfl, rfl⟩

theorem cut_last {unit : UInt16} {a b c d : JavaString} (hb : unit ∉ b) (hd : unit ∉ d)
    (same : a ++ unit :: b = c ++ unit :: d) : a = c ∧ b = d := by
  have mirrored := congrArg List.reverse same
  simp only [List.reverse_append, List.reverse_cons, List.append_assoc,
    List.singleton_append] at mirrored
  have cut := cut_unique (by simpa using hb) (by simpa using hd) mirrored
  exact ⟨List.reverse_injective cut.2, List.reverse_injective cut.1⟩

def isHighSurrogate (unit : UInt16) : Bool := 0xD800 ≤ unit && unit ≤ 0xDBFF

def isLowSurrogate (unit : UInt16) : Bool := 0xDC00 ≤ unit && unit ≤ 0xDFFF

def lonely (unit : UInt16) : Char :=
  if isHighSurrogate unit || isLowSurrogate unit then '?' else .ofNat unit.toNat

/-- The characters of a string, with a question mark for each surrogate that has no
partner. -/
def characters : JavaString → List Char
  | [] => []
  | [unit] => [lonely unit]
  | high :: low :: rest =>
    if isHighSurrogate high && isLowSurrogate low then
      .ofNat (0x10000 + (high.toNat - 0xD800) * 0x400 + (low.toNat - 0xDC00)) :: characters rest
    else lonely high :: characters (low :: rest)

def isSurrogate (unit : UInt16) : Bool := isHighSurrogate unit || isLowSurrogate unit

/-- What an encoder accepts that reports errors: every surrogate has its partner. -/
def isEncodable : JavaString → Bool
  | [] => true
  | [unit] => !isSurrogate unit
  | high :: low :: rest =>
    if isHighSurrogate high && isLowSurrogate low then isEncodable rest
    else !isSurrogate high && isEncodable (low :: rest)

/-- `getBytes(StandardCharsets.UTF_8)`. -/
def getBytes (text : JavaString) : List UInt8 :=
  (characters text).flatMap String.utf8EncodeChar

theorem getBytes_eq_iff {a b : JavaString} :
    getBytes a = getBytes b ↔ characters a = characters b := by
  refine ⟨fun same => ?_, fun same => by rw [getBytes, getBytes, same]⟩
  have bytes : (String.ofList (characters a)).toByteArray =
      (String.ofList (characters b)).toByteArray := by
    simpa [getBytes, List.utf8Encode] using congrArg List.toByteArray same
  exact String.ofList_injective (String.toByteArray_inj.mp bytes)

/-- The string that the bytes of a string decode to. -/
def encoded : JavaString → JavaString
  | [] => []
  | [unit] => [if isSurrogate unit then 63 else unit]
  | high :: low :: rest =>
    if isHighSurrogate high && isLowSurrogate low then high :: low :: encoded rest
    else (if isSurrogate high then 63 else high) :: encoded (low :: rest)

theorem isSurrogate_small {unit : UInt16} (small : unit.toNat < 0xD800) :
    isSurrogate unit = false := by
  rw [← Bool.not_eq_true]
  simp only [isSurrogate, isHighSurrogate, isLowSurrogate, Bool.or_eq_true, Bool.and_eq_true,
    decide_eq_true_eq, UInt16.le_iff_toNat_le, UInt16.toNat_ofNat]
  omega

theorem lonely_eq (unit : UInt16) :
    lonely unit = if isSurrogate unit then '?' else .ofNat unit.toNat := rfl

theorem ofNat_valid {code : Nat} (valid : code.isValidChar) : (Char.ofNat code).toNat = code := by
  rw [Char.ofNat, dif_pos valid]
  rfl

theorem units_lonely (unit : UInt16) :
    units (lonely unit) = [if isSurrogate unit then 63 else unit] := by
  have bound := unit.toNat_lt
  by_cases surrogate : isSurrogate unit = true
  · have question : units '?' = [63] := rfl
    rw [lonely_eq, if_pos surrogate, if_pos surrogate, question]
  · have valid : unit.toNat.isValidChar := by
      simp only [isSurrogate, isHighSurrogate, isLowSurrogate, Bool.or_eq_true, Bool.and_eq_true,
        decide_eq_true_eq, UInt16.le_iff_toNat_le, UInt16.toNat_ofNat] at surrogate
      simp only [Nat.isValidChar]
      omega
    rw [lonely_eq, if_neg surrogate, if_neg surrogate, units, ofNat_valid valid,
      if_pos (by omega), UInt16.ofNat_toNat]

theorem units_pair {high low : UInt16}
    (surrogates : (isHighSurrogate high && isLowSurrogate low) = true) :
    units (.ofNat (0x10000 + (high.toNat - 0xD800) * 0x400 + (low.toNat - 0xDC00))) =
      [high, low] := by
  simp only [isHighSurrogate, isLowSurrogate, Bool.and_eq_true, decide_eq_true_eq,
    UInt16.le_iff_toNat_le, UInt16.toNat_ofNat] at surrogates
  have valid : (0x10000 + (high.toNat - 0xD800) * 0x400 + (low.toNat - 0xDC00)).isValidChar := by
    simp only [Nat.isValidChar]
    omega
  rw [units, ofNat_valid valid, if_neg (by omega)]
  have first : 0xD800 + (0x10000 + (high.toNat - 0xD800) * 0x400 + (low.toNat - 0xDC00) - 0x10000) /
      0x400 = high.toNat := by omega
  have second : 0xDC00 + (0x10000 + (high.toNat - 0xD800) * 0x400 + (low.toNat - 0xDC00) - 0x10000) %
      0x400 = low.toNat := by omega
  rw [first, second, UInt16.ofNat_toNat, UInt16.ofNat_toNat]

theorem units_characters (text : JavaString) : (characters text).flatMap units = encoded text := by
  induction text using encoded.induct with
  | case1 => rfl
  | case2 unit => rw [characters, encoded, List.flatMap_singleton, units_lonely]
  | case3 high low rest pair ih =>
    rw [characters, encoded, if_pos pair, if_pos pair, List.flatMap_cons, units_pair pair, ih]
    rfl
  | case4 high low rest alone ih =>
    rw [characters, encoded, if_neg alone, if_neg alone, List.flatMap_cons, units_lonely, ih]
    rfl

theorem lonely_replaced (unit : UInt16) :
    lonely (if isSurrogate unit then 63 else unit) = lonely unit := by
  by_cases surrogate : isSurrogate unit = true
  · rw [if_pos surrogate]
    rw [lonely_eq unit, if_pos surrogate]
    rfl
  · rw [if_neg surrogate]

theorem characters_cons {unit : UInt16} (known : isSurrogate unit = false) (rest : JavaString) :
    characters (unit :: rest) = lonely unit :: characters rest := by
  cases rest with
  | nil => rw [characters, characters]
  | cons next rest =>
    have alone : ¬(isHighSurrogate unit && isLowSurrogate next) = true := by
      rw [isSurrogate, Bool.or_eq_false_iff] at known
      simp [known.1]
    rw [characters, if_neg alone]

theorem characters_encoded (text : JavaString) : characters (encoded text) = characters text := by
  have replaced : ∀ unit, isSurrogate (if isSurrogate unit then 63 else unit) = false := by
    intro unit
    by_cases surrogate : isSurrogate unit = true
    · rw [if_pos surrogate]
      rfl
    · rw [if_neg surrogate, ← Bool.not_eq_true]
      exact surrogate
  induction text using encoded.induct with
  | case1 => rfl
  | case2 unit => rw [encoded, characters, characters, lonely_replaced]
  | case3 high low rest pair ih =>
    rw [encoded, if_pos pair, characters, characters, if_pos pair, if_pos pair, ih]
  | case4 high low rest alone ih =>
    rw [encoded, if_neg alone, characters_cons (replaced high), lonely_replaced, ih, characters,
      if_neg alone]

theorem getBytes_eq_iff_encoded {a b : JavaString} :
    getBytes a = getBytes b ↔ encoded a = encoded b := by
  rw [getBytes_eq_iff]
  constructor
  · intro same
    rw [← units_characters, ← units_characters, same]
  · intro same
    rw [← characters_encoded a, ← characters_encoded b, same]

theorem encoded_alone {unit : UInt16} {rest : JavaString}
    (alone : ∀ next ∈ rest.head?, (isHighSurrogate unit && isLowSurrogate next) = false) :
    encoded (unit :: rest) = (if isSurrogate unit then 63 else unit) :: encoded rest := by
  cases rest with
  | nil => rw [encoded, encoded]
  | cons next rest =>
    have noPair := alone next rfl
    simp only [encoded, noPair, Bool.false_eq_true, if_false]

theorem encoded_cons {unit : UInt16} (known : isSurrogate unit = false) (rest : JavaString) :
    encoded (unit :: rest) = unit :: encoded rest := by
  have alone : isHighSurrogate unit = false := by
    rw [isSurrogate, Bool.or_eq_false_iff] at known
    exact known.1
  rw [encoded_alone (by simp [alone]), known]
  rfl

theorem encoded_append_cons (front : JavaString) {unit : UInt16} (known : isSurrogate unit = false)
    (rest : JavaString) : encoded (front ++ unit :: rest) = encoded front ++ unit :: encoded rest := by
  have noPair : ∀ high, ¬(isHighSurrogate high && isLowSurrogate unit) = true := by
    intro high
    rw [isSurrogate, Bool.or_eq_false_iff] at known
    simp [known.2]
  induction front using encoded.induct with
  | case1 => exact encoded_cons known rest
  | case2 last =>
    simp only [List.singleton_append, encoded, noPair last, encoded_cons known]
    rfl
  | case3 high low front pair ih =>
    rw [List.cons_append, List.cons_append, encoded, if_pos pair, ih, encoded, if_pos pair]
    rfl
  | case4 high low front alone ih =>
    rw [List.cons_append] at ih
    rw [List.cons_append, List.cons_append, encoded, if_neg alone, ih, encoded, if_neg alone]
    rfl

theorem encoded_of_plain {text : JavaString} (plain : ∀ unit ∈ text, isSurrogate unit = false) :
    encoded text = text := by
  induction text with
  | nil => rfl
  | cons unit text ih =>
    rw [encoded_cons (plain unit List.mem_cons_self),
      ih fun other member => plain other (List.mem_cons_of_mem _ member)]

theorem characters_units (character : Char) (rest : JavaString) :
    characters (units character ++ rest) = character :: characters rest := by
  have valid : character.toNat < 0xD800 ∨ 0xDFFF < character.toNat ∧ character.toNat < 0x110000 :=
    character.valid
  by_cases single : character.toNat < 0x10000
  · have value : (UInt16.ofNat character.toNat).toNat = character.toNat := by
      rw [UInt16.toNat_ofNat']
      omega
    have plain : isSurrogate (.ofNat character.toNat) = false := by
      rw [← Bool.not_eq_true]
      simp only [isSurrogate, isHighSurrogate, isLowSurrogate, Bool.or_eq_true, Bool.and_eq_true,
        decide_eq_true_eq, UInt16.le_iff_toNat_le, value, UInt16.toNat_ofNat]
      omega
    rw [units, if_pos single, List.singleton_append, characters_cons plain, lonely_eq, plain, value,
      Char.ofNat_toNat]
    rfl
  · have high : (UInt16.ofNat (0xD800 + (character.toNat - 0x10000) / 0x400)).toNat =
        0xD800 + (character.toNat - 0x10000) / 0x400 := by
      rw [UInt16.toNat_ofNat']
      omega
    have low : (UInt16.ofNat (0xDC00 + (character.toNat - 0x10000) % 0x400)).toNat =
        0xDC00 + (character.toNat - 0x10000) % 0x400 := by
      rw [UInt16.toNat_ofNat']
      omega
    have pair : (isHighSurrogate (.ofNat (0xD800 + (character.toNat - 0x10000) / 0x400)) &&
        isLowSurrogate (.ofNat (0xDC00 + (character.toNat - 0x10000) % 0x400))) = true := by
      simp only [isHighSurrogate, isLowSurrogate, Bool.and_eq_true, decide_eq_true_eq,
        UInt16.le_iff_toNat_le, high, low, UInt16.toNat_ofNat]
      omega
    have whole : 0x10000 + (0xD800 + (character.toNat - 0x10000) / 0x400 - 0xD800) * 0x400 +
        (0xDC00 + (character.toNat - 0x10000) % 0x400 - 0xDC00) = character.toNat := by
      omega
    rw [units, if_neg single]
    simp only [List.cons_append, List.nil_append, characters, pair, if_true, high, low, whole,
      Char.ofNat_toNat]

end JavaString

end CareerProjects.Library
