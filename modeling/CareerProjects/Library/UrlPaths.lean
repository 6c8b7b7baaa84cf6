import CareerProjects.Library.Utf8
import Mathlib.Data.List.TakeWhile
import Mathlib.Algebra.GroupWithZero.Nat

/-! Paths of URLs: percent escapes, delimiters and dot segments, each taken out by a function that
leaves a path as it is or makes it shorter. -/

namespace CareerProjects.Library

/-- Leaves a value as it is or makes it smaller. -/
def Shrinking {α : Type*} (size : α → ℕ) (f : α → α) : Prop := ∀ a, f a = a ∨ size (f a) < size a

namespace Shrinking

variable {α : Type*} {size : α → ℕ} {f g : α → α}

theorem le (shrinks : Shrinking size f) (a : α) : size (f a) ≤ size a := by
  have either := shrinks a
  by_cases fixed : f a = a
  · rw [fixed]
  · have smaller := either.resolve_left fixed
    omega

theorem comp (outer : Shrinking size g) (inner : Shrinking size f) : Shrinking size fun a => g (f a) := by
  intro a
  have later := outer.le (f a)
  by_cases fixed : f a = a
  · simp only [fixed]
    exact outer a
  · have smaller := (inner a).resolve_left fixed
    exact .inr (Nat.lt_of_le_of_lt later smaller)

theorem comp_eq_iff (outer : Shrinking size g) (inner : Shrinking size f) {a : α} :
    g (f a) = a ↔ f a = a ∧ g a = a := by
  constructor
  · intro same
    have fixed : f a = a := by
      by_contra moved
      have smaller := (inner a).resolve_left moved
      have later := outer.le (f a)
      rw [same] at later
      omega
    rw [fixed] at same
    exact ⟨fixed, same⟩
  · intro both
    rw [both.1, both.2]

end Shrinking

namespace UrlPath

open Utf8 (narrow narrowBytes narrow_cons narrow_append narrowBytes_append)

def hexValue (c : Char) : Option UInt8 :=
  if '0' ≤ c ∧ c ≤ '9' then some (.ofNat (c.toNat - 48))
  else if 'A' ≤ c ∧ c ≤ 'F' then some (.ofNat (c.toNat - 55))
  else if 'a' ≤ c ∧ c ≤ 'f' then some (.ofNat (c.toNat - 87))
  else none

def escaped : List Char → Option UInt8
  | mark :: a :: b :: _ =>
    if mark = '%' then (hexValue a).bind fun high => (hexValue b).map fun low => 16 * high + low else none
  | _ => none

/-- The bytes of a text after some characters that are skipped. -/
def unquoteFrom : ℕ → List Char → List UInt8
  | _, [] => []
  | skipped + 1, _ :: rest => unquoteFrom skipped rest
  | 0, c :: rest =>
    match escaped (c :: rest) with
    | some value => value :: unquoteFrom 2 rest
    | none => String.utf8EncodeChar c ++ unquoteFrom 0 rest

/-- Percent-decoding, once: well-formed escapes are read as bytes, and the bytes as UTF-8. -/
def unquote (text : List Char) : List Char := Utf8.decode (unquoteFrom 0 text)

def hexDigit (digit : UInt8) : Char := .ofNat (if digit < 10 then 48 + digit.toNat else 55 + digit.toNat)

def escape (value : UInt8) : List Char := ['%', hexDigit (value / 16), hexDigit (value % 16)]

/-- Percent-encoding of the characters that are not safe, after some that are kept. -/
def quoteFrom (safe : Char → Bool) : ℕ → List Char → List Char
  | _, [] => []
  | kept + 1, c :: rest => c :: quoteFrom safe kept rest
  | 0, c :: rest =>
    match escaped (c :: rest) with
    | some _ => c :: quoteFrom safe 2 rest
    | none =>
      (if safe c then [c] else (String.utf8EncodeChar c).flatMap escape) ++ quoteFrom safe 0 rest

/-- Percent-encoding that keeps well-formed escapes. -/
def quote (safe : Char → Bool) (text : List Char) : List Char := quoteFrom safe 0 text

def Unescaped (text : List Char) : Prop := ∀ rest, rest <:+ text → escaped rest = none

theorem escaped_eq_some {text : List Char} {value : UInt8} (found : escaped text = some value) :
    ∃ a b rest high low, text = '%' :: a :: b :: rest ∧ hexValue a = some high ∧ hexValue b = some low := by
  unfold escaped at found
  split at found
  · next mark a b rest =>
    by_cases percent : mark = '%'
    · rw [if_pos percent, Option.bind_eq_some_iff] at found
      obtain ⟨high, first, found⟩ := found
      rw [Option.map_eq_some_iff] at found
      obtain ⟨low, last, -⟩ := found
      exact ⟨a, b, rest, high, low, by rw [percent], first, last⟩
    · simp [percent] at found
  · cases found

theorem hexValue_narrow {c : Char} {value : UInt8} (hex : hexValue c = some value) : c.toNat < 0x80 := by
  unfold hexValue at hex
  simp only [Char.le_def, UInt32.le_iff_toNat_le] at hex
  have code : c.val.toNat = c.toNat := rfl
  have nine : '9'.val.toNat = 57 := rfl
  have upper : 'F'.val.toNat = 70 := rfl
  have lower : 'f'.val.toNat = 102 := rfl
  by_contra wide
  rw [if_neg (by omega), if_neg (by omega), if_neg (by omega)] at hex
  cases hex

theorem hexValue_hexDigit {digit : UInt8} (small : digit.toNat < 16) : hexValue (hexDigit digit) = some digit := by
  have table : ∀ n < 16, hexValue (hexDigit (.ofNat n)) = some (.ofNat n) := by decide +kernel
  have found := table digit.toNat small
  rwa [UInt8.ofNat_toNat] at found

theorem escaped_escape (value : UInt8) (rest : List Char) : escaped (escape value ++ rest) = some value := by
  have bound := value.toNat_lt
  have divided : (value / 16).toNat = value.toNat / 16 := UInt8.toNat_div ..
  have remaining : (value % 16).toNat = value.toNat % 16 := UInt8.toNat_mod ..
  have parts : 16 * (value / 16) + value % 16 = value := by
    apply UInt8.toNat_inj.mp
    simp only [UInt8.toNat_add, UInt8.toNat_mul, divided, remaining, UInt8.toNat_ofNat, Nat.reducePow,
      Nat.reduceMod]
    omega
  simp only [escape, List.cons_append, List.nil_append, escaped, if_true]
  rw [hexValue_hexDigit (by omega), hexValue_hexDigit (by omega)]
  simp [parts]

theorem unquoteFrom_escapes (values : List UInt8) (rest : List Char) :
    unquoteFrom 0 (values.flatMap escape ++ rest) = values ++ unquoteFrom 0 rest := by
  induction values with
  | nil => rfl
  | cons value values ih =>
    have found := escaped_escape value (values.flatMap escape ++ rest)
    rw [List.flatMap_cons, List.append_assoc]
    unfold escape at found ⊢
    rw [List.cons_append] at found ⊢
    rw [unquoteFrom, found]
    exact congrArg (value :: ·) ih

theorem quoteFrom_hex {safe : Char → Bool} {text out : List Char} {c : Char} {value : UInt8}
    (hex : hexValue c = some value) (shape : quoteFrom safe 0 text = c :: out) :
    ∃ rest, text = c :: rest ∧ out = quoteFrom safe 0 rest := by
  have mark : c ≠ '%' := by
    rintro rfl
    cases hex
  cases text with
  | nil => cases shape
  | cons d rest =>
    rw [quoteFrom] at shape
    cases found : escaped (d :: rest) with
    | some byte =>
      rw [found] at shape
      obtain ⟨a, b, others, high, low, whole, -⟩ := escaped_eq_some found
      simp only [List.cons.injEq] at shape whole
      exact absurd (shape.1.symm.trans whole.1) mark
    | none =>
      rw [found] at shape
      simp only at shape
      by_cases kept : safe d = true
      · rw [if_pos kept, List.singleton_append, List.cons.injEq] at shape
        exact ⟨rest, by rw [shape.1], shape.2.symm⟩
      · rw [if_neg kept] at shape
        -- an escape begins with its mark
        cases bytes : String.utf8EncodeChar d with
        | nil =>
          have positive := d.utf8Size_pos
          rw [← String.length_utf8EncodeChar, bytes, List.length_nil] at positive
          omega
        | cons byte bytes' =>
          rw [bytes, List.flatMap_cons, escape] at shape
          simp only [List.cons_append, List.cons.injEq] at shape
          exact absurd shape.1.symm mark

theorem escaped_quoteFrom {safe : Char → Bool} {c : Char} {rest : List Char} (plain : escaped (c :: rest) = none) :
    escaped (c :: quoteFrom safe 0 rest) = none := by
  by_contra some
  obtain ⟨value, found⟩ := Option.ne_none_iff_exists'.mp some
  obtain ⟨a, b, others, high, low, shape, first, last⟩ := escaped_eq_some found
  rw [List.cons.injEq] at shape
  obtain ⟨rest', same, shape'⟩ := quoteFrom_hex first shape.2
  obtain ⟨rest'', same', -⟩ := quoteFrom_hex last shape'.symm
  rw [same, same', shape.1, escaped, if_pos rfl, first, last] at plain
  cases plain

theorem unquoteFrom_quoteFrom (safe : Char → Bool) (skipped : ℕ) (text : List Char) :
    unquoteFrom skipped (quoteFrom safe skipped text) = unquoteFrom skipped text := by
  induction text generalizing skipped with
  | nil => cases skipped <;> rfl
  | cons c rest ih =>
    cases skipped with
    | succ skipped => exact ih skipped
    | zero =>
      cases found : escaped (c :: rest) with
      | some value =>
        obtain ⟨a, b, others, high, low, shape, -⟩ := escaped_eq_some found
        rw [List.cons.injEq] at shape
        have kept : escaped (c :: quoteFrom safe 2 rest) = some value := by
          rw [← found, shape.2]
          rfl
        rw [quoteFrom, found]
        simp only
        rw [unquoteFrom, kept, unquoteFrom, found]
        exact congrArg (value :: ·) (ih 2)
      | none =>
        rw [quoteFrom, found, unquoteFrom, found]
        simp only
        by_cases kept : safe c = true
        · rw [if_pos kept, List.singleton_append, unquoteFrom, escaped_quoteFrom found, ← ih 0]
        · rw [if_neg kept, unquoteFrom_escapes, ih 0]

theorem unquote_quote (safe : Char → Bool) (text : List Char) : unquote (quote safe text) = unquote text := by
  rw [unquote, quote, unquoteFrom_quoteFrom, unquote]

theorem Unescaped.tail {c : Char} {text : List Char} (plain : Unescaped (c :: text)) : Unescaped text :=
  fun rest suffix => plain rest (suffix.trans (List.suffix_cons c text))

theorem unescaped_cons {c : Char} {text : List Char} (head : escaped (c :: text) = none)
    (tail : Unescaped text) : Unescaped (c :: text) := by
  intro rest suffix
  rw [List.suffix_cons_iff] at suffix
  by_cases whole : rest = c :: text
  · rw [whole, head]
  · exact tail rest (suffix.resolve_left whole)

theorem unquoteFrom_of_unescaped {text : List Char} (plain : Unescaped text) :
    unquoteFrom 0 text = Utf8.encode text := by
  induction text with
  | nil => rfl
  | cons c text ih => rw [unquoteFrom, plain _ (List.suffix_refl _), ih plain.tail, Utf8.encode_cons]

theorem narrow_cons_of_lt {c : Char} {text : List Char} (small : c.toNat < 0x80) :
    narrow (c :: text) = narrow text + 1 := List.countP_cons_of_pos (by simpa using small)

theorem narrow_escape {c : Char} {rest : List Char} {value : UInt8} (found : escaped (c :: rest) = some value)
    (later : narrowBytes (unquoteFrom 2 rest) ≤ narrow (rest.drop 2)) :
    narrowBytes (unquoteFrom 0 (c :: rest)) < narrow (c :: rest) := by
  obtain ⟨a, b, others, high, low, shape, first, last⟩ := escaped_eq_some found
  have one : narrowBytes [value] ≤ 1 := List.countP_le_length
  rw [unquoteFrom, found]
  simp only
  rw [List.cons.injEq] at shape
  rw [shape.2, List.drop_succ_cons, List.drop_succ_cons, List.drop_zero] at later
  rw [← List.singleton_append (x := value), narrowBytes_append, shape.1, shape.2,
    narrow_cons_of_lt (by decide), narrow_cons_of_lt (hexValue_narrow first),
    narrow_cons_of_lt (hexValue_narrow last)]
  omega

theorem narrow_unescaped {c : Char} {rest : List Char} (plain : escaped (c :: rest) = none) :
    narrowBytes (unquoteFrom 0 (c :: rest)) = narrow [c] + narrowBytes (unquoteFrom 0 rest) := by
  rw [unquoteFrom, plain]
  simp only
  rw [narrowBytes_append, Utf8.narrowBytes_utf8EncodeChar]

theorem narrow_unquoteFrom_le (skipped : ℕ) (text : List Char) :
    narrowBytes (unquoteFrom skipped text) ≤ narrow (text.drop skipped) := by
  induction text generalizing skipped with
  | nil => cases skipped <;> simp [unquoteFrom, narrowBytes]
  | cons c rest ih =>
    cases skipped with
    | succ skipped => exact ih skipped
    | zero =>
      rw [List.drop_zero]
      cases found : escaped (c :: rest) with
      | some value =>
        have smaller := narrow_escape found (ih 2)
        omega
      | none =>
        have later := ih 0
        rw [List.drop_zero] at later
        rw [narrow_unescaped found, narrow_cons c rest]
        omega

theorem narrow_unquoteFrom_lt {text : List Char} (escapes : ¬Unescaped text) :
    narrowBytes (unquoteFrom 0 text) < narrow text := by
  induction text with
  | nil =>
    refine absurd (fun rest suffix => ?_) escapes
    rw [List.suffix_nil.mp suffix]
    rfl
  | cons c rest ih =>
    cases found : escaped (c :: rest) with
    | some value => exact narrow_escape found (narrow_unquoteFrom_le 2 rest)
    | none =>
      have later := ih fun plain => escapes (unescaped_cons found plain)
      rw [narrow_unescaped found, narrow_cons c rest]
      omega

theorem unquote_of_unescaped {text : List Char} (plain : Unescaped text) : unquote text = text := by
  rw [unquote, unquoteFrom_of_unescaped plain, Utf8.decode_encode]

theorem narrow_unquote_lt {text : List Char} (escapes : ¬Unescaped text) : narrow (unquote text) < narrow text := by
  rw [unquote, Utf8.narrow_decode]
  exact narrow_unquoteFrom_lt escapes

theorem shrinking_unquote : Shrinking narrow unquote := by
  intro text
  by_cases plain : Unescaped text
  · exact .inl (unquote_of_unescaped plain)
  · exact .inr (narrow_unquote_lt plain)

theorem unquote_eq_iff {text : List Char} : unquote text = text ↔ Unescaped text := by
  constructor
  · intro same
    by_contra escapes
    have smaller := narrow_unquote_lt escapes
    rw [same] at smaller
    omega
  · exact unquote_of_unescaped

def delimiter (c : Char) : Bool := c = '?' || c = '#'

/-- The part of a path before a query or a fragment. -/
def untilDelimiter (path : List Char) : List Char := path.takeWhile fun c => !delimiter c

theorem untilDelimiter_eq_iff {path : List Char} :
    untilDelimiter path = path ↔ ∀ c ∈ path, c ≠ '?' ∧ c ≠ '#' := by
  rw [untilDelimiter, List.takeWhile_eq_self_iff]
  simp [delimiter]

theorem shrinking_untilDelimiter : Shrinking narrow untilDelimiter := by
  intro path
  have parts := List.takeWhile_append_dropWhile (p := fun c => !delimiter c) (l := path)
  cases left : path.dropWhile fun c => !delimiter c with
  | nil =>
    rw [left, List.append_nil] at parts
    exact .inl parts
  | cons c rest =>
    have mark : delimiter c = true := by
      have stopped := List.head?_dropWhile_not (fun c => !delimiter c) path
      rw [left] at stopped
      simpa using stopped
    have small : c.toNat < 0x80 := by
      rw [delimiter, Bool.or_eq_true, decide_eq_true_iff, decide_eq_true_iff] at mark
      rcases mark with rfl | rfl <;> decide
    have sizes := congrArg narrow parts
    rw [left, narrow_append, narrow_cons_of_lt small] at sizes
    exact .inr (by rw [untilDelimiter]; omega)

def dots (segment : List Char) : Prop := segment = ['.'] ∨ segment = ['.', '.']

instance (segment : List Char) : Decidable (dots segment) := inferInstanceAs (Decidable (_ ∨ _))

/-- One segment of a path, after those that are kept so far. -/
def keepSegment (kept : List (List Char)) (segment : List Char) : List (List Char) :=
  if segment = ['.'] then kept
  else if segment = ['.', '.'] then
    if kept ≠ [] ∧ kept ≠ [[]] then kept.dropLast else kept
  else kept ++ [segment]

/-- A path without the segments `.` and `..`, of which the second takes the segment before it with it. -/
def removeDots (path : List Char) : List Char :=
  List.intercalate ['/'] ((path.splitOn '/').foldl keepSegment [])

/-- The characters of some segments and of a slash for each. -/
def width (segments : List (List Char)) : ℕ := (segments.map fun segment => narrow segment + 1).sum

theorem width_append (a b : List (List Char)) : width (a ++ b) = width a + width b := by
  rw [width, List.map_append, List.sum_append]
  rfl

theorem width_dropLast_le (segments : List (List Char)) : width segments.dropLast ≤ width segments := by
  by_cases none : segments = []
  · rw [none]
    exact Nat.le_refl _
  · have parts := congrArg width (List.dropLast_concat_getLast none)
    rw [width_append] at parts
    omega

theorem narrow_intercalate {segments : List (List Char)} (some : segments ≠ []) :
    narrow (List.intercalate ['/'] segments) + 1 = width segments := by
  induction segments with
  | nil => exact absurd rfl some
  | cons segment rest ih =>
    by_cases last : rest = []
    · rw [last, List.intercalate_singleton]
      simp [width]
    · have later := ih last
      rw [List.intercalate_cons_of_ne_nil last, narrow_append, narrow_append]
      have slash : narrow ['/'] = 1 := rfl
      have first : width (segment :: rest) = narrow segment + 1 + width rest := rfl
      omega

theorem keepSegment_of_not_dots {kept : List (List Char)} {segment : List Char} (plain : ¬dots segment) :
    keepSegment kept segment = kept ++ [segment] := by
  rw [dots, not_or] at plain
  rw [keepSegment, if_neg plain.1, if_neg plain.2]

theorem width_keepSegment_dots (kept : List (List Char)) {segment : List Char} (special : dots segment) :
    width (keepSegment kept segment) ≤ width kept := by
  unfold keepSegment
  by_cases one : segment = ['.']
  · rw [if_pos one]
  · have two := special.resolve_left one
    rw [if_neg one, if_pos two]
    by_cases more : kept ≠ [] ∧ kept ≠ [[]]
    · rw [if_pos more]
      exact width_dropLast_le kept
    · rw [if_neg more]

theorem foldl_keepSegment_plain {segments kept : List (List Char)} (plain : ∀ segment ∈ segments, ¬dots segment) :
    segments.foldl keepSegment kept = kept ++ segments := by
  induction segments generalizing kept with
  | nil => rw [List.foldl_nil, List.append_nil]
  | cons segment rest ih =>
    rw [List.forall_mem_cons] at plain
    rw [List.foldl_cons, keepSegment_of_not_dots plain.1, ih plain.2, List.append_assoc, List.singleton_append]

theorem width_foldl_le (segments kept : List (List Char)) :
    width (segments.foldl keepSegment kept) ≤ width kept + width segments := by
  induction segments generalizing kept with
  | nil => exact Nat.le_add_right _ _
  | cons segment rest ih =>
    have later := ih (keepSegment kept segment)
    have first : width (segment :: rest) = narrow segment + 1 + width rest := rfl
    rw [List.foldl_cons]
    by_cases special : dots segment
    · have same := width_keepSegment_dots kept special
      omega
    · rw [keepSegment_of_not_dots special, width_append] at later
      have single : width [segment] = narrow segment + 1 := rfl
      rw [keepSegment_of_not_dots special]
      omega

theorem width_foldl_lt {segments : List (List Char)} (kept : List (List Char))
    (special : ∃ segment ∈ segments, dots segment) :
    width (segments.foldl keepSegment kept) + 2 ≤ width kept + width segments := by
  induction segments generalizing kept with
  | nil => simp at special
  | cons segment rest ih =>
    have first : width (segment :: rest) = narrow segment + 1 + width rest := rfl
    rw [List.foldl_cons]
    by_cases here : dots segment
    · have same := width_keepSegment_dots kept here
      have later := width_foldl_le rest (keepSegment kept segment)
      have dot : 1 ≤ narrow segment := by
        rcases here with rfl | rfl <;> decide
      omega
    · rw [List.exists_mem_cons_iff] at special
      have later := ih (kept ++ [segment]) (special.resolve_left here)
      have single : width [segment] = narrow segment + 1 := rfl
      rw [width_append] at later
      rw [keepSegment_of_not_dots here]
      omega

theorem removeDots_of_plain {path : List Char} (plain : ∀ segment ∈ path.splitOn '/', ¬dots segment) :
    removeDots path = path := by
  rw [removeDots, foldl_keepSegment_plain plain, List.nil_append, List.intercalate_splitOn]

theorem narrow_removeDots_lt {path : List Char} (special : ∃ segment ∈ path.splitOn '/', dots segment) :
    narrow (removeDots path) < narrow path := by
  have smaller := width_foldl_lt [] special
  have whole := narrow_intercalate (List.splitOn_ne_nil '/' path)
  have nothing : width [] = 0 := rfl
  rw [List.intercalate_splitOn] at whole
  rw [removeDots]
  by_cases none : (path.splitOn '/').foldl keepSegment [] = []
  · rw [none, List.intercalate_nil]
    have zero : narrow [] = 0 := rfl
    omega
  · have kept := narrow_intercalate none
    omega

theorem shrinking_removeDots : Shrinking narrow removeDots := by
  intro path
  by_cases special : ∃ segment ∈ path.splitOn '/', dots segment
  · exact .inr (narrow_removeDots_lt special)
  · refine .inl (removeDots_of_plain fun segment member here => special ⟨segment, member, here⟩)

theorem removeDots_eq_iff {path : List Char} :
    removeDots path = path ↔ ∀ segment ∈ path.splitOn '/', ¬dots segment := by
  constructor
  · intro same segment member here
    have smaller := narrow_removeDots_lt ⟨segment, member, here⟩
    rw [same] at smaller
    omega
  · exact removeDots_of_plain

end UrlPath

end CareerProjects.Library
