import Mathlib.Data.List.Basic
import Mathlib.Data.List.Count

/-! Bytes read as UTF-8 with U+FFFD in the place of what is ill formed. -/

namespace CareerProjects.Library.Utf8

def encode (text : List Char) : List UInt8 := text.flatMap String.utf8EncodeChar

@[simp] theorem encode_cons (c : Char) (text : List Char) :
    encode (c :: text) = String.utf8EncodeChar c ++ encode text := List.flatMap_cons

def first (bytes : List UInt8) : Option Char := bytes.toByteArray.utf8DecodeChar? 0

/-- The values a byte may have after this one in well-formed UTF-8, where three or four bytes are needed. -/
def second (lead : UInt8) : Option (UInt8 × UInt8) :=
  if lead = 0xE0 then some (0xA0, 0xBF)
  else if lead = 0xED then some (0x80, 0x9F)
  else if lead = 0xF0 then some (0x90, 0xBF)
  else if lead = 0xF4 then some (0x80, 0x8F)
  else if 0xE1 ≤ lead ∧ lead ≤ 0xF3 then some (0x80, 0xBF)
  else none

/-- How many bytes after the first belong to the same ill-formed sequence, of which one U+FFFD is
made. -/
def continued (lead : UInt8) : List UInt8 → ℕ
  | [] => 0
  | x :: rest =>
    match second lead with
    | none => 0
    | some (low, high) =>
      if low ≤ x ∧ x ≤ high then
        match rest with
        | [] => 1
        | y :: _ => if 0xF0 ≤ lead ∧ 0x80 ≤ y ∧ y ≤ 0xBF then 2 else 1
      else 0

/-- The text of the bytes after some that are skipped. -/
def decodeFrom : ℕ → List UInt8 → List Char
  | _, [] => []
  | skipped + 1, _ :: rest => decodeFrom skipped rest
  | 0, lead :: rest =>
    match first (lead :: rest) with
    | some c => c :: decodeFrom (c.utf8Size - 1) rest
    | none => '\uFFFD' :: decodeFrom (continued lead rest) rest

def decode (bytes : List UInt8) : List Char := decodeFrom 0 bytes

theorem decodeFrom_drop (skipped : ℕ) (bytes : List UInt8) :
    decodeFrom skipped bytes = decode (bytes.drop skipped) := by
  induction skipped generalizing bytes with
  | zero => rfl
  | succ skipped ih =>
    cases bytes with
    | nil => rfl
    | cons lead rest => exact ih rest

theorem first_append (c : Char) (bytes : List UInt8) : first (String.utf8EncodeChar c ++ bytes) = some c := by
  rw [first, List.toByteArray_append, ByteArray.utf8DecodeChar?_utf8EncodeChar_append]

theorem eq_append_of_first {bytes : List UInt8} {c : Char} (found : first bytes = some c) :
    ∃ rest, bytes = String.utf8EncodeChar c ++ rest := by
  obtain ⟨rest, shape⟩ := ByteArray.exists_of_utf8DecodeChar?_eq_some found
  refine ⟨rest.data.toList, ?_⟩
  have same : rest = rest.data.toList.toByteArray := by
    ext1
    simp
  rw [same, ← List.toByteArray_append, List.toByteArray_inj] at shape
  exact shape

theorem decode_append (c : Char) (bytes : List UInt8) :
    decode (String.utf8EncodeChar c ++ bytes) = c :: decode bytes := by
  have size := String.length_utf8EncodeChar c
  have found := first_append c bytes
  cases shape : String.utf8EncodeChar c with
  | nil =>
    have positive := c.utf8Size_pos
    rw [shape, List.length_nil] at size
    omega
  | cons lead others =>
    rw [shape, List.cons_append] at found
    rw [shape, List.length_cons] at size
    rw [List.cons_append, decode, decodeFrom, found]
    simp only [List.cons.injEq, true_and]
    rw [decodeFrom_drop, List.drop_left' (by omega)]

theorem decode_encode (text : List Char) : decode (encode text) = text := by
  induction text with
  | nil => rfl
  | cons c text ih => rw [encode_cons, decode_append, ih]

/-- How many characters of a text have one byte. -/
def narrow (text : List Char) : ℕ := text.countP fun c => c.toNat < 0x80

def narrowBytes (bytes : List UInt8) : ℕ := bytes.countP fun b => b < 0x80

@[simp] theorem narrow_append (a b : List Char) : narrow (a ++ b) = narrow a + narrow b := List.countP_append

@[simp] theorem narrowBytes_append (a b : List UInt8) : narrowBytes (a ++ b) = narrowBytes a + narrowBytes b :=
  List.countP_append

theorem narrow_cons (c : Char) (text : List Char) : narrow (c :: text) = narrow [c] + narrow text :=
  narrow_append [c] text

theorem ofNat_lt_iff {n : ℕ} (fits : n < 0x100) : UInt8.ofNat n < 0x80 ↔ n < 0x80 := by
  have least : (0x80 : UInt8).toNat = 0x80 := rfl
  rw [UInt8.lt_iff_toNat_lt, UInt8.toNat_ofNat', least]
  omega

theorem narrowBytes_utf8EncodeChar (c : Char) : narrowBytes (String.utf8EncodeChar c) = narrow [c] := by
  have value : c.val.toNat = c.toNat := rfl
  have wide : ∀ n, 0x80 ≤ n → n < 0x100 → ¬UInt8.ofNat n < 0x80 := by
    intro n low fits
    rw [ofNat_lt_iff fits]
    omega
  unfold narrowBytes narrow String.utf8EncodeChar
  simp only [value]
  by_cases one : c.toNat ≤ 0x7F
  · rw [if_pos one]
    have single := ofNat_lt_iff (n := c.toNat) (by omega)
    simp [single]
  · have several : ¬c.toNat < 0x80 := by omega
    rw [if_neg one, List.countP_eq_zero.mpr, List.countP_eq_zero.mpr]
    · simpa using several
    · -- every byte of a longer form has its highest bit set
      intro b member
      rw [decide_eq_true_iff]
      split at member
      · simp only [List.mem_cons, List.not_mem_nil, or_false] at member
        rcases member with rfl | rfl <;> exact wide _ (by omega) (by omega)
      · split at member
        · simp only [List.mem_cons, List.not_mem_nil, or_false] at member
          rcases member with rfl | rfl | rfl <;> exact wide _ (by omega) (by omega)
        · simp only [List.mem_cons, List.not_mem_nil, or_false] at member
          rcases member with rfl | rfl | rfl | rfl <;> exact wide _ (by omega) (by omega)

theorem second_wide {lead low high : UInt8} (range : second lead = some (low, high)) : 0x80 ≤ low := by
  unfold second at range
  grind

theorem continued_wide (lead : UInt8) (rest : List UInt8) :
    narrowBytes (rest.take (continued lead rest)) = 0 := by
  unfold continued
  cases rest with
  | nil => rfl
  | cons x rest =>
    cases range : second lead with
    | none => rfl
    | some bounds =>
      obtain ⟨low, high⟩ := bounds
      have least := second_wide range
      simp only
      by_cases inside : low ≤ x ∧ x ≤ high
      · have wide : 0x80 ≤ x := UInt8.le_trans least inside.1
        rw [if_pos inside]
        cases rest with
        | nil => simp [narrowBytes, wide]
        | cons y rest =>
          simp only
          by_cases more : 0xF0 ≤ lead ∧ 0x80 ≤ y ∧ y ≤ 0xBF
          · rw [if_pos more]
            simp [narrowBytes, wide, more.2.1]
          · rw [if_neg more]
            simp [narrowBytes, wide]
      · rw [if_neg inside]
        rfl

theorem utf8EncodeChar_ofNat {b : UInt8} (small : b < 0x80) :
    String.utf8EncodeChar (Char.ofNat b.toNat) = [b] := by
  have value := UInt8.lt_iff_toNat_lt.mp small
  have least : (0x80 : UInt8).toNat = 0x80 := rfl
  have valid : b.toNat.isValidChar := Or.inl (by omega)
  have code : (Char.ofNat b.toNat).val.toNat = b.toNat := by
    rw [Char.ofNat, dif_pos valid]
    rfl
  unfold String.utf8EncodeChar
  simp only [code]
  rw [if_pos (by omega), UInt8.ofNat_toNat]

theorem first_narrow {lead : UInt8} {rest : List UInt8} (small : lead < 0x80) :
    first (lead :: rest) = some (Char.ofNat lead.toNat) := by
  have found := first_append (Char.ofNat lead.toNat) rest
  rw [utf8EncodeChar_ofNat small, List.singleton_append] at found
  exact found

theorem narrow_decode (bytes : List UInt8) : narrow (decode bytes) = narrowBytes bytes := by
  induction size : bytes.length using Nat.strongRecOn generalizing bytes with
  | ind n ih =>
    cases bytes with
    | nil => rfl
    | cons lead rest =>
      cases found : first (lead :: rest) with
      | some c =>
        obtain ⟨others, shape⟩ := eq_append_of_first found
        have positive := c.utf8Size_pos
        have lengths := congrArg List.length shape
        rw [List.length_append, String.length_utf8EncodeChar] at lengths
        rw [shape, decode_append, narrowBytes_append, narrowBytes_utf8EncodeChar, narrow_cons,
          ih others.length (by omega) others rfl]
      | none =>
        have wide : ¬lead < 0x80 := fun small => by simp [first_narrow small] at found
        have kept := congrArg narrowBytes (List.take_append_drop (continued lead rest) rest)
        rw [narrowBytes_append, continued_wide] at kept
        have parts : narrowBytes (lead :: rest) = narrowBytes rest := by simp [narrowBytes, wide]
        have later := ih (rest.drop (continued lead rest)).length
          (by rw [List.length_cons] at size; simp; omega) _ rfl
        rw [decode, decodeFrom, found, parts]
        simp only
        rw [narrow_cons, decodeFrom_drop, later, ← kept]
        rfl

end CareerProjects.Library.Utf8
