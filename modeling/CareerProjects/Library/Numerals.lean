import CareerProjects.Library.Utf16
import Mathlib.Tactic.Ring

/-! Decimal numerals as Java strings, and the number that a list of digits stands for. -/

namespace CareerProjects.Library

namespace JavaString

def isDigit (unit : UInt16) : Bool := 48 ≤ unit.toNat && unit.toNat ≤ 57

/-- The number with the given digits. -/
def number (digits : JavaString) : Nat :=
  digits.foldl (fun value unit => 10 * value + (unit.toNat - 48)) 0

def decimal (n : Nat) : JavaString :=
  (Nat.toDigits 10 n).map fun digit => .ofNat digit.toNat

/-- `n` in at least `width` digits. -/
def padded (width n : Nat) : JavaString :=
  List.replicate (width - (decimal n).length) 48 ++ decimal n

/-- `Long.toString` and `BigInteger.toString`. -/
def integer (n : Int) : JavaString :=
  if n < 0 then 45 :: decimal n.natAbs else decimal n.natAbs

theorem digit_toNat {digit : Char} (h : digit.isDigit = true) :
    (UInt16.ofNat digit.toNat).toNat = digit.toNat := by
  have small : digit.toNat ≤ 57 := by
    simp only [Char.isDigit, Bool.and_eq_true, decide_eq_true_eq, ge_iff_le] at h
    exact h.2
  rw [UInt16.toNat_ofNat']
  omega

theorem isDigit_decimal (n : Nat) : ∀ unit ∈ decimal n, isDigit unit = true := by
  intro unit member
  obtain ⟨digit, known, rfl⟩ := List.mem_map.mp member
  have digits := Nat.isDigit_of_mem_toDigits (by omega) (by omega) known
  have range := digits
  simp only [Char.isDigit, Bool.and_eq_true, decide_eq_true_eq, ge_iff_le] at range
  rw [isDigit, digit_toNat digits]
  simp only [Bool.and_eq_true, decide_eq_true_eq]
  exact range

theorem isDigit_padded (width n : Nat) : ∀ unit ∈ padded width n, isDigit unit = true := by
  intro unit member
  rcases List.mem_append.mp member with zero | digit
  · rw [List.eq_of_mem_replicate zero]
    rfl
  · exact isDigit_decimal n unit digit

theorem decimal_ne_nil (n : Nat) : decimal n ≠ [] := by
  simp [decimal, Nat.toDigits_ne_nil]

theorem number_concat (front : JavaString) (last : UInt16) :
    number (front ++ [last]) = 10 * number front + (last.toNat - 48) := by
  rw [number, number, List.foldl_concat]

theorem number_append (front back : JavaString) :
    number (front ++ back) = number front * 10 ^ back.length + number back := by
  induction back using List.reverseRecOn with
  | nil => simp [number]
  | append_singleton back last ih =>
    rw [← List.append_assoc, number_concat, number_concat, ih, List.length_append,
      List.length_singleton, pow_succ]
    ring

theorem number_zeros (count : Nat) : number (List.replicate count 48) = 0 := by
  induction count with
  | zero => rfl
  | succ count ih =>
    rw [List.replicate_succ', number_append, ih]
    rfl

@[simp] theorem number_decimal (n : Nat) : number (decimal n) = n := by
  have digits := fun digit => @Nat.isDigit_of_mem_toDigits 10 n digit (by omega) (by omega)
  calc number (decimal n)
      = (Nat.toDigits 10 n).foldl (fun value digit => 10 * value + (digit.toNat - 48)) 0 := by
        rw [number, decimal, List.foldl_map]
        refine List.foldl_ext _ _ _ fun value digit member => ?_
        rw [digit_toNat (digits digit member)]
    _ = n := by simpa [Nat.ofDigitChars_eq_foldl] using @Nat.ofDigitChars_ten_toDigits n

@[simp] theorem number_padded (width n : Nat) : number (padded width n) = n := by
  rw [padded, number_append, number_zeros, number_decimal, zero_mul, zero_add]

theorem decimal_injective : Function.Injective decimal :=
  Function.LeftInverse.injective number_decimal

theorem length_padded {width n : Nat} (positive : 0 < width) (h : n < 10 ^ width) :
    (padded width n).length = width := by
  have short : (decimal n).length ≤ width := by
    rw [decimal, List.length_map]
    exact (Nat.length_toDigits_le_iff (by omega) positive).mpr h
  rw [padded, List.length_append, List.length_replicate]
  omega

theorem integer_injective : Function.Injective integer := by
  intro a b same
  have sign : ∀ n rest, decimal n ≠ 45 :: rest := by
    intro n rest shape
    have digit := isDigit_decimal n 45 (by simp [shape])
    simp [isDigit] at digit
  rw [integer, integer] at same
  split at same <;> split at same
  · have size := decimal_injective (List.cons.inj same).2
    omega
  · exact absurd same.symm (sign _ _)
  · exact absurd same (sign _ _)
  · have size := decimal_injective same
    omega

end JavaString

end CareerProjects.Library
