import CareerProjects.Library.Numerals
import Mathlib.Algebra.Order.Floor.Semiring
import Mathlib.Data.Rat.Floor
import Mathlib.Algebra.Order.Field.Power
import Mathlib.Data.Nat.Log
import Mathlib.Tactic.FieldSimp

/-! The doubles that a decimal numeral can denote (all but the NaNs), rounding of a
rational to the nearest of them, and their shortest decimal text as `Double.toString`
gives it. The text of a finite double reads back as the double. -/

namespace CareerProjects.Library

def scale : Nat := 1074

/-- A finite magnitude `significand * 2 ^ shift`, in units of `2 ^ -scale`. -/
structure Magnitude where
  significand : Nat
  shift : Nat
  significandRange : significand < 2 ^ 53
  shiftRange : shift ≤ 2045
  normal : shift = 0 ∨ 2 ^ 52 ≤ significand
  deriving DecidableEq

inductive Double where
  | finite (negative : Bool) (magnitude : Magnitude)
  | infinity (negative : Bool)
  deriving DecidableEq

def roundHalfEven (x : ℚ) : Nat :=
  let below := ⌊x⌋₊
  if x - below < 1 / 2 then below
  else if 1 / 2 < x - below then below + 1
  else if below % 2 = 0 then below
  else below + 1

theorem roundHalfEven_natCast (n : Nat) : roundHalfEven n = n := by
  simp [roundHalfEven]

namespace Magnitude

def units (magnitude : Magnitude) : Nat := magnitude.significand * 2 ^ magnitude.shift

/-- The magnitude with these parts, if there is one. -/
def ofParts (significand shift : Nat) : Option Magnitude :=
  if valid : significand < 2 ^ 53 ∧ shift ≤ 2045 ∧ (shift = 0 ∨ 2 ^ 52 ≤ significand) then
    some ⟨significand, shift, valid.1, valid.2.1, valid.2.2⟩
  else none

/-- Round to nearest, ties to even; nothing where the result is too large. -/
def nearest (units : ℚ) : Option Magnitude :=
  let shift := Nat.log2 ⌊units⌋₊ - 52
  let significand := roundHalfEven (units / 2 ^ shift)
  if significand = 2 ^ 53 then ofParts (2 ^ 52) (shift + 1) else ofParts significand shift

theorem shift_of_units (magnitude : Magnitude) :
    Nat.log2 magnitude.units - 52 = magnitude.shift := by
  obtain ⟨significand, shift, small, -, normal⟩ := magnitude
  simp only [units]
  rcases normal with rfl | large
  · by_cases zero : significand = 0
    · simp [zero]
    · have log : significand.log2 < 53 := (Nat.log2_lt zero).mpr small
      rw [pow_zero, mul_one]
      omega
  · have power : 0 < 2 ^ shift := Nat.two_pow_pos shift
    have nonzero : significand * 2 ^ shift ≠ 0 := by positivity
    have log : (significand * 2 ^ shift).log2 = 52 + shift := by
      rw [Nat.log2_eq_iff nonzero, pow_add, show 52 + shift + 1 = 53 + shift by omega, pow_add 2 53]
      exact ⟨Nat.mul_le_mul_right _ large, Nat.mul_lt_mul_of_pos_right small power⟩
    omega

theorem nearest_units (magnitude : Magnitude) : nearest magnitude.units = some magnitude := by
  have exact : ((magnitude.units : ℚ) / 2 ^ magnitude.shift) = magnitude.significand := by
    rw [units]
    push_cast
    field_simp
  rw [nearest, Nat.floor_natCast, shift_of_units, exact, roundHalfEven_natCast,
    if_neg magnitude.significandRange.ne, ofParts, dif_pos ⟨magnitude.significandRange,
      magnitude.shiftRange, magnitude.normal⟩]

end Magnitude

structure Decimal where
  digits : Nat
  exponent : Int

namespace Decimal

def value (decimal : Decimal) : ℚ := decimal.digits * 10 ^ decimal.exponent

def RoundsTo (decimal : Decimal) (magnitude : Magnitude) : Prop :=
  Magnitude.nearest (decimal.value * 2 ^ scale) = some magnitude

instance (decimal : Decimal) (magnitude : Magnitude) : Decidable (decimal.RoundsTo magnitude) :=
  inferInstanceAs (Decidable (_ = _))

end Decimal

namespace Magnitude

def exactDecimal (magnitude : Magnitude) : Decimal := ⟨magnitude.units * 5 ^ scale, -scale⟩

theorem exactDecimal_roundsTo (magnitude : Magnitude) :
    magnitude.exactDecimal.RoundsTo magnitude := by
  have tens : (10 : ℚ) ^ scale = 5 ^ scale * 2 ^ scale := by
    rw [← mul_pow]
    norm_num
  have exact : magnitude.exactDecimal.value * 2 ^ scale = magnitude.units := by
    simp only [exactDecimal, Decimal.value, zpow_neg, zpow_natCast, tens, Nat.cast_mul,
      Nat.cast_pow, Nat.cast_ofNat]
    field_simp
  rw [Decimal.RoundsTo, exact, nearest_units]

/-- Of the two decimals of so many digits around the magnitude, the nearest one that rounds
to it, the even one if both are as near. -/
def candidate (magnitude : Magnitude) (length : Nat) : Decimal :=
  let whole := magnitude.exactDecimal.digits
  let position : Int := Nat.log 10 whole + 1 - length
  let scaled : ℚ := whole / 10 ^ position
  let below : Decimal := ⟨⌊scaled⌋₊, position - scale⟩
  let above : Decimal := ⟨⌊scaled⌋₊ + 1, position - scale⟩
  if ¬above.RoundsTo magnitude then below
  else if ¬below.RoundsTo magnitude then above
  else ⟨roundHalfEven scaled, position - scale⟩

/-- The shortest decimal of two digits or more that rounds to the magnitude. Seventeen digits
are enough for every double. -/
def shortest (magnitude : Magnitude) : Decimal :=
  (((List.range' 2 16).map magnitude.candidate).find? (·.RoundsTo magnitude)).getD
    magnitude.exactDecimal

theorem shortest_roundsTo (magnitude : Magnitude) : magnitude.shortest.RoundsTo magnitude := by
  rw [shortest]
  generalize (List.range' 2 16).map magnitude.candidate = candidates
  cases found : candidates.find? (·.RoundsTo magnitude) with
  | none => exact magnitude.exactDecimal_roundsTo
  | some decimal =>
    have rounds := List.find?_some found
    simpa using rounds

end Magnitude

namespace JavaString

/-- A numeral with a point whose first digit stands for `10 ^ exponent`: plain for exponents
from -3 to 6, else with the exponent after an `E`. -/
def pointed (digits : JavaString) (exponent : Int) : JavaString :=
  if -3 ≤ exponent ∧ exponent < 7 then
    if exponent < 0 then
      48 :: 46 :: (List.replicate (-exponent - 1).toNat 48 ++ digits)
    else
      let whole := exponent.toNat + 1
      (digits ++ List.replicate (whole - digits.length) 48).take whole ++
        46 :: (if digits.length ≤ whole then [48] else digits.drop whole)
  else
    digits.take 1 ++ 46 :: ((if digits.length ≤ 1 then [48] else digits.drop 1) ++
      69 :: integer exponent)

def isZero (unit : UInt16) : Bool := unit == 48

end JavaString

open JavaString

/-- The numeral of a decimal, its last zeros dropped. -/
def Decimal.text (decimal : Decimal) : JavaString :=
  let digits := JavaString.decimal decimal.digits
  pointed (digits.rdropWhile isZero) (decimal.exponent + digits.length - 1)

def Magnitude.text (magnitude : Magnitude) : JavaString :=
  if magnitude.significand = 0 then .ofString "0.0" else magnitude.shortest.text

def Double.toString : Double → JavaString
  | .finite negative magnitude => if negative then 45 :: magnitude.text else magnitude.text
  | .infinity negative => if negative then .ofString "-Infinity" else .ofString "Infinity"

@[simp] theorem Double.toString_positive (magnitude : Magnitude) :
    (Double.finite false magnitude).toString = magnitude.text := by
  simp only [Double.toString, Bool.false_eq_true, if_false]

@[simp] theorem Double.toString_negative (magnitude : Magnitude) :
    (Double.finite true magnitude).toString = 45 :: magnitude.text := by
  simp only [Double.toString, if_true]

namespace JavaString

def readInteger : JavaString → Int
  | 45 :: digits => -number digits
  | digits => number digits

/-- The value of digits with a point among them, times a power of ten. -/
def readMantissa (mantissa : JavaString) (exponent : Int) : ℚ :=
  let whole := mantissa.takeWhile (· != 46)
  let fraction := mantissa.drop (whole.length + 1)
  number (whole ++ fraction) * 10 ^ (exponent - fraction.length)

/-- The value of a numeral with a point and perhaps an exponent. -/
def readPointed (text : JavaString) : ℚ :=
  let mantissa := text.takeWhile (· != 69)
  readMantissa mantissa (readInteger (text.drop (mantissa.length + 1)))

theorem readInteger_integer (n : Int) : readInteger (integer n) = n := by
  rw [integer]
  split
  · rw [readInteger, number_decimal]
    omega
  · cases shape : decimal n.natAbs with
    | nil => exact absurd shape (decimal_ne_nil _)
    | cons first digits =>
      have digit := isDigit_decimal n.natAbs first (by simp [shape])
      rw [readInteger, ← shape, number_decimal]
      · omega
      · rintro rest ⟨⟩
        simp [isDigit] at digit

theorem takeWhile_cut {unit : UInt16} {front : JavaString} (rest : JavaString)
    (absent : unit ∉ front) : (front ++ unit :: rest).takeWhile (· != unit) = front := by
  rw [List.takeWhile_append_of_pos]
  · simp
  · intro other member
    simp only [bne_iff_ne, ne_eq]
    rintro rfl
    exact absent member

theorem drop_cut (front rest : JavaString) (unit : UInt16) :
    (front ++ unit :: rest).drop (front.length + 1) = rest := by
  induction front with
  | nil => rfl
  | cons first front ih => simp

theorem not_mem_digits {unit : UInt16} (other : isDigit unit = false) {digits : JavaString}
    (known : ∀ digit ∈ digits, isDigit digit = true) : unit ∉ digits := by
  intro member
  simp [known unit member] at other

section Pointed

variable {whole fraction : JavaString} (wholeDigits : ∀ digit ∈ whole, isDigit digit = true)
  (fractionDigits : ∀ digit ∈ fraction, isDigit digit = true)

include wholeDigits in
theorem readMantissa_parts (exponent : Int) : readMantissa (whole ++ 46 :: fraction) exponent =
    number (whole ++ fraction) * 10 ^ (exponent - fraction.length) := by
  have split := takeWhile_cut fraction (not_mem_digits (show isDigit 46 = false by rfl) wholeDigits)
  simp only [readMantissa, split, drop_cut]

include wholeDigits fractionDigits in
theorem not_mem_mantissa : (69 : UInt16) ∉ whole ++ 46 :: fraction := by
  have notWhole := not_mem_digits (show isDigit 69 = false by rfl) wholeDigits
  have notFraction := not_mem_digits (show isDigit 69 = false by rfl) fractionDigits
  simp [notWhole, notFraction]

include wholeDigits fractionDigits in
theorem readPointed_plain : readPointed (whole ++ 46 :: fraction) =
    number (whole ++ fraction) * 10 ^ (-fraction.length : Int) := by
  have mantissa : (whole ++ 46 :: fraction).takeWhile (· != 69) = whole ++ 46 :: fraction := by
    rw [List.takeWhile_eq_self_iff]
    intro unit member
    simp only [bne_iff_ne, ne_eq]
    rintro rfl
    exact not_mem_mantissa wholeDigits fractionDigits member
  have none : (whole ++ 46 :: fraction).drop ((whole ++ 46 :: fraction).length + 1) = [] :=
    List.drop_eq_nil_of_le (by omega)
  rw [readPointed]
  simp only [mantissa, none]
  rw [readMantissa_parts wholeDigits, show readInteger [] = 0 by rfl, zero_sub]

include wholeDigits fractionDigits in
theorem readPointed_scientific (exponent : Int) :
    readPointed (whole ++ 46 :: (fraction ++ 69 :: integer exponent)) =
      number (whole ++ fraction) * 10 ^ (exponent - fraction.length : Int) := by
  have cut : whole ++ 46 :: (fraction ++ 69 :: integer exponent) =
      (whole ++ 46 :: fraction) ++ 69 :: integer exponent := by simp
  have mantissa := takeWhile_cut (integer exponent) (not_mem_mantissa wholeDigits fractionDigits)
  rw [cut, readPointed]
  simp only [mantissa, drop_cut, readInteger_integer]
  exact readMantissa_parts wholeDigits exponent

end Pointed

theorem isDigit_zeros {count : Nat} : ∀ digit ∈ List.replicate count (48 : UInt16),
    isDigit digit = true := by
  intro digit member
  rw [List.eq_of_mem_replicate member]
  rfl

theorem number_shift (front : JavaString) (count : Nat) :
    number (front ++ List.replicate count 48) = number front * 10 ^ count := by
  rw [number_append, number_zeros, List.length_replicate, add_zero]

theorem readPointed_pointed {digits : JavaString} (exponent : Int) (some : digits ≠ [])
    (known : ∀ digit ∈ digits, isDigit digit = true) :
    readPointed (pointed digits exponent) =
      number digits * 10 ^ (exponent + 1 - digits.length) := by
  have positive := List.length_pos_iff.mpr some
  have front : ∀ count, ∀ digit ∈ digits.take count, isDigit digit = true :=
    fun count digit member => known digit (List.mem_of_mem_take member)
  have back : ∀ count, ∀ digit ∈ digits.drop count, isDigit digit = true :=
    fun count digit member => known digit (List.mem_of_mem_drop member)
  have padding : ∀ count, ∀ digit ∈ digits ++ List.replicate count 48, isDigit digit = true :=
    fun count digit member => (List.mem_append.mp member).elim (known digit) (isDigit_zeros digit)
  have one : ∀ digit ∈ ([48] : JavaString), isDigit digit = true := @isDigit_zeros 1
  rw [pointed]
  split
  · split
    · have fractionDigits : ∀ digit ∈ List.replicate (-exponent - 1).toNat 48 ++ digits,
          isDigit digit = true :=
        fun digit member => (List.mem_append.mp member).elim (isDigit_zeros digit) (known digit)
      have read := readPointed_plain one fractionDigits
      have value : number ([48] ++ (List.replicate (-exponent - 1).toNat 48 ++ digits)) =
          number digits := by
        rw [← List.append_assoc, show [48] ++ List.replicate (-exponent - 1).toNat (48 : UInt16) =
          List.replicate ((-exponent - 1).toNat + 1) 48 by rfl, number_append, number_zeros,
          zero_mul, zero_add]
      rw [value, List.length_append, List.length_replicate] at read
      rw [show exponent + 1 - (digits.length : Int) =
        -((-exponent - 1).toNat + digits.length : Nat) by omega]
      exact read
    · simp only
      by_cases short : digits.length ≤ exponent.toNat + 1
      · rw [if_pos short, List.take_of_length_le (by simp; omega),
          readPointed_plain (padding _) one, List.append_assoc,
          show List.replicate (exponent.toNat + 1 - digits.length) (48 : UInt16) ++ [48] =
            List.replicate (exponent.toNat + 1 - digits.length + 1) 48 by
            rw [List.replicate_succ'], number_shift]
        push_cast
        rw [mul_assoc, ← zpow_natCast, ← zpow_add₀ (by norm_num)]
        congr 2
        simp
        omega
      · rw [if_neg short, List.take_append_of_le_length (by omega),
          readPointed_plain (front _) (back _), List.take_append_drop, List.length_drop]
        congr 2
        omega
  · by_cases single : digits.length ≤ 1
    · rw [if_pos single, readPointed_scientific (front _) one, List.take_of_length_le single,
        show digits ++ [48] = digits ++ List.replicate 1 48 by rfl, number_shift]
      push_cast
      rw [mul_assoc, ← zpow_one_add₀ (by norm_num)]
      congr 2
      simp
      omega
    · rw [if_neg single, readPointed_scientific (front _) (back _), List.take_append_drop,
        List.length_drop]
      congr 2
      omega

theorem pointed_units {digits : JavaString} (exponent : Int)
    (known : ∀ digit ∈ digits, isDigit digit = true) :
    46 ∈ pointed digits exponent ∧
      ∀ unit ∈ pointed digits exponent, isDigit unit = true ∨ unit = 45 ∨ unit = 46 ∨ unit = 69 := by
  have integers : ∀ unit ∈ integer exponent, isDigit unit = true ∨ unit = 45 := by
    intro unit member
    rw [integer] at member
    split at member
    · rcases List.mem_cons.mp member with sign | digit
      · exact .inr sign
      · exact .inl (isDigit_decimal _ unit digit)
    · exact .inl (isDigit_decimal _ unit member)
  have front : ∀ count, ∀ digit ∈ digits.take count, isDigit digit = true :=
    fun count digit member => known digit (List.mem_of_mem_take member)
  have back : ∀ count, ∀ digit ∈ digits.drop count, isDigit digit = true :=
    fun count digit member => known digit (List.mem_of_mem_drop member)
  have padded : ∀ count size, ∀ digit ∈ (digits ++ List.replicate size 48).take count,
      isDigit digit = true := by
    intro count size digit member
    exact (List.mem_append.mp (List.mem_of_mem_take member)).elim (known digit)
      (isDigit_zeros digit)
  rw [pointed]
  split
  · split
    · refine ⟨by simp, fun unit member => ?_⟩
      simp only [List.mem_cons, List.mem_append] at member
      rcases member with rfl | point | zero | digit
      · exact .inl rfl
      · exact .inr (.inr (.inl point))
      · exact .inl (isDigit_zeros unit zero)
      · exact .inl (known unit digit)
    · refine ⟨by simp, fun unit member => ?_⟩
      simp only [List.mem_cons, List.mem_append] at member
      rcases member with whole | point | fraction
      · exact .inl (padded _ _ unit whole)
      · exact .inr (.inr (.inl point))
      · split at fraction
        · exact .inl (@isDigit_zeros 1 unit fraction)
        · exact .inl (back _ unit fraction)
  · refine ⟨by simp, fun unit member => ?_⟩
    simp only [List.mem_cons, List.mem_append] at member
    rcases member with whole | point | fraction | mark | rest
    · exact .inl (front _ unit whole)
    · exact .inr (.inr (.inl point))
    · split at fraction
      · exact .inl (@isDigit_zeros 1 unit fraction)
      · exact .inl (back _ unit fraction)
    · exact .inr (.inr (.inr mark))
    · exact (integers unit rest).imp id .inl

theorem pointed_digit {digits : JavaString} (exponent : Int) (some : digits ≠ [])
    (known : ∀ digit ∈ digits, isDigit digit = true) :
    ∃ digit rest, pointed digits exponent = digit :: rest ∧ isDigit digit = true := by
  cases digits with
  | nil => exact absurd rfl some
  | cons first digits =>
    have digit := known first (by simp)
    rw [pointed]
    split
    · split
      · exact ⟨48, _, rfl, rfl⟩
      · exact ⟨first, _, rfl, digit⟩
    · exact ⟨first, _, rfl, digit⟩

end JavaString

open JavaString

theorem Decimal.text_digits (value : Nat) :
    ∀ digit ∈ (JavaString.decimal value).rdropWhile isZero, isDigit digit = true :=
  fun digit member => isDigit_decimal value digit ((List.rdropWhile_prefix _ _).subset member)

theorem Decimal.text_some {value : Nat} (nonzero : value ≠ 0) :
    (JavaString.decimal value).rdropWhile isZero ≠ [] := by
  intro none
  have zeros := List.rdropWhile_eq_nil_iff.mp none
  have shape : JavaString.decimal value =
      List.replicate (JavaString.decimal value).length 48 :=
    List.eq_replicate_of_mem fun unit member => by simpa [isZero] using zeros unit member
  have numeral := number_decimal value
  rw [shape, number_zeros] at numeral
  exact nonzero numeral.symm

theorem Decimal.readPointed_text {decimal : Decimal} (nonzero : decimal.digits ≠ 0) :
    readPointed decimal.text = decimal.value := by
  obtain ⟨value, exponent⟩ := decimal
  have parts := @List.rdropWhile_append_rtakeWhile _ isZero (JavaString.decimal value)
  have zeros : (JavaString.decimal value).rtakeWhile isZero =
      List.replicate ((JavaString.decimal value).rtakeWhile isZero).length 48 := by
    refine List.eq_replicate_of_mem fun unit member => ?_
    have zero := List.mem_rtakeWhile_imp member
    simpa [isZero] using zero
  have numeral := number_decimal value
  have length := congrArg List.length parts
  rw [← parts, zeros, number_shift] at numeral
  rw [List.length_append] at length
  rw [Decimal.text]
  simp only [Decimal.value]
  rw [readPointed_pointed _ (text_some nonzero) (text_digits value)]
  conv_rhs => rw [← numeral]
  push_cast
  rw [mul_assoc, ← zpow_natCast, ← zpow_add₀ (by norm_num)]
  congr 2
  omega

theorem Magnitude.shortest_digits {magnitude : Magnitude} (nonzero : magnitude.significand ≠ 0) :
    magnitude.shortest.digits ≠ 0 := by
  have rounds := magnitude.shortest_roundsTo
  rw [Decimal.RoundsTo] at rounds
  intro zero
  rw [Decimal.value, zero, Nat.cast_zero, zero_mul, zero_mul] at rounds
  have none : nearest 0 = ofParts 0 0 := by
    simp [nearest, roundHalfEven]
  rw [none, ofParts, dif_pos (by omega)] at rounds
  exact nonzero (congrArg Magnitude.significand (Option.some.inj rounds)).symm

theorem Magnitude.nearest_readPointed_text (magnitude : Magnitude) :
    nearest (readPointed magnitude.text * 2 ^ scale) = some magnitude := by
  rw [Magnitude.text]
  split
  · next zero =>
    have value : readPointed (.ofString "0.0") = 0 := by
      decide +kernel
    have units : (magnitude.units : ℚ) = 0 := by
      simp [Magnitude.units, zero]
    rw [value, zero_mul, ← units, nearest_units]
  · next nonzero =>
    have rounds := magnitude.shortest_roundsTo
    rw [Decimal.RoundsTo] at rounds
    rw [Decimal.readPointed_text (magnitude.shortest_digits nonzero), rounds]

def Double.valueOf : JavaString → Double
  | 45 :: text => (Magnitude.nearest (readPointed text * 2 ^ scale)).elim (.infinity true)
      (.finite true)
  | text => (Magnitude.nearest (readPointed text * 2 ^ scale)).elim (.infinity false)
      (.finite false)

theorem Magnitude.text_units (magnitude : Magnitude) :
    46 ∈ magnitude.text ∧
      ∀ unit ∈ magnitude.text, isDigit unit = true ∨ unit = 45 ∨ unit = 46 ∨ unit = 69 := by
  rw [Magnitude.text]
  split
  · exact ⟨by decide, @of_decide_eq_true _ (List.decidableBAll _ _) (by decide)⟩
  · exact pointed_units _ (Decimal.text_digits _)

theorem Magnitude.text_digit (magnitude : Magnitude) :
    ∃ digit rest, magnitude.text = digit :: rest ∧ isDigit digit = true := by
  rw [Magnitude.text]
  split
  · exact ⟨48, [46, 48], by decide, rfl⟩
  · next nonzero =>
    exact pointed_digit _ (Decimal.text_some (magnitude.shortest_digits nonzero))
      (Decimal.text_digits _)

theorem Double.valueOf_toString (negative : Bool) (magnitude : Magnitude) :
    valueOf (toString (.finite negative magnitude)) = .finite negative magnitude := by
  have read := magnitude.nearest_readPointed_text
  cases negative with
  | true => simp [valueOf, read]
  | false =>
    rw [toString_positive, valueOf, read]
    · rfl
    · obtain ⟨digit, rest, shape, known⟩ := magnitude.text_digit
      rw [shape]
      rintro text ⟨⟩
      simp [isDigit] at known

end CareerProjects.Library
