import CareerProjects.Library.Binary64

/-! The numbers of JSON between Python and PostgreSQL. Python writes a double as its shortest decimal, with an
exponent for the large and the small ones. `jsonb` keeps the decimal exactly and writes it without an exponent,
and what has no point then comes back as an integer. -/

namespace CareerProjects.Library

/-- A number as it is written: the digits of the mantissa, how many of them follow a point, if there is one, and
the exponent, if there is one. -/
structure Numeral where
  negative : Bool
  digits : ℕ
  fraction : Option ℕ := none
  exponent : Option ℤ := none
  deriving DecidableEq

def signed (negative : Bool) (value : ℚ) : ℚ := if negative then -value else value

namespace Numeral

def power (numeral : Numeral) : ℤ := numeral.exponent.getD 0 - numeral.fraction.getD 0

def value (numeral : Numeral) : ℚ := signed numeral.negative (numeral.digits * 10 ^ numeral.power)

def ofInt (value : ℤ) : Numeral := ⟨value < 0, value.natAbs, none, none⟩

end Numeral

namespace Decimal

def zeros (digits : ℕ) : ℕ := Nat.findGreatest (fun count => 10 ^ count ∣ digits) (Nat.log 10 digits)

def stripped (decimal : Decimal) : Decimal :=
  ⟨decimal.digits / 10 ^ zeros decimal.digits, decimal.exponent + zeros decimal.digits⟩

def length (decimal : Decimal) : ℕ := Nat.log 10 decimal.digits + 1

/-- The place of the point, counted from the first digit. -/
def point (decimal : Decimal) : ℤ := decimal.exponent + decimal.length

def repr (negative : Bool) (decimal : Decimal) : Numeral :=
  if -4 < decimal.point ∧ decimal.point ≤ 16 then
    if 0 ≤ decimal.exponent then ⟨negative, decimal.digits * 10 ^ (decimal.exponent.toNat + 1), some 1, none⟩
    else ⟨negative, decimal.digits, some (-decimal.exponent).toNat, none⟩
  else ⟨negative, decimal.digits, if decimal.length = 1 then none else some (decimal.length - 1),
    some (decimal.point - 1)⟩

end Decimal

namespace Magnitude

def value (magnitude : Magnitude) : ℚ := magnitude.units / 2 ^ scale

/-- The shortest decimal that rounds to the magnitude. -/
def written (magnitude : Magnitude) : Decimal :=
  ((((List.range' 1 17).map magnitude.candidate).find? (·.RoundsTo magnitude)).getD magnitude.exactDecimal).stripped

def repr (negative : Bool) (magnitude : Magnitude) : Numeral :=
  if magnitude.significand = 0 then ⟨negative, 0, some 1, none⟩ else magnitude.written.repr negative

/-- Written without a point, as the doubles from `10 ^ 16` on are. -/
def Whole (magnitude : Magnitude) : Prop :=
  magnitude.significand ≠ 0 ∧ 16 < magnitude.written.point ∧ 0 ≤ magnitude.written.exponent

instance (magnitude : Magnitude) : Decidable magnitude.Whole := inferInstanceAs (Decidable (_ ∧ _ ∧ _))

end Magnitude

inductive PythonNumber where
  | int (value : ℤ)
  | float (value : Double)
  deriving DecidableEq

/-- The number that `json.loads` makes of a numeral. -/
def Numeral.loads (numeral : Numeral) : PythonNumber :=
  if numeral.fraction = none ∧ numeral.exponent = none then
    .int (if numeral.negative then -numeral.digits else numeral.digits)
  else
    .float ((Magnitude.nearest (numeral.digits * 10 ^ numeral.power * 2 ^ scale)).elim (.infinity numeral.negative)
      (.finite numeral.negative))

/-- A `numeric`: an integer with so many of its digits after the point. -/
structure Numeric where
  digits : ℤ
  scale : ℕ
  deriving DecidableEq

def Numeral.numeric (numeral : Numeral) : Numeric :=
  let digits : ℤ := if numeral.negative then -numeral.digits else numeral.digits
  if 0 ≤ numeral.power then ⟨digits * 10 ^ numeral.power.toNat, 0⟩ else ⟨digits, (-numeral.power).toNat⟩

def Numeric.numeral (numeric : Numeric) : Numeral :=
  ⟨numeric.digits < 0, numeric.digits.natAbs, if numeric.scale = 0 then none else some numeric.scale, none⟩

/-- What comes back of a number that was written. -/
def Numeral.stored (numeral : Numeral) : PythonNumber := numeral.numeric.numeral.loads

inductive Extended where
  | finite (value : ℚ)
  | infinite (negative : Bool)
  deriving DecidableEq

def PythonNumber.exact : PythonNumber → Extended
  | .int value => .finite value
  | .float (.finite negative magnitude) => .finite (signed negative magnitude.value)
  | .float (.infinity negative) => .infinite negative

example : (Numeral.mk false 125 (some 1) (some 18)).stored = .int 12500000000000000000 := by decide +kernel

namespace Numeric

def value (numeric : Numeric) : ℚ := numeric.digits / 10 ^ numeric.scale

theorem loads_numeral_of_scale {numeric : Numeric} (whole : numeric.scale = 0) :
    numeric.numeral.loads = .int numeric.digits := by
  unfold Numeral.loads Numeric.numeral
  simp only [whole, if_true, and_self, PythonNumber.int.injEq, decide_eq_true_eq]
  split <;> omega

theorem loads_numeral {numeric : Numeric} (pointed : numeric.scale ≠ 0) : numeric.numeral.loads =
    .float ((Magnitude.nearest (|numeric.value| * 2 ^ Library.scale)).elim (.infinity (numeric.digits < 0))
      (.finite (numeric.digits < 0))) := by
  have size : (numeric.numeral.digits : ℚ) * 10 ^ numeric.numeral.power = |numeric.value| := by
    simp only [numeral, Numeral.power, pointed, if_false, Option.getD_none, Option.getD_some, zero_sub, zpow_neg,
      zpow_natCast, value, abs_div, Nat.cast_natAbs, Int.cast_abs]
    rw [abs_of_pos (by positivity : (0 : ℚ) < 10 ^ numeric.scale), div_eq_mul_inv]
  rw [Numeral.loads, if_neg (by simp [numeral, pointed]), size]
  rfl

end Numeric

namespace Numeral

theorem numeric_value (numeral : Numeral) : numeral.numeric.value = numeral.value := by
  have sign : ((if numeral.negative then -numeral.digits else numeral.digits : ℤ) : ℚ) =
      signed numeral.negative numeral.digits := by
    unfold signed
    split <;> push_cast <;> rfl
  have scaled (factor : ℚ) : signed numeral.negative numeral.digits * factor =
      signed numeral.negative (numeral.digits * factor) := by
    unfold signed
    split <;> ring
  unfold numeric Numeric.value value
  by_cases large : 0 ≤ numeral.power
  · have power : (10 : ℚ) ^ numeral.power = 10 ^ numeral.power.toNat := by
      rw [← zpow_natCast, Int.toNat_of_nonneg large]
    simp only [large, if_true, pow_zero, div_one, Int.cast_mul, Int.cast_pow, Int.cast_ofNat, sign, scaled, power]
  · have power : (10 : ℚ) ^ numeral.power = (10 ^ (-numeral.power).toNat)⁻¹ := by
      rw [← zpow_natCast, Int.toNat_of_nonneg (by omega), ← zpow_neg, neg_neg]
    simp only [large, if_false, sign, div_eq_mul_inv, scaled, power]

@[simp] theorem stored_ofInt (value : ℤ) : (ofInt value).stored = .int value := by
  have whole : (ofInt value).numeric = ⟨value, 0⟩ := by
    simp only [numeric, power, ofInt, Option.getD_none, Nat.cast_zero, sub_zero, le_refl, if_true, Int.toNat_zero,
      pow_zero, mul_one, decide_eq_true_eq, Numeric.mk.injEq, and_true]
    split <;> omega
  rw [stored, whole, Numeric.loads_numeral_of_scale rfl]

end Numeral

namespace Decimal

theorem stripped_value (decimal : Decimal) : decimal.stripped.value = decimal.value := by
  have divides : 10 ^ zeros decimal.digits ∣ decimal.digits :=
    Nat.findGreatest_spec (P := fun count => 10 ^ count ∣ decimal.digits) (Nat.zero_le _) (by simp)
  have digits : (decimal.digits : ℚ) = (decimal.digits / 10 ^ zeros decimal.digits : ℕ) * 10 ^ zeros decimal.digits := by
    exact_mod_cast (Nat.div_mul_cancel divides).symm
  have power : (10 : ℚ) ^ (decimal.exponent + zeros decimal.digits) =
      10 ^ zeros decimal.digits * 10 ^ decimal.exponent := by
    rw [zpow_add₀ (by norm_num), zpow_natCast, mul_comm]
  simp only [stripped, value]
  rw [power, ← mul_assoc, ← digits]

theorem repr_power (negative : Bool) (decimal : Decimal) : (decimal.repr negative).power =
    if -4 < decimal.point ∧ decimal.point ≤ 16 ∧ 0 ≤ decimal.exponent then -1 else decimal.exponent := by
  unfold repr Numeral.power
  by_cases plain : -4 < decimal.point ∧ decimal.point ≤ 16
  · by_cases whole : 0 ≤ decimal.exponent
    · simp [plain, whole]
    · simp only [plain, whole, and_self, and_false, if_true, if_false, Option.getD_none, Option.getD_some]
      omega
  · have other : ¬(-4 < decimal.point ∧ decimal.point ≤ 16 ∧ 0 ≤ decimal.exponent) := fun known =>
      plain ⟨known.1, known.2.1⟩
    have length : decimal.point = decimal.exponent + decimal.length := rfl
    have positive : 0 < decimal.length := Nat.succ_pos _
    simp only [plain, other, if_false, Option.getD_some]
    by_cases single : decimal.length = 1
    · simp only [single, if_true, Option.getD_none]
      omega
    · simp only [single, if_false, Option.getD_some]
      omega

theorem repr_value (negative : Bool) (decimal : Decimal) :
    (decimal.repr negative).value = signed negative decimal.value := by
  have sign : (decimal.repr negative).negative = negative := by
    unfold repr
    split_ifs <;> rfl
  rw [Numeral.value, sign, repr_power, value]
  congr 1
  by_cases shifted : -4 < decimal.point ∧ decimal.point ≤ 16 ∧ 0 ≤ decimal.exponent
  · have power : (10 : ℚ) ^ decimal.exponent = 10 ^ decimal.exponent.toNat := by
      rw [← zpow_natCast, Int.toNat_of_nonneg shifted.2.2]
    simp only [repr, shifted, and_self, if_true, Nat.cast_mul, Nat.cast_pow, Nat.cast_ofNat, power]
    rw [pow_succ, zpow_neg_one]
    ring
  · have digits : (decimal.repr negative).digits = decimal.digits := by
      unfold repr
      split_ifs <;> grind
    rw [if_neg shifted, digits]

end Decimal

namespace Magnitude

theorem nearest_zero : nearest 0 = ofParts 0 0 := by
  simp [nearest, roundHalfEven]

theorem written_roundsTo (magnitude : Magnitude) : magnitude.written.RoundsTo magnitude := by
  have found : ((((List.range' 1 17).map magnitude.candidate).find? (·.RoundsTo magnitude)).getD
      magnitude.exactDecimal).RoundsTo magnitude := by
    generalize (List.range' 1 17).map magnitude.candidate = candidates
    cases found : candidates.find? (·.RoundsTo magnitude) with
    | none => exact magnitude.exactDecimal_roundsTo
    | some decimal => simpa using List.find?_some found
  rw [Decimal.RoundsTo] at found ⊢
  rw [written, Decimal.stripped_value, found]

theorem written_value_pos {magnitude : Magnitude} (nonzero : magnitude.significand ≠ 0) : 0 < magnitude.written.value := by
  have rounds := magnitude.written_roundsTo
  rw [Decimal.RoundsTo] at rounds
  have nonnegative : 0 ≤ magnitude.written.value := by
    unfold Decimal.value
    positivity
  refine lt_of_le_of_ne nonnegative fun zero => nonzero ?_
  rw [← zero, zero_mul, nearest_zero, ofParts, dif_pos (by omega)] at rounds
  exact (congrArg Magnitude.significand (Option.some.inj rounds)).symm

theorem repr_of_nonzero {magnitude : Magnitude} (nonzero : magnitude.significand ≠ 0) (negative : Bool) :
    magnitude.repr negative = magnitude.written.repr negative := if_neg nonzero

theorem repr_power_nonneg {magnitude : Magnitude} (nonzero : magnitude.significand ≠ 0) (negative : Bool) :
    0 ≤ (magnitude.repr negative).power ↔ magnitude.Whole := by
  have length : magnitude.written.point = magnitude.written.exponent + magnitude.written.length := rfl
  have positive : 0 < magnitude.written.length := Nat.succ_pos _
  rw [repr_of_nonzero nonzero, Decimal.repr_power, Whole]
  split <;> omega

theorem exact_stored_whole {magnitude : Magnitude} (whole : magnitude.Whole) (negative : Bool) :
    (magnitude.repr negative).stored.exact = .finite (signed negative magnitude.written.value) := by
  have value := (magnitude.repr negative).numeric_value
  rw [repr_of_nonzero whole.1, Decimal.repr_value, ← repr_of_nonzero whole.1] at value
  have unscaled : (magnitude.repr negative).numeric.scale = 0 := by
    rw [Numeral.numeric, if_pos ((repr_power_nonneg whole.1 negative).mpr whole)]
  rw [Numeric.value, unscaled, pow_zero, div_one] at value
  rw [Numeral.stored, Numeric.loads_numeral_of_scale unscaled, PythonNumber.exact, value]

theorem exact_stored_pointed {magnitude : Magnitude} (nonzero : magnitude.significand ≠ 0) (pointed : ¬magnitude.Whole)
    (negative : Bool) : (magnitude.repr negative).stored.exact = .finite (signed negative magnitude.value) := by
  have value := (magnitude.repr negative).numeric_value
  rw [repr_of_nonzero nonzero, Decimal.repr_value, ← repr_of_nonzero nonzero] at value
  have below : ¬0 ≤ (magnitude.repr negative).power := fun known => pointed ((repr_power_nonneg nonzero negative).mp known)
  have scaled : (magnitude.repr negative).numeric.scale ≠ 0 := by
    simp only [Numeral.numeric, below, if_false]
    omega
  have positive := written_value_pos nonzero
  have size : |(magnitude.repr negative).numeric.value| = magnitude.written.value := by
    rw [value]
    cases negative with
    | false => exact abs_of_pos positive
    | true => rw [signed, if_pos rfl, abs_neg, abs_of_pos positive]
  have sign : decide ((magnitude.repr negative).numeric.digits < 0) = negative := by
    have scalePos : (0 : ℚ) < 10 ^ (magnitude.repr negative).numeric.scale := by positivity
    have same : (magnitude.repr negative).numeric.digits < 0 ↔ signed negative magnitude.written.value < 0 := by
      rw [← value, Numeric.value, div_neg_iff]
      simp [scalePos, scalePos.le.not_gt]
    cases negative with
    | false => simp [same, signed, positive.le]
    | true => simp [same, signed, positive]
  have rounds := magnitude.written_roundsTo
  rw [Decimal.RoundsTo] at rounds
  rw [Numeral.stored, Numeric.loads_numeral scaled, size, rounds, sign]
  rfl

theorem exact_stored_zero {magnitude : Magnitude} (zero : magnitude.significand = 0) (negative : Bool) :
    (magnitude.repr negative).stored.exact = .finite (signed negative magnitude.value) := by
  have numeric : (magnitude.repr negative).numeric = ⟨0, 1⟩ := by
    rw [repr, if_pos zero]
    cases negative <;> rfl
  have value : magnitude.value = 0 := by simp [Magnitude.value, units, zero]
  have none : signed negative 0 = 0 := by cases negative <;> simp [signed]
  rw [Numeral.stored, numeric, Numeric.loads_numeral (by simp), value, none]
  simp [Numeric.value, nearest_zero, ofParts, PythonNumber.exact, signed, Magnitude.value, units]

theorem exact_stored (negative : Bool) (magnitude : Magnitude) : (magnitude.repr negative).stored.exact =
    .finite (signed negative (if magnitude.Whole then magnitude.written.value else magnitude.value)) := by
  by_cases zero : magnitude.significand = 0
  · rw [if_neg fun whole => whole.1 zero, exact_stored_zero zero]
  · by_cases whole : magnitude.Whole
    · rw [if_pos whole, exact_stored_whole whole]
    · rw [if_neg whole, exact_stored_pointed zero whole]

end Magnitude

end CareerProjects.Library
