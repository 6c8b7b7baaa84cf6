import CareerProjects.Library.Doubles

/-! Nonnegative decimal numbers in a context of 28 digits, and the columns that keep them. -/

namespace CareerProjects.Library

def roundHalfUp (x : ℚ) : ℕ := ⌊x + 1 / 2⌋₊

namespace Decimal

def precision : ℕ := 28

/-- An exact result in the context: digits in excess of the precision are rounded off. -/
def fix (exact : Decimal) : Decimal :=
  if exact.digits < 10 ^ precision then exact
  else
    let excess := Nat.log 10 exact.digits + 1 - precision
    let kept := roundHalfEven (exact.digits / 10 ^ excess)
    if kept < 10 ^ precision then ⟨kept, exact.exponent + excess⟩ else ⟨kept / 10, exact.exponent + excess + 1⟩

def mul (a b : Decimal) : Decimal := fix ⟨a.digits * b.digits, a.exponent + b.exponent⟩

def add (a b : Decimal) : Decimal :=
  let exponent := min a.exponent b.exponent
  fix ⟨a.digits * 10 ^ (a.exponent - exponent).toNat + b.digits * 10 ^ (b.exponent - exponent).toNat,
    exponent⟩

/-- The number with the given exponent; nothing where `InvalidOperation` is raised. -/
def quantize (round : ℚ → ℕ) (amount : Decimal) (exponent : ℤ) : Option Decimal :=
  let kept := round (amount.value / 10 ^ exponent)
  if kept < 10 ^ precision then some ⟨kept, exponent⟩ else none

theorem fix_of_small {exact : Decimal} (small : exact.digits < 10 ^ precision) : fix exact = exact := if_pos small

theorem mul_of_small {a b : Decimal} (small : a.digits * b.digits < 10 ^ precision) :
    mul a b = ⟨a.digits * b.digits, a.exponent + b.exponent⟩ := fix_of_small small

theorem add_of_small {a b : ℕ} {exponent : ℤ} (small : a + b < 10 ^ precision) :
    add ⟨a, exponent⟩ ⟨b, exponent⟩ = ⟨a + b, exponent⟩ := by
  simp only [add, min_self, sub_self, Int.toNat_zero, pow_zero, mul_one]
  exact fix_of_small small

theorem quantize_of_small {round : ℚ → ℕ} (whole : ∀ n : ℕ, round n = n) {digits : ℕ} {exponent : ℤ}
    (small : digits < 10 ^ precision) :
    quantize round ⟨digits, exponent⟩ exponent = some ⟨digits, exponent⟩ := by
  have power : (10 : ℚ) ^ exponent ≠ 0 := zpow_ne_zero _ (by norm_num)
  have same : (Decimal.mk digits exponent).value / 10 ^ exponent = (digits : ℚ) := by
    rw [value, mul_div_assoc, div_self power, mul_one]
  simp only [quantize, same, whole]
  exact if_pos small

end Decimal

theorem roundHalfUp_natCast (n : ℕ) : roundHalfUp n = n := by
  rw [roundHalfUp, Nat.floor_eq_iff (by positivity)]
  constructor <;> linarith

def FitsNumeric (precision scale : ℕ) (x : ℚ) : Prop := roundHalfUp (x * 10 ^ scale) < 10 ^ precision

theorem fitsNumeric_cents {precision cents : ℕ} : FitsNumeric precision 2 (cents / 100) ↔ cents < 10 ^ precision := by
  have units : (cents / 100 : ℚ) * 10 ^ 2 = (cents : ℚ) := by
    rw [show (10 : ℚ) ^ 2 = 100 by norm_num, div_mul_cancel₀]
    norm_num
  rw [FitsNumeric, units, roundHalfUp_natCast]

end CareerProjects.Library
