import Mathlib.Data.Nat.Log
import Mathlib.Tactic.Linarith
import CareerProjects.Library.Binary64

/-! Arithmetic on nonnegative doubles, given as the rationals that they are. Every operation rounds its
exact result to the nearest double, ties to even. Results that are too large for a double do not
come up here. -/

namespace CareerProjects.Library

theorem roundHalfEven_le {x : ℚ} {n : ℕ} (below : x ≤ n) : roundHalfEven x ≤ n := by
  have floor : ⌊x⌋₊ ≤ n := Nat.floor_le_of_le below
  unfold roundHalfEven
  by_cases whole : ⌊x⌋₊ = n
  · have less : x - ⌊x⌋₊ < 1 / 2 := by
      rw [whole]
      linarith
    simp only [less, if_true, floor]
  · dsimp only
    split_ifs <;> omega

theorem le_roundHalfEven {x : ℚ} {n : ℕ} (above : (n : ℚ) ≤ x) : n ≤ roundHalfEven x := by
  have floor : n ≤ ⌊x⌋₊ := Nat.le_floor above
  unfold roundHalfEven
  dsimp only
  split_ifs <;> omega

theorem roundHalfEven_mono {x y : ℚ} (start : 0 ≤ x) (ordered : x ≤ y) :
    roundHalfEven x ≤ roundHalfEven y := by
  have floors : ⌊x⌋₊ ≤ ⌊y⌋₊ := Nat.floor_le_floor ordered
  by_cases same : ⌊x⌋₊ = ⌊y⌋₊
  · unfold roundHalfEven
    rw [same]
    dsimp only
    split_ifs <;> first | omega | linarith
  · have next : ⌊x⌋₊ + 1 ≤ ⌊y⌋₊ := by omega
    have up : x ≤ (⌊x⌋₊ + 1 : ℕ) := by
      push_cast
      exact (Nat.lt_floor_add_one x).le
    calc roundHalfEven x ≤ ⌊x⌋₊ + 1 := roundHalfEven_le up
      _ ≤ ⌊y⌋₊ := next
      _ ≤ roundHalfEven y := le_roundHalfEven (Nat.floor_le (start.trans ordered))

theorem roundHalfEven_error {x : ℚ} (start : 0 ≤ x) : |(roundHalfEven x : ℚ) - x| ≤ 1 / 2 := by
  have below := Nat.floor_le start
  have above := Nat.lt_floor_add_one x
  rw [abs_le]
  unfold roundHalfEven
  dsimp only
  split_ifs <;> push_cast <;> constructor <;> linarith

theorem roundHalfEven_eq {x : ℚ} {n : ℕ} (start : 0 ≤ x) (close : |x - n| < 1 / 2) : roundHalfEven x = n := by
  have error := roundHalfEven_error start
  rw [abs_lt] at close
  rw [abs_le] at error
  have up : roundHalfEven x < n + 1 := by
    have less : (roundHalfEven x : ℚ) < (n + 1 : ℕ) := by
      push_cast
      linarith
    exact_mod_cast less
  have down : n < roundHalfEven x + 1 := by
    have less : (n : ℚ) < (roundHalfEven x + 1 : ℕ) := by
      push_cast
      linarith
    exact_mod_cast less
  omega

/-- `round(x, digits)` of an exact number: the nearest decimal, of ties the even one. -/
def roundDecimals (x : ℚ) (digits : ℕ) : ℚ :=
  if x < 0 then -(roundHalfEven (-x * 10 ^ digits) / 10 ^ digits)
  else roundHalfEven (x * 10 ^ digits) / 10 ^ digits

theorem decimals_error {x : ℚ} (start : 0 ≤ x) (digits : ℕ) :
    |(roundHalfEven (x * 10 ^ digits) / 10 ^ digits : ℚ) - x| ≤ 1 / 2 / 10 ^ digits := by
  have power : (0 : ℚ) < 10 ^ digits := by positivity
  calc |(roundHalfEven (x * 10 ^ digits) / 10 ^ digits : ℚ) - x|
      = |(roundHalfEven (x * 10 ^ digits) : ℚ) - x * 10 ^ digits| / 10 ^ digits := by
        rw [← abs_of_pos power, ← abs_div, abs_of_pos power, sub_div, mul_div_cancel_right₀ _ power.ne']
    _ ≤ 1 / 2 / 10 ^ digits := by
        gcongr
        exact roundHalfEven_error (by positivity)

theorem roundDecimals_error (x : ℚ) (digits : ℕ) : |roundDecimals x digits - x| ≤ 1 / 2 / 10 ^ digits := by
  unfold roundDecimals
  split
  · next negative =>
    have error := decimals_error (x := -x) (by linarith) digits
    rw [abs_sub_comm] at error
    convert error using 2
    ring
  · next positive =>
    exact decimals_error (not_lt.mp positive) digits

theorem roundDecimals_mono {x y : ℚ} {digits : ℕ} (ordered : x ≤ y) :
    roundDecimals x digits ≤ roundDecimals y digits := by
  have scaled {x y : ℚ} (start : 0 ≤ x) (ordered : x ≤ y) :
      (roundHalfEven (x * 10 ^ digits) / 10 ^ digits : ℚ) ≤ roundHalfEven (y * 10 ^ digits) / 10 ^ digits := by
    have decimals : roundHalfEven (x * 10 ^ digits) ≤ roundHalfEven (y * 10 ^ digits) := by
      refine roundHalfEven_mono (by positivity) ?_
      gcongr
    gcongr
  unfold roundDecimals
  by_cases negative : x < 0
  · rw [if_pos negative]
    by_cases other : y < 0
    · rw [if_pos other]
      exact neg_le_neg (scaled (by linarith) (by linarith))
    · rw [if_neg other]
      calc -(roundHalfEven (-x * 10 ^ digits) / 10 ^ digits : ℚ) ≤ 0 := by
            rw [neg_nonpos]
            positivity
        _ ≤ roundHalfEven (y * 10 ^ digits) / 10 ^ digits := by positivity
  · have start := not_lt.mp negative
    rw [if_neg negative, if_neg (not_lt.mpr (start.trans ordered))]
    exact scaled start ordered

namespace Doubles

/-- The exponent of the doubles around a number of units. -/
def shift (units : ℚ) : ℕ := Nat.log2 ⌊units⌋₊ - 52

/-- The nearest double, in units of `2 ^ -scale`. -/
def nearestUnits (units : ℚ) : ℕ := roundHalfEven (units / 2 ^ shift units) * 2 ^ shift units

def double (x : ℚ) : ℚ := nearestUnits (x * 2 ^ scale) / 2 ^ scale

theorem shift_mono {x y : ℚ} (ordered : x ≤ y) : shift x ≤ shift y := by
  have floors : ⌊x⌋₊ ≤ ⌊y⌋₊ := Nat.floor_le_floor ordered
  have logs : Nat.log2 ⌊x⌋₊ ≤ Nat.log2 ⌊y⌋₊ := by
    rw [Nat.log2_eq_log_two, Nat.log2_eq_log_two]
    exact Nat.log_mono_right floors
  unfold shift
  omega

theorem nearestUnits_mono {x y : ℚ} (start : 0 ≤ x) (ordered : x ≤ y) :
    nearestUnits x ≤ nearestUnits y := by
  have shifts := shift_mono ordered
  by_cases same : shift x = shift y
  · unfold nearestUnits
    rw [same]
    have power : (0 : ℚ) < 2 ^ shift y := by positivity
    refine Nat.mul_le_mul_right _ (roundHalfEven_mono (by positivity) ?_)
    gcongr
  · -- a power of two lies between the two
    have less : shift x + 1 ≤ shift y := by omega
    have upper : x ≤ ((2 ^ 53 * 2 ^ shift x : ℕ) : ℚ) := by
      have floor : ⌊x⌋₊ < 2 ^ (53 + shift x) := by
        have log : Nat.log2 ⌊x⌋₊ < 53 + shift x := by
          unfold shift
          omega
        by_cases zero : ⌊x⌋₊ = 0
        · rw [zero]
          positivity
        · exact (Nat.log2_lt zero).mp log
      rw [pow_add] at floor
      exact (Nat.lt_of_floor_lt floor).le
    have lower : ((2 ^ 52 * 2 ^ shift y : ℕ) : ℚ) ≤ y := by
      have log : 52 + shift y = Nat.log2 ⌊y⌋₊ := by
        unfold shift at less ⊢
        omega
      have nonzero : ⌊y⌋₊ ≠ 0 := by
        intro zero
        rw [zero] at log
        simp at log
      have floor : 2 ^ 52 * 2 ^ shift y ≤ ⌊y⌋₊ := by
        rw [← pow_add, log]
        exact Nat.log2_self_le nonzero
      exact (Nat.cast_le.mpr floor).trans (Nat.floor_le (start.trans ordered))
    have power (n : ℕ) : (0 : ℚ) < 2 ^ n := by positivity
    calc nearestUnits x ≤ 2 ^ 53 * 2 ^ shift x := by
          refine Nat.mul_le_mul_right _ (roundHalfEven_le ?_)
          rw [div_le_iff₀ (power _)]
          exact_mod_cast upper
      _ = 2 ^ 52 * 2 ^ (shift x + 1) := by ring
      _ ≤ 2 ^ 52 * 2 ^ shift y := Nat.mul_le_mul_left _ (Nat.pow_le_pow_right (by norm_num) less)
      _ ≤ nearestUnits y := by
          refine Nat.mul_le_mul_right _ (le_roundHalfEven ?_)
          rw [le_div_iff₀ (power _)]
          exact_mod_cast lower

theorem double_mono {x y : ℚ} (start : 0 ≤ x) (ordered : x ≤ y) : double x ≤ double y := by
  unfold double
  have units : nearestUnits (x * 2 ^ scale) ≤ nearestUnits (y * 2 ^ scale) := by
    refine nearestUnits_mono (by positivity) ?_
    gcongr
  gcongr

theorem double_nonneg (x : ℚ) : 0 ≤ double x := by
  unfold double
  positivity

def plus (x y : ℚ) : ℚ := double (x + y)

def times (x y : ℚ) : ℚ := double (x * y)

def divide (x y : ℚ) : ℚ := double (x / y)

/-- `round(x, digits)`: the double of the nearest decimal with so many digits after the point. -/
def round (x : ℚ) (digits : ℕ) : ℚ := double (roundHalfEven (x * 10 ^ digits) / 10 ^ digits)

theorem round_mono {x y : ℚ} {digits : ℕ} (start : 0 ≤ x) (ordered : x ≤ y) :
    round x digits ≤ round y digits := by
  have decimals : roundHalfEven (x * 10 ^ digits) ≤ roundHalfEven (y * 10 ^ digits) := by
    refine roundHalfEven_mono (by positivity) ?_
    gcongr
  refine double_mono (by positivity) ?_
  gcongr

theorem nearestUnits_error {units : ℚ} (start : 0 ≤ units) :
    |(nearestUnits units : ℚ) - units| ≤ 2 ^ shift units / 2 := by
  have power : (0 : ℚ) < 2 ^ shift units := by positivity
  have error := roundHalfEven_error (x := units / 2 ^ shift units) (by positivity)
  calc |(nearestUnits units : ℚ) - units|
      = |(roundHalfEven (units / 2 ^ shift units) : ℚ) - units / 2 ^ shift units| * 2 ^ shift units := by
        rw [← abs_of_pos power, ← abs_mul, abs_of_pos power, sub_mul, div_mul_cancel₀ _ power.ne',
          nearestUnits]
        push_cast
        rfl
    _ ≤ 1 / 2 * 2 ^ shift units := by gcongr
    _ = 2 ^ shift units / 2 := by ring

theorem double_sub (x : ℚ) :
    |double x - x| = |(nearestUnits (x * 2 ^ scale) : ℚ) - x * 2 ^ scale| / 2 ^ scale := by
  have power : (0 : ℚ) < 2 ^ scale := by positivity
  rw [← abs_of_pos power, ← abs_div, abs_of_pos power, sub_div, mul_div_cancel_right₀ _ power.ne', double]

theorem double_error_of_lt {x : ℚ} {bits : ℕ} (start : 0 ≤ x) (less : x < 2 ^ bits) :
    |double x - x| ≤ 2 ^ bits / 2 ^ 54 := by
  have power (n : ℕ) : (0 : ℚ) < 2 ^ n := by positivity
  have shifted : shift (x * 2 ^ scale) + 53 ≤ bits + scale := by
    have floor : ⌊x * 2 ^ scale⌋₊ < 2 ^ (bits + scale) := by
      rw [Nat.floor_lt (by positivity), Nat.cast_pow, Nat.cast_ofNat, pow_add]
      gcongr
    have large : 52 < scale := by decide
    unfold shift
    by_cases zero : ⌊x * 2 ^ scale⌋₊ = 0
    · rw [zero, Nat.log2_zero]
      omega
    · have log := (Nat.log2_lt zero).mpr floor
      omega
  calc |double x - x| = |(nearestUnits (x * 2 ^ scale) : ℚ) - x * 2 ^ scale| / 2 ^ scale := double_sub x
    _ ≤ 2 ^ shift (x * 2 ^ scale) / 2 / 2 ^ scale := by
      gcongr
      exact nearestUnits_error (by positivity)
    _ = 2 ^ (shift (x * 2 ^ scale) + 53) / 2 ^ scale / 2 ^ 54 := by
      rw [pow_add]
      field_simp
    _ ≤ 2 ^ (bits + scale) / 2 ^ scale / 2 ^ 54 := by
      gcongr
      norm_num
    _ = 2 ^ bits / 2 ^ 54 := by
      rw [pow_add, mul_div_cancel_right₀ _ (power scale).ne']

theorem round_error {x : ℚ} {digits bits : ℕ} (start : 0 ≤ x) (less : x + 1 / 2 / 10 ^ digits < 2 ^ bits) :
    |round x digits - x| ≤ 1 / 2 / 10 ^ digits + 2 ^ bits / 2 ^ 54 := by
  have decimals := decimals_error start digits
  have nearest : |round x digits - roundHalfEven (x * 10 ^ digits) / 10 ^ digits| ≤ 2 ^ bits / 2 ^ 54 :=
    double_error_of_lt (by positivity) (by linarith [(abs_le.mp decimals).2])
  calc |round x digits - x|
      ≤ |round x digits - roundHalfEven (x * 10 ^ digits) / 10 ^ digits| +
          |roundHalfEven (x * 10 ^ digits) / 10 ^ digits - x| := abs_sub_le _ _ _
    _ ≤ 1 / 2 / 10 ^ digits + 2 ^ bits / 2 ^ 54 := by linarith

theorem double_natCast {n : ℕ} (small : n < 2 ^ 53) : double n = n := by
  have below : shift (n * 2 ^ scale) ≤ scale := by
    have floor : ⌊(n * 2 ^ scale : ℚ)⌋₊ = n * 2 ^ scale := by
      exact_mod_cast Nat.floor_natCast (R := ℚ) (n * 2 ^ scale)
    rw [shift, floor]
    by_cases zero : n * 2 ^ scale = 0
    · rw [zero, Nat.log2_zero]
      omega
    · have log : (n * 2 ^ scale).log2 < 53 + scale := by
        rw [Nat.log2_lt zero, pow_add]
        exact Nat.mul_lt_mul_of_pos_right small (by positivity)
      omega
  have units : (nearestUnits (n * 2 ^ scale) : ℚ) = n * 2 ^ scale := by
    have whole : (n * 2 ^ scale / 2 ^ shift (n * 2 ^ scale) : ℚ) =
        (n * 2 ^ (scale - shift (n * 2 ^ scale)) : ℕ) := by
      rw [div_eq_iff (by positivity)]
      push_cast
      rw [mul_assoc, ← pow_add, Nat.sub_add_cancel below]
    rw [nearestUnits, whole, roundHalfEven_natCast]
    push_cast
    rw [mul_assoc, ← pow_add, Nat.sub_add_cancel below]
  rw [double, units, mul_div_cancel_right₀ _ (by positivity)]

theorem double_error {x : ℚ} (normal : 1 ≤ x * 2 ^ 1022) : |double x - x| ≤ x / 2 ^ 53 := by
  have large : ((2 ^ 52 : ℕ) : ℚ) ≤ x * 2 ^ scale := by
    have split : (2 : ℚ) ^ scale = 2 ^ 1022 * 2 ^ 52 := by
      rw [show scale = 1022 + 52 from rfl, pow_add]
    calc ((2 ^ 52 : ℕ) : ℚ) = 1 * 2 ^ 52 := by norm_num
      _ ≤ x * 2 ^ 1022 * 2 ^ 52 := by gcongr
      _ = x * 2 ^ scale := by rw [split, mul_assoc]
  have units : |(nearestUnits (x * 2 ^ scale) : ℚ) - x * 2 ^ scale| ≤ x * 2 ^ scale / 2 ^ 53 := by
    generalize x * 2 ^ scale = y at large
    have start : 0 ≤ y := le_trans (by positivity) large
    have floor : 2 ^ 52 ≤ ⌊y⌋₊ := Nat.le_floor large
    have log : 52 + shift y = Nat.log2 ⌊y⌋₊ := by
      have least : 52 ≤ Nat.log2 ⌊y⌋₊ := (Nat.le_log2 (by omega)).mpr floor
      unfold shift
      omega
    have lower : (2 : ℚ) ^ 52 * 2 ^ shift y ≤ y := by
      rw [← pow_add, log]
      calc (2 : ℚ) ^ Nat.log2 ⌊y⌋₊ ≤ ⌊y⌋₊ := by exact_mod_cast Nat.log2_self_le (by omega)
        _ ≤ y := Nat.floor_le start
    calc |(nearestUnits y : ℚ) - y| ≤ 2 ^ shift y / 2 := nearestUnits_error start
      _ ≤ y / 2 ^ 53 := by
          rw [le_div_iff₀ (by positivity)]
          linarith
  calc |double x - x| = |(nearestUnits (x * 2 ^ scale) : ℚ) - x * 2 ^ scale| / 2 ^ scale := double_sub x
    _ ≤ x * 2 ^ scale / 2 ^ 53 / 2 ^ scale := by gcongr
    _ = x / 2 ^ 53 := by
        field_simp

theorem double_error_of_le {x : ℚ} (least : 1 / 1000000 ≤ x) : |double x - x| ≤ x / 2 ^ 53 := by
  refine double_error ?_
  have power : (2 : ℚ) ^ 20 ≤ 2 ^ 1022 := pow_le_pow_right₀ (by norm_num) (by norm_num)
  calc (1 : ℚ) ≤ 1 / 1000000 * 2 ^ 20 := by norm_num
    _ ≤ x * 2 ^ 1022 := by gcongr

theorem double_zero : double 0 = 0 := by exact_mod_cast double_natCast (n := 0) (by norm_num)

theorem double_natCast_error (n : ℕ) : |double n - n| ≤ n / 2 ^ 53 := by
  obtain rfl | some := Nat.eq_zero_or_pos n
  · norm_num [double_zero]
  · have one : (1 : ℚ) ≤ n := by exact_mod_cast some
    exact double_error_of_le (by linarith)

/-- A whole number of millionths, in thousandths: what the two roundings do to it. -/
theorem times_divide_error {k : ℕ} (some : 1 ≤ k) :
    |times (divide k 1000000) 1000 - k / 1000| ≤ 3 * k / 1000 / 2 ^ 53 := by
  have one : (1 : ℚ) ≤ k := by exact_mod_cast some
  have seconds : |divide k 1000000 - k / 1000000| ≤ k / 1000000 / 2 ^ 53 :=
    double_error_of_le (by linarith)
  have near := abs_le.mp seconds
  have product : |times (divide k 1000000) 1000 - divide k 1000000 * 1000| ≤
      divide k 1000000 * 1000 / 2 ^ 53 := by
    refine double_error_of_le ?_
    norm_num at near ⊢
    linarith
  have near' := abs_le.mp product
  rw [abs_le]
  norm_num at near near' ⊢
  constructor <;> linarith

end Doubles

end CareerProjects.Library
