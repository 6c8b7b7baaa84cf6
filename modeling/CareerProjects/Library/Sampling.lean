import CareerProjects.Library.Doubles

/-! Generators of random numbers that are seeded, and the numbers that are drawn from them. -/

namespace CareerProjects.Library

open Doubles

def between (low high number : ℚ) : ℚ := plus low (times (double (high - low)) number)

theorem round_between_range {low number : ℚ} (high : ℚ) (digits : ℕ) (start : 0 ≤ low)
    (range : 0 ≤ number ∧ number < 1) :
    round (between low high 0) digits ≤ round (between low high number) digits ∧
      round (between low high number) digits ≤ round (between low high 1) digits := by
  have width := double_nonneg (high - low)
  have scaled {x y : ℚ} (first : 0 ≤ x) (ordered : x ≤ y) :
      round (between low high x) digits ≤ round (between low high y) digits := by
    refine round_mono (double_nonneg _) (double_mono ?_ ?_)
    · exact add_nonneg start (double_nonneg _)
    · have products : times (double (high - low)) x ≤ times (double (high - low)) y :=
        double_mono (mul_nonneg width first) (mul_le_mul_of_nonneg_left ordered width)
      linarith
  exact ⟨scaled le_rfl range.1, scaled range.1 range.2.le⟩

/-- A generator whose numbers are doubles from zero to below one. -/
structure RandomSource where
  State : Type
  seeded : ℤ → State
  random : State → ℚ × State
  random_range : ∀ state, 0 ≤ (random state).1 ∧ (random state).1 < 1

namespace RandomSource

variable (source : RandomSource)

def after : ℕ → source.State → source.State
  | 0, state => state
  | n + 1, state => after n (source.random state).2

def draw (state : source.State) (n : ℕ) : ℚ := (source.random (source.after n state)).1

def uniform (low high : ℚ) (state : source.State) : ℚ × source.State :=
  let (number, next) := source.random state
  (between low high number, next)

variable {source} {state : source.State}

@[simp] theorem uniform_snd (low high : ℚ) : (source.uniform low high state).2 = (source.random state).2 := rfl

theorem draw_range (n : ℕ) : 0 ≤ source.draw state n ∧ source.draw state n < 1 := source.random_range _

end RandomSource

end CareerProjects.Library
