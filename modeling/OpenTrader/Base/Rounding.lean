import Mathlib.Data.Rat.Floor
import Mathlib.Tactic.Positivity

/-!
# Rounding to a number of decimals

Library `Base`. A number goes to the nearest multiple of a power of ten, and one halfway between two
multiples to the even one. Rounding keeps the order and moves a number by half a unit at most.
-/

namespace OpenTrader.Base

/-- The nearest integer, and the even one of two. -/
def roundHalfEven (x : ℚ) : ℤ :=
  if Int.fract x < 1 / 2 then ⌊x⌋
  else if 1 / 2 < Int.fract x then ⌊x⌋ + 1
  else if ⌊x⌋ % 2 = 0 then ⌊x⌋ else ⌊x⌋ + 1

/-- Rounding to `digits` decimals. -/
def roundTo (digits : ℕ) (x : ℚ) : ℚ := roundHalfEven (x * 10 ^ digits) / 10 ^ digits

/-- An integer is no further than a half from what it rounds. -/
theorem abs_roundHalfEven_sub_le (x : ℚ) : |(roundHalfEven x : ℚ) - x| ≤ 1 / 2 := by
  have hx : (⌊x⌋ : ℚ) + Int.fract x = x := Int.floor_add_fract x
  have hnonneg : 0 ≤ Int.fract x := Int.fract_nonneg x
  have hlt : Int.fract x < 1 := Int.fract_lt_one x
  rw [abs_le]
  unfold roundHalfEven
  split_ifs with hdown hup
  · constructor <;> linarith
  · push_cast
    constructor <;> linarith
  · constructor <;> linarith
  · push_cast
    constructor <;> linarith

/-- Rounding to integers keeps the order. -/
theorem roundHalfEven_mono {x y : ℚ} (h : x ≤ y) : roundHalfEven x ≤ roundHalfEven y := by
  by_contra hlt
  -- Integers the other way round are one apart, so both numbers are halfway between them.
  have hapart : (roundHalfEven y : ℚ) + 1 ≤ roundHalfEven x := by
    exact_mod_cast Int.add_one_le_iff.mpr (not_le.mp hlt)
  have hx := (abs_le.mp (abs_roundHalfEven_sub_le x)).2
  have hy := (abs_le.mp (abs_roundHalfEven_sub_le y)).1
  have heq : x = y := by linarith
  exact hlt (heq ▸ le_rfl)

variable (digits : ℕ)

/-- Rounding moves a number by half a unit at most. -/
theorem abs_roundTo_sub_le (x : ℚ) : |roundTo digits x - x| ≤ 1 / 2 / 10 ^ digits := by
  have hscale : (0 : ℚ) < 10 ^ digits := by positivity
  have hdiff : roundTo digits x - x =
      (roundHalfEven (x * 10 ^ digits) - x * 10 ^ digits) / 10 ^ digits := by
    rw [roundTo, sub_div, mul_div_cancel_right₀ x hscale.ne']
  rw [hdiff, abs_div, abs_of_pos hscale]
  exact div_le_div_of_nonneg_right (abs_roundHalfEven_sub_le _) hscale.le

/-- Rounding keeps the order. -/
theorem roundTo_mono {x y : ℚ} (h : x ≤ y) : roundTo digits x ≤ roundTo digits y := by
  have hscale : (0 : ℚ) < 10 ^ digits := by positivity
  have hround := roundHalfEven_mono (mul_le_mul_of_nonneg_right h hscale.le)
  exact div_le_div_of_nonneg_right (Int.cast_le.mpr hround) hscale.le

/-- Nothing rounds to nothing. -/
@[simp] theorem roundTo_zero : roundTo digits 0 = 0 := by
  simp [roundTo, roundHalfEven]

end OpenTrader.Base
