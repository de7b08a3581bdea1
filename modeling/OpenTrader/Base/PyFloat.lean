import Mathlib.Algebra.Order.Field.Rat
import Mathlib.Order.WithBot

/-!
# Floats of the source

Library `Base`. A float is an exact rational, an infinity or NaN. NaN is neither below nor above
anything, so a test that has to be true to refuse a value lets it pass. A power whose value is
beyond the largest float is no infinity: it raises.
-/

namespace OpenTrader.Base

/-- A Python `float`, the finite ones exact. -/
inductive PyFloat where
  | finite (value : ℚ)
  | infinite (negative : Bool)
  | nan
  deriving DecidableEq

namespace PyFloat

/-- The place of a float in the order; NaN has none. -/
def extended : PyFloat → Option (WithBot (WithTop ℚ))
  | .finite value => some (value : WithTop ℚ)
  | .infinite negative => some (if negative then ⊥ else (⊤ : WithTop ℚ))
  | .nan => none

/-- `x < y`. -/
def lt (x y : PyFloat) : Bool :=
  match x.extended, y.extended with
  | some a, some b => decide (a < b)
  | _, _ => false

/-- `x <= y`. -/
def le (x y : PyFloat) : Bool :=
  match x.extended, y.extended with
  | some a, some b => decide (a ≤ b)
  | _, _ => false

/-- `max(x, y)`, the first of the two unless the second is larger. -/
def max (x y : PyFloat) : PyFloat := if x.lt y then y else x

/-- `min(x, y)`, the first of the two unless the second is smaller. -/
def min (x y : PyFloat) : PyFloat := if y.lt x then y else x

/-- Every float but NaN has a place. -/
theorem ne_nan_iff {x : PyFloat} : x ≠ .nan ↔ ∃ a, x.extended = some a := by
  cases x <;> simp [extended]

section

variable {x y : PyFloat} {a b : WithBot (WithTop ℚ)} (hx : x.extended = some a)
  (hy : y.extended = some b)
include hx hy

theorem lt_eq : x.lt y = decide (a < b) := by
  rw [lt, hx, hy]

theorem le_eq : x.le y = decide (a ≤ b) := by
  rw [le, hx, hy]

theorem extended_max : (x.max y).extended = some (Max.max a b) := by
  rw [max, lt_eq hx hy]
  by_cases h : a < b
  · simp [h, hy, max_eq_right h.le]
  · simp [h, hx, max_eq_left (not_lt.mp h)]

theorem extended_min : (x.min y).extended = some (Min.min a b) := by
  rw [min, lt_eq hy hx]
  by_cases h : b < a
  · simp [h, hy, min_eq_right h.le]
  · simp [h, hx, min_eq_left (not_lt.mp h)]

end

end PyFloat

/-- The least number too large for a float: it is as near to the largest one as to `2 ^ 1024`. -/
def floatOverflow : ℚ := 2 ^ 1024 - 2 ^ 970

/-- `x ** n`, unless it raises `OverflowError`. -/
def floatPower (x : ℚ) (n : ℕ) : Option ℚ := if |x ^ n| < floatOverflow then some (x ^ n) else none

end OpenTrader.Base
