import Mathlib.Data.Rat.Floor

/-!
# Integers from rational amounts

Amounts are rational numbers. They become integers in two ways: by cutting off the fraction, and
by rounding to the nearest integer, where a half goes to the even neighbour.
-/

namespace OdooConnector

/-- Cut off the fraction, towards zero. -/
def truncate (value : ℚ) : ℤ :=
  if 0 ≤ value then ⌊value⌋ else ⌈value⌉

/-- Nearest integer; a half is rounded to the even one of its neighbours. -/
def roundHalfEven (value : ℚ) : ℤ :=
  let below := ⌊value⌋
  if value - below < 1 / 2 then below
  else if 1 / 2 < value - below then below + 1
  else if below % 2 = 0 then below else below + 1

/-- `round` to a number of decimal digits -/
def roundDigits (digits : ℕ) (value : ℚ) : ℚ := roundHalfEven (value * 10 ^ digits) / 10 ^ digits

end OdooConnector
