import Mathlib.Algebra.BigOperators.Group.List.Basic
import OdooConnector.Library.Multiples

/-!
# Rounded amounts of an order

The total of an order is raised to cents, and the tax takes the difference. A total that already
is a number of cents is raised by a whole cent, since its last digit is 0 and not 10.
-/

namespace OdooConnector.Order

structure AmountLine where
  displayType : Option String
  priceSubtotal : ℚ
  priceTax : ℚ

structure OrderAmounts where
  amountUntaxed : ℚ
  amountTax : ℚ
  amountTotal : ℚ

/-- `_compute_amounts` for one order. -/
def computeAmounts (orderLine : List AmountLine) : OrderAmounts :=
  let orderLines := orderLine.filter fun line => line.displayType.isNone
  let amountUntaxed := (orderLines.map AmountLine.priceSubtotal).sum
  let amountTax := (orderLines.map AmountLine.priceTax).sum
  let amountTotal := amountUntaxed + amountTax
  let lastDigit := remainder (amountTotal * 1000) 10
  let amountToAround := 10 - lastDigit
  { amountUntaxed
    amountTax := (amountTax * 1000 + amountToAround) / 1000
    amountTotal := (amountTotal * 1000 + amountToAround) / 1000 }

/-- What the lines of an order cost with taxes; a section or a note costs nothing. -/
def rawTotal (orderLine : List AmountLine) : ℚ :=
  ((orderLine.filter fun line => line.displayType.isNone).map fun line =>
    line.priceSubtotal + line.priceTax).sum

/-- A cent. -/
def cent : ℚ := 1 / 100

theorem cent_pos : 0 < cent := by
  norm_num [cent]

/-- The total is the least number of cents that is not below the raw one, which stays as it is
where it is a number of cents, and the parts add up to it. -/
structure ExactAmounts (raw : ℚ) (amounts : OrderAmounts) : Prop where
  least : IsLeast {amount | amount ∈ multiples cent ∧ raw ≤ amount} amounts.amountTotal
  kept : raw ∈ multiples cent → amounts.amountTotal = raw
  parts : amounts.amountUntaxed + amounts.amountTax = amounts.amountTotal

variable (lines : List AmountLine)

theorem sum_untaxed_tax :
    ((lines.filter fun line => line.displayType.isNone).map AmountLine.priceSubtotal).sum +
      ((lines.filter fun line => line.displayType.isNone).map AmountLine.priceTax).sum =
    rawTotal lines := by
  rw [rawTotal, List.sum_map_add]

/-- The total is the next number of cents above the raw one. -/
theorem amountTotal_computeAmounts :
    (computeAmounts lines).amountTotal = nextMultiple cent (rawTotal lines) := by
  have scaled : (cent * 1000 : ℚ) = 10 := by norm_num [cent]
  simp only [computeAmounts, sum_untaxed_tax, add_sub_remainder]
  rw [← scaled, nextMultiple_mul (by norm_num), mul_div_cancel_right₀ _ (by norm_num)]

theorem parts_computeAmounts :
    (computeAmounts lines).amountUntaxed + (computeAmounts lines).amountTax =
      (computeAmounts lines).amountTotal := by
  simp only [computeAmounts]
  ring

/-- A total in cents is raised by one more. -/
theorem amountTotal_of_cents (cents : rawTotal lines ∈ multiples cent) :
    (computeAmounts lines).amountTotal = rawTotal lines + cent := by
  have none : nextMultiple cent (0 : ℚ) = cent := by norm_num [nextMultiple]
  have moved : nextMultiple cent (0 + rawTotal lines) = nextMultiple cent 0 + rawTotal lines :=
    nextMultiple_add cent_pos cents
  rw [zero_add, none] at moved
  rw [amountTotal_computeAmounts, moved, add_comm]

/-- The amounts are exact if and only if the raw total has a fraction of a cent. -/
theorem computeAmounts_exact_iff :
    ExactAmounts (rawTotal lines) (computeAmounts lines) ↔ rawTotal lines ∉ multiples cent := by
  constructor
  · rintro ⟨least, -, -⟩
    rw [amountTotal_computeAmounts] at least
    exact (isLeast_nextMultiple_iff cent_pos).mp least
  · intro between
    refine ⟨?_, fun cents => absurd cents between, parts_computeAmounts lines⟩
    rw [amountTotal_computeAmounts]
    exact (isLeast_nextMultiple_iff cent_pos).mpr between

/-- An order of ten with two of tax comes to twelve and one cent. -/
theorem twelve_raised :
    ¬ ExactAmounts (rawTotal [⟨none, 10, 2⟩]) (computeAmounts [⟨none, 10, 2⟩]) := by
  rintro ⟨-, kept, -⟩
  have twelve := kept (mem_multiples_iff.mpr ⟨1200, by norm_num [rawTotal, cent]⟩)
  norm_num [computeAmounts, rawTotal, remainder] at twelve

end OdooConnector.Order
