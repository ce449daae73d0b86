import OdooConnector.Library.Fold
import OdooConnector.Order.RoundedAmounts

/-!
# Price difference lines

The difference between the total of the store and the total of the order is put on a line of its
own. The total of the order is raised to cents before and after that, which does not matter: the
difference is a number of cents, and raising commutes with adding cents.
-/

namespace OdooConnector.Order

/-- A currency. Rounding to its unit leaves multiples of the unit as they are. -/
structure Currency where
  rounding : ℚ
  /-- `float_round` with the unit of the currency as precision. -/
  floatRound : ℚ → ℚ
  isZero : ℚ → Bool
  floatRound_multiple : ∀ amount ∈ multiples rounding, floatRound amount = amount
  isZero_multiple : ∀ amount ∈ multiples rounding, (isZero amount = true ↔ amount = 0)

/-- Values of a new order line, of which the quantity is one. -/
structure LineVals where
  productId : ℕ
  priceUnit : ℚ
  taxId : List ℕ

/-- How Odoo prices a new line. A line without taxes costs its unit price, where that is a multiple
of the unit of the currency. -/
structure LinePricing (currency : Currency) where
  create : LineVals → AmountLine
  create_untaxed : ∀ product, ∀ price ∈ multiples currency.rounding,
    create ⟨product, price, []⟩ = ⟨none, price, 0⟩

structure DifferenceSettings where
  name : String
  useOrderTotalDifferenceCorrection : Bool
  positivePriceDifferenceProductId : Option ℕ
  negativePriceDifferenceProductId : Option ℕ

/-- The text of the import error; amounts are shown with six digits. -/
def differenceMessage (showFloat : ℚ → String) (name : String) (ours theirs : ℚ) : String :=
  "The total amount in the sales order from " ++ name ++ " differs from " ++
  "the calculated amount in Odoo, usually due to rounding issues or tax discrepancies.\n" ++
  "Order amounts: " ++ showFloat ours ++ " (Odoo) vs " ++ showFloat theirs ++ " (" ++ name ++
  ")\n\n" ++
  "Odoo and " ++ name ++ " calculate taxes differently, which can lead to this issue. " ++
  "To resolve it, you can either:\n" ++
  "1. Go to \"E-Commerce Integrations → Stores → " ++ name ++ "\".\n" ++
  "Navigate to the \"Sales Orders\" tab, and in the \"Order Extras Management\" section, " ++
  "configure the products to be used for compensating price differences.\n" ++
  "2. Alternatively, you can disable the \"Order Total Difference Correction\" checkbox on " ++
  "the same tab if you do not want Odoo to handle price discrepancies.\n\n" ++
  "Once the issue is resolved, requeue the job, and the sales order will " ++
  "be created in Odoo with the correct total."

variable {currency : Currency} (pricing : LinePricing currency) (showFloat : ℚ → String)
  (integration : DifferenceSettings)

/-- `_create_line_with_price_difference_product`; the lines that it creates. -/
def createLineWithPriceDifferenceProduct (order : List AmountLine) (amountTotal : ℚ) :
    Except String (List AmountLine) :=
  let orderTotal := (computeAmounts order).amountTotal
  let priceDifference := currency.floatRound (amountTotal - orderTotal)
  if currency.isZero priceDifference then .ok []
  else
    let differenceProductId :=
      if 0 < priceDifference then integration.positivePriceDifferenceProductId
      else integration.negativePriceDifferenceProductId
    match differenceProductId with
    | none => .error (differenceMessage showFloat integration.name orderTotal amountTotal)
    | some product => .ok [pricing.create ⟨product, priceDifference, []⟩]

/-- `_create_order_additional_lines`, with the lines for delivery, gift wrapping and discounts; a
total of zero is not corrected. -/
def createOrderAdditionalLines
    (createDeliveryLine createGiftLine createDiscountLine :
      List AmountLine → Except String (List AmountLine))
    (amountTotal : Option ℚ) (order : List AmountLine) : Except String (List AmountLine) := do
  let order := order ++ (← createDeliveryLine order)
  let order := order ++ (← createGiftLine order)
  let order := order ++ (← createDiscountLine order)
  if integration.useOrderTotalDifferenceCorrection then
    match amountTotal.filter (· ≠ 0) with
    | some amountTotal =>
        let created ← createLineWithPriceDifferenceProduct pricing showFloat integration order
          amountTotal
        return order ++ created
    | none => return order
  else return order

/-- Both difference products are set. -/
def DifferenceSettings.HasProducts : Prop :=
  integration.positivePriceDifferenceProductId.isSome ∧
    integration.negativePriceDifferenceProductId.isSome

variable {pricing showFloat integration}

/-- A line without display type adds its amounts to the raw total. -/
theorem rawTotal_append_line (order : List AmountLine) (subtotal tax : ℚ) :
    rawTotal (order ++ [⟨none, subtotal, tax⟩]) = rawTotal order + (subtotal + tax) := by
  simp [rawTotal]

/-- The total of an order is a number of cents. -/
theorem amountTotal_mem (order : List AmountLine) :
    (computeAmounts order).amountTotal ∈ multiples cent := by
  rw [amountTotal_computeAmounts]
  exact nextMultiple_mem cent _

/-- Adding an untaxed line of some cents adds them to the total. -/
theorem amountTotal_append_line (order : List AmountLine) {price : ℚ}
    (cents : price ∈ multiples cent) :
    (computeAmounts (order ++ [⟨none, price, 0⟩])).amountTotal =
      (computeAmounts order).amountTotal + price := by
  rw [amountTotal_computeAmounts, amountTotal_computeAmounts, rawTotal_append_line, add_zero,
    nextMultiple_add cent_pos cents]

variable (pricing showFloat) in
/-- Nothing is created if the totals are the same, and otherwise a line with the difference. -/
theorem createLine_of_products (order : List AmountLine) {storeTotal : ℚ}
    (unit : currency.rounding = cent) (cents : storeTotal ∈ multiples cent)
    (products : integration.HasProducts) :
    createLineWithPriceDifferenceProduct pricing showFloat integration order storeTotal =
      .ok (if storeTotal = (computeAmounts order).amountTotal then []
        else [⟨none, storeTotal - (computeAmounts order).amountTotal, 0⟩]) := by
  have difference : storeTotal - (computeAmounts order).amountTotal ∈ multiples currency.rounding :=
    unit ▸ sub_mem cents (amountTotal_mem order)
  obtain ⟨positive, negative⟩ := products
  obtain ⟨positive, positive_eq⟩ := Option.isSome_iff_exists.mp positive
  obtain ⟨negative, negative_eq⟩ := Option.isSome_iff_exists.mp negative
  rw [createLineWithPriceDifferenceProduct]
  dsimp only
  rw [currency.floatRound_multiple _ difference, positive_eq, negative_eq]
  simp only [currency.isZero_multiple _ difference, sub_eq_zero]
  by_cases same : storeTotal = (computeAmounts order).amountTotal
  · rw [if_pos same, if_pos same]
  · rw [if_neg same, if_neg same]
    split
    · rename_i found
      split at found <;> cases found
    · rw [pricing.create_untaxed _ _ difference]

/-- The total comes out as that of the store, whatever the raw total was. -/
theorem amountTotal_of_created {order created : List AmountLine} {storeTotal : ℚ}
    (unit : currency.rounding = cent) (cents : storeTotal ∈ multiples cent)
    (products : integration.HasProducts)
    (ran : createLineWithPriceDifferenceProduct pricing showFloat integration order storeTotal =
      .ok created) :
    (computeAmounts (order ++ created)).amountTotal = storeTotal := by
  rw [createLine_of_products pricing showFloat order unit cents products] at ran
  cases ran
  split
  · rename_i same
    rw [List.append_nil, same]
  · rw [amountTotal_append_line order (sub_mem cents (amountTotal_mem order)), add_sub_cancel]

/-- An import that corrects the total of an order ends with the total of the store, unless that is
zero. -/
theorem additionalLines_total
    {createDeliveryLine createGiftLine createDiscountLine :
      List AmountLine → Except String (List AmountLine)}
    {order after : List AmountLine} {storeTotal : ℚ} (unit : currency.rounding = cent)
    (cents : storeTotal ∈ multiples cent) (products : integration.HasProducts)
    (enabled : integration.useOrderTotalDifferenceCorrection = true) (nonzero : storeTotal ≠ 0)
    (ran : createOrderAdditionalLines pricing showFloat integration createDeliveryLine
      createGiftLine createDiscountLine (some storeTotal) order = .ok after) :
    (computeAmounts after).amountTotal = storeTotal := by
  rw [createOrderAdditionalLines] at ran
  obtain ⟨delivery, -, ran⟩ := bind_eq_ok_iff.mp ran
  obtain ⟨gift, -, ran⟩ := bind_eq_ok_iff.mp ran
  obtain ⟨discount, -, ran⟩ := bind_eq_ok_iff.mp ran
  rw [if_pos enabled, Option.filter_some, if_pos (by simpa using nonzero)] at ran
  obtain ⟨created, difference, ran⟩ := bind_eq_ok_iff.mp ran
  cases ran
  exact amountTotal_of_created unit cents products difference

/-! ## A total below the store's -/

/-- The euro, with amounts in cents. -/
def euro : Currency where
  rounding := cent
  floatRound amount := cent * round (amount / cent)
  isZero amount := round (amount / cent) = 0
  floatRound_multiple := by
    intro amount member
    obtain ⟨count, rfl⟩ := mem_multiples_iff.mp member
    rw [mul_div_cancel_left₀ _ cent_pos.ne', round_intCast]
  isZero_multiple := by
    intro amount member
    obtain ⟨count, rfl⟩ := mem_multiples_iff.mp member
    rw [mul_div_cancel_left₀ _ cent_pos.ne', round_intCast]
    simp [cent_pos.ne']

def euroPricing : LinePricing euro where
  create vals := ⟨none, vals.priceUnit, 0⟩
  create_untaxed _ _ _ := rfl

end OdooConnector.Order
