import OdooConnector.Library.Fold
import OdooConnector.Library.Joining
import OdooConnector.Library.Text
import OdooConnector.Resource.DeliveryMethod

/-!
# External codes of attribute values and carriers

The code of an attribute value joins the names of option and value, the code of a carrier joins
service code and name in title case. Lists of values keep the first value of a code. Two objects
have one code only if the separator occurs in their names, or if only letter case tells them apart.
-/

namespace OdooConnector.Resource

/-- An option of a product with the names of its values. -/
structure ProductOption where
  name : String
  optionValues : List String
  deriving DecidableEq

structure Product where
  options : List ProductOption
  deriving DecidableEq

def attributeDefaultTitle : String := "Title"
def attributeDefaultValue : String := "Default Title"
def shopifyAttributePrefix : String := "shopify-attribute-"
def shopifyAttributeValuePrefix : String := "shopify-attribute-value-"
def shopifyShippingPrefix : String := "shopify-shipping-"

def formatAttrCode (name : String) : String := shopifyAttributePrefix ++ name

def formatAttrValueCode (optionName optionValue : String) : String :=
  shopifyAttributeValuePrefix ++ (optionName ++ "-" ++ optionValue)

/-- The code comes behind the title; both are in title case. -/
def formatDeliveryCode (table : CaseTable) (code title : String) : String :=
  shopifyShippingPrefix ++ (table.strTitle title ++ " " ++ table.strTitle code)

namespace Product

/-- Names of options and values, without the option that stands for none. -/
def formattedOptions (product : Product) : List (String × String) :=
  product.options.flatMap fun option =>
    if option.name = attributeDefaultTitle ∧ option.optionValues = [attributeDefaultValue] then []
    else option.optionValues.map fun value => (option.name, value)

end Product

structure AttributeValue where
  id : String
  idGroup : String
  idGroupName : String
  name : String
  deriving DecidableEq

def attributeValue (pair : String × String) : AttributeValue where
  id := formatAttrValueCode pair.1 pair.2
  idGroup := formatAttrCode pair.1
  idGroupName := pair.1
  name := pair.2

namespace Product

def getAttributeValues (product : Product) : List AttributeValue :=
  product.formattedOptions.map attributeValue

end Product

/-- `_get_products_options` for the attribute values. -/
def getProductsOptions (products : List Product) : List AttributeValue :=
  keepFirst AttributeValue.id (products.flatMap Product.getAttributeValues)

/-! ## Carriers -/

/-- Name and service code of a valid shipping method. -/
def DeliveryData.carrier (method : DeliveryData) : Option (String × String) :=
  if method.methodType = .shipping && method.isValid then
    some (method.name.getD "", method.code.getD "")
  else none

namespace ShippingLine

def counts (line : ShippingLine) : Bool := line.hasPrices && !line.isRemoved

/-- The carrier that the shipping line stands for: each of code and title may take the place of the
other. -/
def carrier (line : ShippingLine) : Option (String × String) :=
  if !truthy line.code && !truthy line.title then none
  else
    let name := (if truthy line.title then line.title else line.code).getD ""
    some (name, if truthy line.code then line.code.getD "" else name)

end ShippingLine

/-- Whether the order has a valid delivery method. -/
def usable : DeliveryMethod → Bool
  | some method => method.isValid
  | none => false

namespace Order

/-- Carriers of the fulfillment orders, and of the shipping line if the order has no valid delivery
method. -/
def carriers (order : Order) : Except Failure (List (String × String)) := do
  let shipping := order.methods.filterMap DeliveryData.carrier
  let delivery ← order.deliveryMethod
  if !usable delivery && order.shippingLine.counts then
    return shipping ++ order.shippingLine.carrier.toList
  return shipping

end Order

def scannedCarriers (orders : List Order) : Except Failure (List (String × String)) := do
  let carriers ← orders.mapM Order.carriers
  return carriers.flatten

/-- The entry of a carrier: its id and its name. -/
def carrierEntry (table : CaseTable) (carrier : String × String) : String × String :=
  (formatDeliveryCode table carrier.1 carrier.2, carrier.1)

def standardEntries : List (String × String) :=
  [("LOCAL", "The order is delivered using a local delivery service."),
    ("PICK_UP", "The order is picked up by the customer."),
    ("PICKUP_POINT", "The order is delivered to a pickup point."),
    ("RETAIL", "In-store sale, no delivery needed.")]

/-- `get_delivery_methods` over the orders that it fetches; a set of entries. -/
def getDeliveryMethods (table : CaseTable) (orders : List Order) :
    Except Failure (List (String × String)) := do
  let carriers ← scannedCarriers orders
  return (carriers.map (carrierEntry table) ++ standardEntries).dedup

/-! ## What the codes tell apart -/

/-- All attribute values of the products are listed. -/
def DropsNone (products : List Product) : Prop :=
  ∀ product ∈ products, ∀ value ∈ product.getAttributeValues, value ∈ getProductsOptions products

/-- Distinct carriers are listed with distinct ids. -/
def MergesNone (table : CaseTable) (orders : List Order) : Prop :=
  ∀ carriers result, scannedCarriers orders = .ok carriers →
    getDeliveryMethods table orders = .ok result →
    ∀ first ∈ carriers, ∀ second ∈ carriers, first ≠ second →
      ∃ one ∈ result, ∃ other ∈ result, one = carrierEntry table first ∧
        other = carrierEntry table second ∧ one.1 ≠ other.1

/-- Service code and name in title case, in the order of the code. -/
def titled (table : CaseTable) (carrier : String × String) : String × String :=
  (table.strTitle carrier.2, table.strTitle carrier.1)

/-- In title case no space shifts between service code and name, and the carriers differ unless they
are the same. -/
def Apart (table : CaseTable) (first second : String × String) : Prop :=
  ¬ Shifted " " (titled table first) (titled table second) ∧
    (titled table first = titled table second → first = second)

theorem formatAttrValueCode_eq_iff (first second : String × String) :
    formatAttrValueCode first.1 first.2 = formatAttrValueCode second.1 second.2 ↔
      first = second ∨ Shifted "-" first second := by
  rw [formatAttrValueCode, formatAttrValueCode, String.append_right_inj]
  exact joined_eq_iff '-' first second

theorem attrValueCode_identifies_iff (first second : String × String) :
    (formatAttrValueCode first.1 first.2 = formatAttrValueCode second.1 second.2 →
        first = second) ↔ ¬ Shifted "-" first second := by
  rw [formatAttrValueCode_eq_iff]
  constructor
  · intro identifies shifted
    exact shifted.ne (by decide) (identifies (Or.inr shifted))
  · rintro apart (same | shifted)
    · exact same
    · exact absurd shifted apart

theorem deliveryCode_identifies_iff (table : CaseTable) (first second : String × String) :
    (formatDeliveryCode table first.1 first.2 = formatDeliveryCode table second.1 second.2 →
        first = second) ↔ Apart table first second := by
  have codes : formatDeliveryCode table first.1 first.2 =
      formatDeliveryCode table second.1 second.2 ↔
      titled table first = titled table second ∨
        Shifted " " (titled table first) (titled table second) := by
    rw [formatDeliveryCode, formatDeliveryCode, String.append_right_inj]
    exact joined_eq_iff ' ' (titled table first) (titled table second)
  rw [codes, Apart]
  constructor
  · intro identifies
    refine ⟨fun shifted => ?_, fun same => identifies (Or.inl same)⟩
    have same := identifies (Or.inr shifted)
    exact shifted.ne (by decide) (congrArg (titled table) same)
  · rintro ⟨apart, cased⟩ (same | shifted)
    · exact cased same
    · exact absurd shifted apart

theorem mem_attributeValues_iff {products : List Product} {value : AttributeValue} :
    value ∈ products.flatMap Product.getAttributeValues ↔
      ∃ pair ∈ products.flatMap Product.formattedOptions, attributeValue pair = value := by
  simp only [List.mem_flatMap, Product.getAttributeValues, List.mem_map]
  constructor
  · rintro ⟨product, member, pair, listed, same⟩
    exact ⟨pair, ⟨product, member, listed⟩, same⟩
  · rintro ⟨pair, ⟨product, member, listed⟩, same⟩
    exact ⟨product, member, pair, listed, same⟩

theorem attributeValue_injective : Function.Injective attributeValue := by
  intro first second same
  have names := congrArg AttributeValue.idGroupName same
  have values := congrArg AttributeValue.name same
  exact Prod.ext names values

/-- Attribute values are dropped exactly where two of them are shifted. -/
theorem dropsNone_iff (products : List Product) :
    DropsNone products ↔ ∀ first ∈ products.flatMap Product.formattedOptions,
      ∀ second ∈ products.flatMap Product.formattedOptions, ¬ Shifted "-" first second := by
  have complete : DropsNone products ↔
      ∀ value ∈ products.flatMap Product.getAttributeValues,
        value ∈ keepFirst AttributeValue.id (products.flatMap Product.getAttributeValues) := by
    simp only [DropsNone, getProductsOptions, List.mem_flatMap, forall_exists_index, and_imp]
    exact ⟨fun all value product member listed => all product member value listed,
      fun all product member value listed => all value product member listed⟩
  rw [complete, keepFirst_complete_iff]
  simp only [← attrValueCode_identifies_iff, mem_attributeValues_iff, forall_exists_index, and_imp]
  constructor
  · intro apart first firstMember second secondMember same
    exact attributeValue_injective
      (apart _ first firstMember rfl _ second secondMember rfl same)
  · rintro apart _ first firstMember rfl _ second secondMember rfl same
    rw [apart first firstMember second secondMember same]

/-! ## Lists of carriers -/

theorem mem_getDeliveryMethods {table : CaseTable} {orders : List Order}
    {carriers result : List (String × String)} (scanned : scannedCarriers orders = .ok carriers)
    (listed : getDeliveryMethods table orders = .ok result) {carrier : String × String}
    (member : carrier ∈ carriers) : carrierEntry table carrier ∈ result := by
  rw [getDeliveryMethods, scanned] at listed
  cases listed
  rw [List.mem_dedup]
  exact List.mem_append_left _ (List.mem_map_of_mem member)

/-- Carriers are merged exactly where two of them are not apart. -/
theorem mergesNone_iff (table : CaseTable) (orders : List Order) :
    MergesNone table orders ↔ ∀ carriers, scannedCarriers orders = .ok carriers →
      ∀ first ∈ carriers, ∀ second ∈ carriers, Apart table first second := by
  simp only [← deliveryCode_identifies_iff]
  constructor
  · intro merges carriers scanned first firstMember second secondMember same
    by_contra differ
    have listed : getDeliveryMethods table orders =
        .ok (carriers.map (carrierEntry table) ++ standardEntries).dedup := by
      rw [getDeliveryMethods, scanned]
      rfl
    obtain ⟨_, _, _, _, rfl, rfl, ids⟩ :=
      merges carriers _ scanned listed first firstMember second secondMember differ
    exact ids same
  · intro apart carriers result scanned listed first firstMember second secondMember differ
    refine ⟨_, mem_getDeliveryMethods scanned listed firstMember, _,
      mem_getDeliveryMethods scanned listed secondMember, rfl, rfl, fun same => differ ?_⟩
    exact apart carriers scanned first firstMember second secondMember same

/-- Codes identify attribute values exactly where the names are not shifted, and carriers exactly
where they are apart; the lists of values and of carriers are complete under the same conditions. -/
theorem external_codes_identify_iff (table : CaseTable)
    (option other carrier rival : String × String)
    (products : List Product) (orders : List Order) :
    ((formatAttrValueCode option.1 option.2 = formatAttrValueCode other.1 other.2 →
        option = other) ↔ ¬ Shifted "-" option other) ∧
      ((formatDeliveryCode table carrier.1 carrier.2 = formatDeliveryCode table rival.1 rival.2 →
        carrier = rival) ↔ Apart table carrier rival) ∧
      (DropsNone products ↔ ∀ first ∈ products.flatMap Product.formattedOptions,
        ∀ second ∈ products.flatMap Product.formattedOptions, ¬ Shifted "-" first second) ∧
      (MergesNone table orders ↔ ∀ carriers, scannedCarriers orders = .ok carriers →
        ∀ first ∈ carriers, ∀ second ∈ carriers, Apart table first second) :=
  ⟨attrValueCode_identifies_iff option other, deliveryCode_identifies_iff table carrier rival,
    dropsNone_iff products, mergesNone_iff table orders⟩

/-- Two products with distinct values of one code. -/
def sizeProducts : List Product :=
  [⟨[⟨"Size-EU", ["42", "43"]⟩]⟩, ⟨[⟨"Size", ["EU-42", "US-9"]⟩]⟩]

/-- The second of two values with one code is dropped, and two carriers have one code because only
letter case tells them apart. -/
theorem shifted_value_dropped :
    formatAttrValueCode "Size-EU" "42" = formatAttrValueCode "Size" "EU-42" ∧
      ¬ DropsNone sizeProducts ∧
      formatDeliveryCode .ascii "Ground" "UPS" = formatDeliveryCode .ascii "Ground" "ups" := by
  refine ⟨by decide +kernel, fun all => ?_, by decide +kernel⟩
  have listed := all ⟨[⟨"Size", ["EU-42", "US-9"]⟩]⟩ (by decide) (attributeValue ("Size", "EU-42"))
    (by decide +kernel)
  revert listed
  decide +kernel

end OdooConnector.Resource
