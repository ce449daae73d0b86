import OdooConnector.Library.Dict

/-!
# Metafields of a created order

After the creation of an order each metafield mapping looks for the first metafield of the order
with its key and writes the value to its field. The namespace is not compared, so that a mapping may
read a metafield of another namespace.
-/

namespace OdooConnector.Order

/-- Metafield of an order in the store. -/
structure OrderMetafield where
  «namespace» : String
  key : String
  value : String
  deriving DecidableEq

/-- The metafields of an order; a namespace has each key once. -/
structure OrderMetafields where
  nodes : List OrderMetafield
  distinct : (nodes.map fun metafield => (metafield.«namespace», metafield.key)).Nodup

/-- Mapping of a metafield to a field of the order. -/
structure MetafieldMapping where
  metafieldNamespace : String
  metafieldKey : String
  metafieldType : String
  odooField : String
  deriving DecidableEq

inductive FieldValue
  | text (value : String)
  | boolean (value : Bool)
  deriving DecidableEq

/-- The settings of a store that `_post_create_order` reads. -/
structure MetafieldSettings where
  isIntegrationShopify : Bool
  orderMetafieldMappingIds : List MetafieldMapping

namespace MetafieldMapping

variable (mapping : MetafieldMapping) (metafields : OrderMetafields)

def convert (value : String) : FieldValue :=
  if mapping.metafieldType = "boolean" then .boolean (value = "true") else .text value

/-- The value of the first metafield with the key of the mapping. -/
def read : Option FieldValue :=
  (metafields.nodes.find? fun metafield => metafield.key = mapping.metafieldKey).map
    fun metafield => mapping.convert metafield.value

/-- The value of the metafield with the namespace and the key of the mapping. -/
def wanted : Option FieldValue :=
  (metafields.nodes.find? fun metafield => metafield.«namespace» = mapping.metafieldNamespace ∧
    metafield.key = mapping.metafieldKey).map fun metafield => mapping.convert metafield.value

end MetafieldMapping

/-- `_post_create_order`: the values written to the order. -/
def postCreateOrder (settings : MetafieldSettings) (metafields : OrderMetafields) :
    Dict String FieldValue :=
  if !settings.isIntegrationShopify || settings.orderMetafieldMappingIds.isEmpty ||
      metafields.nodes.isEmpty then ∅
  else Dict.writeAll MetafieldMapping.odooField (fun mapping => mapping.read metafields) ∅
    settings.orderMetafieldMappingIds

/-! ## What the mappings say -/

/-- Each mapped field is written with the value of the metafield that its mapping names, or not at
all where the order has no such metafield. -/
def MappedFieldsRight (mappings : List MetafieldMapping) (metafields : OrderMetafields)
    (written : Dict String FieldValue) : Prop :=
  ∀ mapping ∈ mappings, written.get? mapping.odooField = mapping.wanted metafields

/-- Mappings to one field want the same, and the last of them whose key occurs in the order reads
what it wants. -/
structure KeysSuffice (mappings : List MetafieldMapping) (metafields : OrderMetafields) : Prop where
  agree : ∀ mapping ∈ mappings, ∀ other ∈ mappings, mapping.odooField = other.odooField →
    mapping.wanted metafields = other.wanted metafields
  last : ∀ before mapping after, mappings = before ++ mapping :: after →
    mapping.read metafields ≠ none →
    (∀ later ∈ after, later.odooField = mapping.odooField → later.read metafields = none) →
    mapping.read metafields = mapping.wanted metafields

section Written

variable {mapping : MetafieldMapping} {metafields : OrderMetafields}
  {mappings : List MetafieldMapping}

/-- The metafield that a mapping names is one with its key. -/
theorem wanted_eq_none_of_read (unread : mapping.read metafields = none) :
    mapping.wanted metafields = none := by
  rw [MetafieldMapping.read, Option.map_eq_none_iff, List.find?_eq_none] at unread
  rw [MetafieldMapping.wanted, Option.map_eq_none_iff, List.find?_eq_none]
  intro metafield member both
  simp only [decide_eq_true_eq] at both
  exact unread metafield member (by simpa using both.2)

theorem read_of_isEmpty (empty : metafields.nodes.isEmpty = true) :
    mapping.read metafields = none := by
  rw [List.isEmpty_iff] at empty
  simp [MetafieldMapping.read, empty]

/-- The last mapping of a field whose key occurs in the order decides on its value. -/
theorem get?_postCreateOrder {settings : MetafieldSettings}
    (shopify : settings.isIntegrationShopify = true) (field : String) :
    (postCreateOrder settings metafields).get? field =
      Dict.lastValue MetafieldMapping.odooField (fun mapping => mapping.read metafields)
        settings.orderMetafieldMappingIds field := by
  rw [postCreateOrder, shopify]
  split
  · rename_i nothing
    rw [Dict.get?_empty, eq_comm, Dict.lastValue_eq_none_iff]
    intro mapping member _
    simp only [Bool.not_true, Bool.false_or, Bool.or_eq_true] at nothing
    rcases nothing with unmapped | empty
    · rw [List.isEmpty_iff.mp unmapped] at member
      cases member
    · exact read_of_isEmpty empty
  · rw [Dict.get?_writeAll, Dict.get?_empty, Option.or_none]

end Written

def settingsFor (mappings : List MetafieldMapping) : MetafieldSettings := ⟨true, mappings⟩

/-- A custom reference and one of another system. -/
def references : OrderMetafields :=
  ⟨[⟨"custom", "reference", "A-1"⟩, ⟨"erp", "reference", "4711"⟩, ⟨"custom", "gift", "true"⟩],
    by decide⟩

def customReference : MetafieldMapping :=
  ⟨"custom", "reference", "single_line_text_field", "client_order_ref"⟩

def erpReference : MetafieldMapping :=
  ⟨"erp", "reference", "single_line_text_field", "client_order_ref"⟩

def gift : MetafieldMapping := ⟨"custom", "gift", "boolean", "is_gift"⟩

end OdooConnector.Order
