import Mathlib
import OdooConnector.Library.Calendar
import OdooConnector.Library.Text

/-!
# Metafield values

A product field is exported to the store as the text of a metafield and imported from it. The two
ways are written apart from each other: a text that says that a boolean field is false is imported
as true, and the text of a datetime is none that the import reads.
-/

namespace OdooConnector
namespace Catalog

/-- The type of an Odoo field. -/
inductive FieldType
  | boolean | integer | float | char | text | date | datetime
deriving DecidableEq

/-- What a field of a type holds; nothing stands for the `False` of an empty field. -/
@[reducible] def FieldType.Value (F : Type) : FieldType → Type
  | boolean => Bool
  | integer => ℤ
  | float => F
  | char | text => Option String
  | date => Option Date
  | datetime => Option Timestamp

/-- A value at run time, over the floats. -/
inductive PyValue (F : Type)
  | none
  | bool (value : Bool)
  | int (value : ℤ)
  | float (value : F)
  | str (value : String)
  | date (value : Date)
  | datetime (value : Timestamp)

/-- What reading a field gives. -/
def FieldType.read {F : Type} : (type : FieldType) → type.Value F → PyValue F
  | boolean, value => .bool value
  | integer, value => .int value
  | float, value => .float value
  | char, value | text, value => value.elim (.bool false) .str
  | date, value => value.elim (.bool false) .date
  | datetime, value => value.elim (.bool false) .datetime

/-- An empty text counts as no text. -/
def FieldType.normal {F : Type} : (type : FieldType) → type.Value F → type.Value F
  | char, value | text, value => value.filter (· ≠ "")
  | boolean, value => value
  | integer, value => value
  | float, value => value
  | date, value => value
  | datetime, value => value

/-- The fields of Odoo: how a float is written as a text, and what a field holds after a value is
written to it, if it takes the value. -/
structure Orm (F : Type) where
  floatText : F → String
  write : (type : FieldType) → PyValue F → Option (type.Value F)
  floatText_ne_empty : ∀ value, floatText value ≠ ""
  write_boolean : ∀ value, write .boolean (.str value) = some (decide (value ≠ ""))
  write_integer : ∀ value : ℤ, write .integer (.str (toString value)) = some value
  write_float : ∀ value, write .float (.str (floatText value)) = some value
  write_char : ∀ value, write .char (.str value) = some (some value)
  write_text : ∀ value, write .text (.str value) = some (some value)
  write_date : ∀ value, write .date (.date value) = some (some value)
  write_datetime : ∀ value, write .datetime (.datetime value) = some (some value)
  write_date_empty : write .date (.str "") = some none
  write_datetime_empty : write .datetime (.str "") = some none
  write_false : ∀ type value, FieldType.read (F := F) type value = .bool false →
    write type (.bool false) = some value

/-- The type of a metafield in the store. -/
inductive MetafieldType
  | boolean | date | dateTime | numberInteger | numberDecimal | singleLineTextField
  | multiLineTextField | other
deriving DecidableEq

/-- The metafield type for an Odoo field. -/
def FieldType.metafieldType : FieldType → MetafieldType
  | boolean => .boolean
  | integer => .numberInteger
  | float => .numberDecimal
  | char => .singleLineTextField
  | text => .multiLineTextField
  | date => .date
  | datetime => .dateTime

/-- A product field that is synchronized as a metafield. -/
structure ProductEcommerceField where
  name : String
  technicalName : String
  odooName : String
  importFieldType : FieldType
  shopifyMetafieldType : MetafieldType

structure Metafield where
  «namespace» : String
  key : String
  value : String

section

variable {F : Type} (orm : Orm F)

/-- Coerce a value to a text for the store. Only a boolean field has a false value; any other
`False` is an empty one. -/
def stringifyMetafieldValue (odooFieldType : FieldType) : PyValue F → String
  | .none => ""
  | .bool value =>
      if odooFieldType = .boolean then if value then "true" else "false"
      else if value then "true" else ""
  | .int value => toString value
  | .float value => orm.floatText value
  | .str value => value
  | .date value => value.isoformat
  | .datetime value => value.text

namespace ProductEcommerceField

variable (field : ProductEcommerceField)

/-- Read the text of a metafield; a text that is no date of its type is an error. -/
def formatMetafieldInputType (value : String) : Except String (PyValue F) :=
  if value = "" then .ok (.str value)
  else match field.shopifyMetafieldType with
    | .date =>
        match Date.fromIsoformat value with
        | none => .error ("Date metafield \"" ++ field.name ++ "\" has incorrect date format: \"" ++
            value ++ "\" (expected format: \"YYYY-MM-DD\")")
        | some parsedDate =>
            match field.importFieldType with
            | .date => .ok (.date parsedDate)
            | .datetime => .ok (.datetime (.midnight parsedDate))
            | _ => .ok (.str value)
    | .dateTime =>
        match Timestamp.parseUtc value with
        | none => .error ("Datetime metafield \"" ++ field.name ++
            "\" has incorrect datetime format: \"" ++ value ++
            "\" (expected format: \"YYYY-MM-DDTHH:MM:SSZ\")")
        | some parsedDatetime =>
            match field.importFieldType with
            | .datetime => .ok (.datetime parsedDatetime)
            | .date => .ok (.date parsedDatetime.date)
            | _ => .ok (.str value)
    | _ => .ok (.str value)

/-- The namespace and the key, which end the name of the field in the store. -/
def namespaceKey : Option (String × String) :=
  match (split '.' field.technicalName).reverse with
  | key :: «namespace» :: _ => some («namespace», key)
  | _ => none

/-- The metafield of the field. -/
def find (metafields : List Metafield) (names : String × String) : Option Metafield :=
  metafields.find? fun metafield => metafield.key = names.2 ∧ metafield.namespace = names.1

/-- What is imported into the field; a metafield that is absent was emptied in the store. -/
def buildImportFieldDict (metafields : List Metafield) : Except String (String × PyValue F) :=
  match field.namespaceKey with
  | none => .error "not enough values to unpack (expected at least 2)"
  | some names =>
      match find metafields names with
      | none => .ok (field.odooName, .bool false)
      | some metafield =>
          (field.formatMetafieldInputType metafield.value).map fun value => (field.odooName, value)

/-- The store holds a text as the metafield of the field; it may drop an empty one. -/
def Held (metafields : List Metafield) (text : String) : Prop :=
  ∃ names, field.namespaceKey = some names ∧
    ((find metafields names).map Metafield.value = some text ∨
      (find metafields names = none ∧ text = ""))

end ProductEcommerceField

/-- The values that do not come back: false, and every datetime. -/
def FieldType.Lost : (type : FieldType) → type.Value F → Prop
  | boolean, value => value = false
  | datetime, value => value ≠ none
  | integer, _ | float, _ | char, _ | text, _ | date, _ => False

/-- What is imported, once written to the field, is the value that it held. -/
def Restored (type : FieldType) (value : type.Value F) (imported : Except String (PyValue F)) :
    Prop :=
  ∃ result written, imported = .ok result ∧ orm.write type result = some written ∧
    type.normal written = type.normal value

theorem restored_ok_iff (type : FieldType) (value : type.Value F) (result : PyValue F) :
    Restored orm type value (.ok result) ↔
      ∃ written, orm.write type result = some written ∧
        type.normal written = type.normal value := by
  constructor
  · intro ⟨_, written, same, writes, equal⟩
    cases same
    exact ⟨written, writes, equal⟩
  · intro ⟨written, writes, equal⟩
    exact ⟨result, written, rfl, writes, equal⟩

theorem not_restored_error (type : FieldType) (value : type.Value F) (message : String) :
    ¬ Restored orm type value (.error message) := by
  intro ⟨_, _, same, _⟩
  cases same

/-- The exported text of a value. -/
def exported (type : FieldType) (value : type.Value F) : String :=
  stringifyMetafieldValue orm type (type.read value)

variable (field : ProductEcommerceField)

/-- A text that is no date or datetime is imported as it is. -/
theorem formatMetafieldInputType_plain (noDate : field.shopifyMetafieldType ≠ .date)
    (noTime : field.shopifyMetafieldType ≠ .dateTime) (value : String) :
    field.formatMetafieldInputType (F := F) value = .ok (.str value) := by
  rw [ProductEcommerceField.formatMetafieldInputType]
  split
  · rfl
  · cases type : field.shopifyMetafieldType with
    | date => exact absurd type noDate
    | dateTime => exact absurd type noTime
    | boolean | numberInteger | numberDecimal | singleLineTextField | multiLineTextField
    | other => rfl

theorem formatMetafieldInputType_empty :
    field.formatMetafieldInputType (F := F) "" = .ok (.str "") := if_pos rfl

theorem formatMetafieldInputType_date (type : field.shopifyMetafieldType = .date)
    (imports : field.importFieldType = .date) (date : Date) :
    field.formatMetafieldInputType (F := F) date.isoformat = .ok (.date date) := by
  rw [ProductEcommerceField.formatMetafieldInputType, if_neg date.isoformat_ne_empty, type]
  dsimp only
  rw [Date.fromIsoformat_isoformat, imports]

theorem formatMetafieldInputType_datetime (type : field.shopifyMetafieldType = .dateTime)
    (time : Timestamp) :
    ∃ message, field.formatMetafieldInputType (F := F) time.text = .error message := by
  rw [ProductEcommerceField.formatMetafieldInputType, if_neg time.text_ne_empty, type]
  dsimp only
  rw [Timestamp.parseUtc_text]
  exact ⟨_, rfl⟩

/-- The text that is exported for a value, imported with the type that fits the field. -/
theorem restored_exported_iff {type : FieldType} (imports : field.importFieldType = type)
    (fits : field.shopifyMetafieldType = type.metafieldType) (value : type.Value F) :
    Restored orm type value (field.formatMetafieldInputType (exported orm type value)) ↔
      ¬ type.Lost value := by
  -- The other types are imported as the text says.
  have plain (noDate : type.metafieldType ≠ .date) (noTime : type.metafieldType ≠ .dateTime) :=
    formatMetafieldInputType_plain (F := F) field (fits ▸ noDate) (fits ▸ noTime)
  cases type with
  | boolean =>
      rw [plain (by decide) (by decide), restored_ok_iff, orm.write_boolean]
      cases value <;> simp [exported, FieldType.read, FieldType.normal, FieldType.Lost,
        stringifyMetafieldValue]
  | integer =>
      rw [plain (by decide) (by decide), restored_ok_iff]
      exact iff_of_true ⟨value, orm.write_integer value, rfl⟩ id
  | float =>
      rw [plain (by decide) (by decide), restored_ok_iff]
      exact iff_of_true ⟨value, orm.write_float value, rfl⟩ id
  | char =>
      rw [plain (by decide) (by decide), restored_ok_iff, orm.write_char]
      cases value <;> simp [exported, FieldType.read, FieldType.normal, FieldType.Lost,
        stringifyMetafieldValue]
  | text =>
      rw [plain (by decide) (by decide), restored_ok_iff, orm.write_text]
      cases value <;> simp [exported, FieldType.read, FieldType.normal, FieldType.Lost,
        stringifyMetafieldValue]
  | date =>
      cases value with
      | none =>
          have empty : exported orm .date none = "" := rfl
          rw [empty, formatMetafieldInputType_empty, restored_ok_iff, orm.write_date_empty]
          simp [FieldType.Lost]
      | some date =>
          have text : exported orm .date (some date) = date.isoformat := rfl
          rw [text, formatMetafieldInputType_date field fits imports, restored_ok_iff,
            orm.write_date]
          simp [FieldType.Lost]
  | datetime =>
      cases value with
      | none =>
          have empty : exported orm .datetime none = "" := rfl
          rw [empty, formatMetafieldInputType_empty, restored_ok_iff, orm.write_datetime_empty]
          simp [FieldType.Lost]
      | some time =>
          have text : exported orm .datetime (some time) = time.text := rfl
          obtain ⟨message, fails⟩ := formatMetafieldInputType_datetime (F := F) field fits time
          rw [text, fails]
          simp [not_restored_error, FieldType.Lost]

/-- An empty value, dropped by the store, is imported as an empty one. -/
theorem restored_dropped {type : FieldType} {value : type.Value F}
    (empty : exported orm type value = "") :
    Restored orm type value (.ok (.bool false)) ∧ ¬ type.Lost value := by
  have cleared (value' : type.Value F) (read : type.read value' = .bool false)
      (same : type.normal value' = type.normal value) :
      Restored orm type value (.ok (.bool false)) :=
    (restored_ok_iff orm type value _).mpr ⟨value', orm.write_false type value' read, same⟩
  cases type with
  | boolean => cases value <;> simp [exported, FieldType.read, stringifyMetafieldValue] at empty
  | integer =>
      have digits : Int.repr value = "" := empty
      cases value with
      | ofNat natural => exact absurd digits Nat.repr_ne_empty
      | negSucc natural => simp [Int.repr] at digits
  | float => exact absurd empty (orm.floatText_ne_empty value)
  | char =>
      refine ⟨cleared none rfl ?_, id⟩
      cases value with
      | none => rfl
      | some text =>
          have blank : text = "" := empty
          rw [blank]
          rfl
  | text =>
      refine ⟨cleared none rfl ?_, id⟩
      cases value with
      | none => rfl
      | some text =>
          have blank : text = "" := empty
          rw [blank]
          rfl
  | date =>
      cases value with
      | none => exact ⟨cleared none rfl rfl, id⟩
      | some date => exact absurd empty date.isoformat_ne_empty
  | datetime =>
      cases value with
      | none => exact ⟨cleared none rfl rfl, not_not_intro rfl⟩
      | some time => exact absurd empty time.text_ne_empty

/-- What is imported of a value that was exported to the store is the value again, an empty one as
an empty one, unless it is false in a boolean field or a datetime. -/
theorem metafield_value_restored_iff (value : field.importFieldType.Value F)
    (metafields : List Metafield)
    (fits : field.shopifyMetafieldType = field.importFieldType.metafieldType)
    (held : field.Held metafields (exported orm field.importFieldType value)) :
    Restored orm field.importFieldType value
        ((field.buildImportFieldDict metafields).map Prod.snd) ↔
      ¬ field.importFieldType.Lost value := by
  obtain ⟨names, named, present | ⟨absent, empty⟩⟩ := held
  · obtain ⟨metafield, found, text⟩ := Option.map_eq_some_iff.mp present
    have imported : (field.buildImportFieldDict (F := F) metafields).map Prod.snd =
        field.formatMetafieldInputType (exported orm field.importFieldType value) := by
      rw [ProductEcommerceField.buildImportFieldDict, named]
      dsimp only
      rw [found, ← text]
      dsimp only
      cases field.formatMetafieldInputType (F := F) metafield.value <;> rfl
    rw [imported]
    exact restored_exported_iff orm field rfl fits value
  · have imported : (field.buildImportFieldDict (F := F) metafields).map Prod.snd =
        .ok (.bool false) := by
      rw [ProductEcommerceField.buildImportFieldDict, named]
      dsimp only
      rw [absent]
      rfl
    have restored := restored_dropped orm empty
    rw [imported]
    exact iff_of_true restored.1 restored.2

end

/-! ## A number and a flag -/

/-- Fields over the whole floats. -/
def wholeOrm : Orm ℤ where
  floatText value := toString value ++ ".0"
  write
    | .boolean, .str value => some (decide (value ≠ ""))
    | .boolean, .bool value => some value
    | .integer, .str value => value.toInt?
    | .integer, .int value => some value
    | .float, .str value => (String.ofList value.toList.dropLast.dropLast).toInt?
    | .float, .float value => some value
    | .char, .str value | .text, .str value => some (some value)
    | .date, .date value => some (some value)
    | .datetime, .datetime value => some (some value)
    | .date, .str "" | .datetime, .str "" => some none
    | .char, .bool false | .text, .bool false => some none
    | .date, .bool false | .datetime, .bool false => some none
    | _, _ => none
  floatText_ne_empty value := by simp
  write_boolean _ := rfl
  write_integer := Int.toInt?_repr
  write_float value := by simp
  write_char _ := rfl
  write_text _ := rfl
  write_date _ := rfl
  write_datetime _ := rfl
  write_date_empty := rfl
  write_datetime_empty := rfl
  write_false type value empty := by
    cases type with
    | boolean => cases empty; rfl
    | integer | float => cases empty
    | char | text | date | datetime =>
        cases value with
        | none => rfl
        | some value => cases empty

def weightField : ProductEcommerceField :=
  ⟨"Weight", "custom.weight", "weight_class", .integer, .numberInteger⟩

def fragileField : ProductEcommerceField :=
  ⟨"Fragile", "custom.fragile", "fragile", .boolean, .boolean⟩

theorem zero_restored :
    Restored wholeOrm .integer 0
      ((weightField.buildImportFieldDict [⟨"custom", "weight", "0"⟩]).map Prod.snd) :=
  (metafield_value_restored_iff wholeOrm weightField (0 : ℤ) [⟨"custom", "weight", "0"⟩] rfl
    ⟨("custom", "weight"), rfl, .inl rfl⟩).mpr id

/-- A flag that is not set comes back as set. -/
theorem false_imported_as_true :
    ¬ Restored wholeOrm .boolean false
        ((fragileField.buildImportFieldDict [⟨"custom", "fragile",
          exported wholeOrm .boolean false⟩]).map Prod.snd) ∧
      (fragileField.buildImportFieldDict [⟨"custom", "fragile",
        exported wholeOrm .boolean false⟩]).toOption.bind
          (fun field => wholeOrm.write .boolean field.2) = some true := by
  refine ⟨?_, rfl⟩
  intro restored
  obtain ⟨_, _, same, writes, equal⟩ := restored
  cases same
  cases writes
  cases equal

end Catalog
end OdooConnector
