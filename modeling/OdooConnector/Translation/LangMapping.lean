import OdooConnector.Library.KeyOrder

/-!
# Imported translations

A value in several store languages is converted to one text for each Odoo language. The text of the
integration language is written first and those of the other languages follow, each under its own
language.
-/

namespace OdooConnector
namespace Translation

/-! ## Languages of the store -/

/-- `language_id` may be empty. -/
structure LangMapping where
  externalCode : String
  language : Option String

structure ExternalTranslation where
  id : String
  value : String

/-- What the store sends for a field. -/
inductive ExternalValue where
  | text (value : String)
  | single (translation : ExternalTranslation)
  | list (translations : List ExternalTranslation)

/-- What a field is converted to; the languages are those of Odoo, with `none` for a store language
whose mapping has none. -/
inductive OdooValue where
  | text (value : String)
  | noTranslations
  | languages (texts : Dict (Option String) String)

def ExternalValue.isTranslatedValue : ExternalValue → Bool
  | .text _ => false
  | .single _ => true
  | .list translations => !translations.isEmpty

def ExternalValue.translations : ExternalValue → List ExternalTranslation
  | .text _ => []
  | .single translation => [translation]
  | .list translations => translations

def languageCodes (mappings : List LangMapping) : Dict String (Option String) :=
  Dict.updateAll LangMapping.externalCode (fun mapping _ => mapping.language) ∅ mappings

/-- A translation in a language that has no mapping at all is left out. -/
def convertTranslation (codes : Dict String (Option String)) (result : Dict (Option String) String)
    (translation : ExternalTranslation) : Dict (Option String) String :=
  match codes.get? translation.id with
  | some language => result.update language fun _ => translation.value
  | none => result

def convertExternalTranslations (mappings : List LangMapping) : ExternalValue → OdooValue
  | .text value => .text value
  | .single translation => .languages (convertTranslation (languageCodes mappings) ∅ translation)
  | .list [] => .noTranslations
  | .list translations =>
      .languages (translations.foldl (convertTranslation (languageCodes mappings)) ∅)

/-! ## Writing a record -/

/-- The text of each field in each language. -/
abbrev Record := String → String → String

/-- What Odoo keeps of a value; `coerce` stands for its reading of a dictionary. -/
def OdooValue.stored (coerce : OdooValue → String) : OdooValue → String
  | .text value => value
  | value => coerce value

/-- A write without a language is one in English. -/
def Record.write (coerce : OdooValue → String) (record : Record) (language : Option String)
    (vals : Dict String OdooValue) : Record := fun field other =>
  if language.getD "en_US" = other then
    (vals.get? field).elim (record field other) (OdooValue.stored coerce)
  else record field other

/-- The languages of a translated value. -/
def OdooValue.translated? : OdooValue → Option (Dict (Option String) String)
  | .languages texts => if texts.entries.isEmpty then none else some texts
  | _ => none

def OdooValue.plain? (value : OdooValue) : Option OdooValue :=
  match value.translated? with
  | some _ => none
  | none => some value

structure SortedValues where
  nonTranslatableFields : Dict String OdooValue
  translations : Dict (Option String) (Dict String String)

section

variable (contextLang shopLang : String)

/-- The text in one language is the base value or is kept for later. -/
def SortedValues.put (field : String) (sorted : SortedValues) (entry : Option String × String) :
    SortedValues :=
  if some contextLang = entry.1 then
    { sorted with
      nonTranslatableFields :=
        sorted.nonTranslatableFields.update field fun _ => .text entry.2 }
  else
    { sorted with
      translations :=
        sorted.translations.update entry.1 fun data =>
          (data.getD ∅).update field fun _ => entry.2 }

/-- Without a base value the text in the language of the shop is taken. -/
def SortedValues.putShopDefault (field : String) (sorted : SortedValues) : SortedValues :=
  match sorted.nonTranslatableFields.get? field,
      sorted.translations.entry (some shopLang) field with
  | none, some text =>
      { sorted with
        nonTranslatableFields :=
          sorted.nonTranslatableFields.update field fun _ => .text text }
  | _, _ => sorted

def SortedValues.sortField (sorted : SortedValues)
    (field : String × Dict (Option String) String) : SortedValues :=
  (field.2.entries.foldl (SortedValues.put contextLang field.1) sorted).putShopDefault shopLang
    field.1

def sortValues (vals : Dict String OdooValue) : SortedValues :=
  (vals.filterMapValues OdooValue.translated?).entries.foldl
    (SortedValues.sortField contextLang shopLang) ⟨vals.filterMapValues OdooValue.plain?, ∅⟩

/-- An empty text is replaced by the base value; without one the field is skipped. -/
def langVal (nonTranslatableFields : Dict String OdooValue) (entry : String × String) :
    Option OdooValue :=
  if entry.2 = "" then nonTranslatableFields.get? entry.1 else some (.text entry.2)

def langVals (nonTranslatableFields : Dict String OdooValue) (data : Dict String String) :
    Dict String OdooValue :=
  Dict.writeAll Prod.fst (langVal nonTranslatableFields) ∅ data.entries

/-- `create` makes the record where there is none. -/
def createOrUpdateWithTranslations (coerce : OdooValue → String)
    (create : Dict String OdooValue → Record) (odooObject : Option Record)
    (vals : Dict String OdooValue) (translationsOnly : Bool) : Record :=
  let sorted := sortValues contextLang shopLang vals
  let base :=
    match odooObject with
    | some record =>
        if translationsOnly then record
        else record.write coerce (some contextLang) sorted.nonTranslatableFields
    | none => create sorted.nonTranslatableFields
  sorted.translations.entries.foldl
    (fun record entry =>
      record.write coerce entry.1 (langVals sorted.nonTranslatableFields entry.2)) base

end

end Translation
end OdooConnector
