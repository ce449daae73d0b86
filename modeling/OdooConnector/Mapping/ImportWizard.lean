import OdooConnector.Mapping.MappingTable
import OdooConnector.Mapping.ProductExternal

/-!
# The import wizard for products

The wizard shows the external records of a product next to the ones that the store sends. On
approval records that are gone are deleted, and then each incoming line is written to the record
with its code or becomes a new record.
-/

namespace OdooConnector.Mapping

structure AttributeValueExternal where
  id : ℕ
  integrationId : ℕ
  code : String
  deriving DecidableEq

inductive ProductModel
  | productTemplate
  | productProduct
  deriving DecidableEq

structure ImportProductLine where
  originId : Option ℕ := none
  originParentId : Option ℕ := none
  name : Option String
  code : String
  reference : Option String
  barcode : Option String
  attributeList : List String := []
  modelName : ProductModel
  deriving DecidableEq

inductive WizardState
  | draft
  | checked
  | approved
  | done
  deriving DecidableEq

structure ImportProductWizard where
  state : WizardState
  integrationId : ℕ
  externalTemplate : ProductTemplateExternal
  internalLines : List ImportProductLine
  incomingLines : List ImportProductLine

/-- External templates and variants of all products, with their mappings. -/
structure ExternalTables where
  templates : ExternalTable ProductTemplateExternal
  variants : ExternalTable ProductProductExternal
  templateMappings : MappingTable
  variantMappings : MappingTable

inductive WizardError
  | notFound (code : String)
  | notChecked
  | conflicts (incoming internal : List ImportProductLine)
  | expectedSingleton (lines : List ImportProductLine)
  | noExternal (code : String)
  | external (error : ExternalError)
  | mapping (error : MappingError)
  deriving DecidableEq

/-! ## Incoming data -/

structure VariantData where
  id : String
  name : Option String
  externalReference : Option String
  barcode : Option String
  attributeValueIds : List String

structure TemplateData where
  id : String
  name : Option String
  externalReference : Option String
  barcode : Option String
  variants : List VariantData

/-- A variant of a full import, with the values that its mapped fields calculate. -/
structure RawVariantData where
  id : Option String
  reference : Option String
  barcode : Option String
  attributeValueIds : List String

structure RawProductData where
  reference : Option String
  barcode : Option String
  variants : List RawVariantData

inductive ExternalData
  | tryMap (data : TemplateData)
  | importProduct (data : RawProductData)

def buildProductExternalCode (templateId : String) (variantId : Option String) : String :=
  match variantId with
  | none => templateId ++ "-0"
  | some variantId => if variantId = "" then templateId ++ "-0" else templateId ++ "-" ++ variantId

/-- `_create_default_variant_line` -/
def ImportProductLine.defaultVariantLine (line : ImportProductLine) : ImportProductLine where
  name := line.name
  code := line.code ++ "-0"
  reference := line.reference
  barcode := line.barcode
  modelName := .productProduct

namespace ExternalData

variable (template : ProductTemplateExternal)

def templateLine : ExternalData → ImportProductLine
  | .tryMap data =>
      { name := data.name, code := data.id, reference := data.externalReference,
        barcode := data.barcode, modelName := .productTemplate }
  | .importProduct data =>
      { name := template.name, code := template.code, reference := data.reference,
        barcode := data.barcode, modelName := .productTemplate }

/-- The lines of the variants; a product without variants gets a default one. -/
def variantLines (data : ExternalData) : List ImportProductLine :=
  let lines : List ImportProductLine := match data with
    | .tryMap data => data.variants.map fun variant =>
        { name := variant.name, code := variant.id, reference := variant.externalReference,
          barcode := variant.barcode, attributeList := variant.attributeValueIds,
          modelName := .productProduct }
    | .importProduct data => data.variants.map fun variant =>
        { name := template.name, code := buildProductExternalCode template.code variant.id,
          reference := variant.reference, barcode := variant.barcode,
          attributeList := variant.attributeValueIds, modelName := .productProduct }
  if lines = [] then [(data.templateLine template).defaultVariantLine] else lines

end ExternalData

/-! ## Lines of existing records -/

def ProductTemplateExternal.createInternalImportLine (template : ProductTemplateExternal) :
    ImportProductLine where
  originId := some template.id
  name := template.name
  code := template.code
  reference := template.externalReference
  barcode := template.externalBarcode
  modelName := .productTemplate

def ProductProductExternal.createInternalImportLine (attributes : List AttributeValueExternal)
    (variant : ProductProductExternal) : ImportProductLine where
  originId := some variant.id
  originParentId := variant.externalProductTemplateId
  name := variant.name
  code := variant.code
  reference := variant.externalReference
  barcode := variant.externalBarcode
  attributeList := variant.externalAttributeValueIds.flatMap fun id =>
    (attributes.filter fun value => value.id = id).map AttributeValueExternal.code
  modelName := .productProduct

/-- `external_product_variant_ids` -/
def ExternalTables.variantsOf (tables : ExternalTables) (template : ℕ) :
    List ProductProductExternal :=
  tables.variants.records.filter fun variant => variant.externalProductTemplateId = some template

namespace ImportProductWizard

/-- `create_import_wizard`, with the lines of the existing records. -/
def create (tables : ExternalTables) (attributes : List AttributeValueExternal)
    (template : ProductTemplateExternal) : ImportProductWizard where
  state := .draft
  integrationId := template.integrationId
  externalTemplate := template
  internalLines := template.createInternalImportLine ::
    (tables.variantsOf template.id).map
      (ProductProductExternal.createInternalImportLine attributes)
  incomingLines := []

variable (wizard : ImportProductWizard)

/-- The data of the product, if the store has it. -/
def check (data : Option ExternalData) : Except WizardError ImportProductWizard :=
  match data with
  | none => .error (.notFound wizard.externalTemplate.code)
  | some data => .ok
      { wizard with
        state := .checked
        incomingLines :=
          data.templateLine wizard.externalTemplate :: data.variantLines wizard.externalTemplate }

def hasConflicts : Bool :=
  !(wizard.internalLines.map ImportProductLine.code).all
    (wizard.incomingLines.map ImportProductLine.code).contains

end ImportProductWizard

/-! ## Approval -/

namespace ExternalTables

variable (tables : ExternalTables)

def dropTemplate (id : ℕ) : ExternalTables where
  templates := tables.templates.unlink id
  variants := (tables.variantsOf id).foldl (fun table variant => table.unlink variant.id)
    tables.variants
  templateMappings := tables.templateMappings.unlinkExternal id
  variantMappings := (tables.variantsOf id).foldl
    (fun table variant => table.unlinkExternal variant.id) tables.variantMappings

def dropVariant (id : ℕ) : ExternalTables :=
  { tables with
    variants := tables.variants.unlink id
    variantMappings := tables.variantMappings.unlinkExternal id }

/-- The record of a line is deleted with what belongs to it. -/
def drop (line : ImportProductLine) : ExternalTables :=
  match line.originId, line.modelName with
  | none, _ => tables
  | some id, .productTemplate => tables.dropTemplate id
  | some id, .productProduct => tables.dropVariant id

end ExternalTables

/-- The attribute values with a code. -/
def attributesWithCode (attributes : List AttributeValueExternal) (integrationId : ℕ)
    (code : String) : List ℕ :=
  (attributes.filter fun value => value.code = code && value.integrationId = integrationId).map
    AttributeValueExternal.id

def parseAttributes (attributes : List AttributeValueExternal) (integrationId : ℕ)
    (codes : List String) : Except WizardError (List ℕ) :=
  codes.foldlM (fun ids code =>
    match attributesWithCode attributes integrationId code with
    | [] => .error (.noExternal code)
    | found => .ok (ids ∪ found)) []

namespace ImportProductLine

variable (line : ImportProductLine) (integrationId : ℕ)

/-- `_prepare_origin_vals` of a template, as a row without an id. -/
def templateVals : ProductTemplateExternal :=
  ⟨⟨⟨0, integrationId, line.code, line.reference⟩, line.name, line.barcode⟩⟩

/-- `_prepare_origin_vals` of a variant, as a row without an id. -/
def variantVals (attributeValueIds : List ℕ) : ProductProductExternal :=
  ⟨⟨⟨0, integrationId, line.code, line.reference⟩, line.name, line.barcode⟩, line.originParentId,
    attributeValueIds⟩

def createOrUpdateOrigin (attributes : List AttributeValueExternal) (tables : ExternalTables) :
    Except WizardError ExternalTables :=
  match line.modelName with
  | .productTemplate => do
      let saved ← (tables.templates.save line.originId (line.templateVals integrationId)).mapError
        WizardError.external
      let templateMappings ← (tables.templateMappings.createOrUpdateMapping integrationId saved.2
        none).mapError WizardError.mapping
      return { tables with templates := saved.1, templateMappings }
  | .productProduct => do
      let ids ← parseAttributes attributes integrationId line.attributeList
      let saved ← (tables.variants.save line.originId
        (line.variantVals integrationId ids)).mapError WizardError.external
      let variantMappings ← (tables.variantMappings.createOrUpdateMapping integrationId saved.2
        none).mapError WizardError.mapping
      return { tables with variants := saved.1, variantMappings }

end ImportProductLine

namespace ImportProductWizard

variable (wizard : ImportProductWizard) (attributes : List AttributeValueExternal)

/-- The internal lines that stand for the same record as an incoming line. -/
def internalRec (internals : List ImportProductLine) (line : ImportProductLine) :
    List ImportProductLine :=
  internals.filter fun internal => internal.code = line.code && internal.modelName = line.modelName

/-- One iteration over the incoming lines: the line itself is copied if there is no internal one. -/
def approveLine (internals : List ImportProductLine) (originParentId : Option ℕ)
    (tables : ExternalTables) (line : ImportProductLine) : Except WizardError ExternalTables :=
  match internalRec internals line with
  | [] =>
      { line with originId := none, originParentId }.createOrUpdateOrigin wizard.integrationId
        attributes tables
  | [internal] =>
      { internal with
        name := line.name
        reference := line.reference
        barcode := line.barcode
        attributeList := line.attributeList }.createOrUpdateOrigin wizard.integrationId attributes
          tables
  | lines => .error (.expectedSingleton lines)

/-- The internal lines whose code does not come in. -/
def goneLines : List ImportProductLine :=
  wizard.internalLines.filter fun line =>
    line.code ∉ wizard.incomingLines.map ImportProductLine.code

def keptLines : List ImportProductLine :=
  wizard.internalLines.filter fun line =>
    line.code ∈ wizard.incomingLines.map ImportProductLine.code

/-- Templates before variants. -/
def orderedLines : List ImportProductLine :=
  wizard.incomingLines.filter (fun line => line.modelName = .productTemplate) ++
    wizard.incomingLines.filter fun line => line.modelName = .productProduct

/-- The origin of the first line, which is the one of the template. -/
def originParentId : Option ℕ :=
  wizard.orderedLines.head?.bind fun line =>
    (internalRec wizard.keptLines line).head?.bind ImportProductLine.originId

def approve (tables : ExternalTables) (force : Bool) :
    Except WizardError (ExternalTables × ImportProductWizard) :=
  if !force && wizard.state ≠ .checked then .error .notChecked
  else if !force && wizard.hasConflicts then
    .error (.conflicts wizard.incomingLines wizard.internalLines)
  else do
    let tables ← wizard.orderedLines.foldlM
      (wizard.approveLine attributes wizard.keptLines wizard.originParentId)
      (wizard.goneLines.foldl ExternalTables.drop tables)
    return (tables, { wizard with state := .approved })

end ImportProductWizard

end OdooConnector.Mapping
