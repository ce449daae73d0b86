import Mathlib.Data.List.MinMax
import OdooConnector.Queue.FailedJob

/-!
# The mapping layer

External records and their mappings to records of Odoo. A lookup that fails raises an exception with
a message; a record that is created or written asks for jobs to be requeued.
-/

namespace OdooConnector.Mapping

open Queue

structure Integration where
  id : ℕ
  name : String

/-- The names of a model of Odoo, and of its mapping and its external model. -/
structure ModelNames where
  odoo : String
  mapping : String
  external : String

structure IntegrationExternal where
  id : ℕ
  integrationId : ℕ
  code : String
  externalReference : Option String
deriving DecidableEq

structure IntegrationMapping where
  id : ℕ
  integrationId : ℕ
  internal : Option ℕ
  external : ℕ
deriving DecidableEq

structure MappingTables where
  mappings : List IntegrationMapping
  externals : List IntegrationExternal

/-- Constraints of the database. -/
structure MappingTables.Consistent (tables : MappingTables) : Prop where
  mappingIds : (tables.mappings.map IntegrationMapping.id).Nodup
  externalIds : (tables.externals.map IntegrationExternal.id).Nodup
  uniqCode : (tables.externals.map fun external => (external.integrationId, external.code)).Nodup
  uniqReference : (tables.externals.filterMap fun external =>
    external.externalReference.map fun reference => (external.integrationId, reference)).Nodup
  externalExists : ∀ mapping ∈ tables.mappings,
    mapping.external ∈ tables.externals.map IntegrationExternal.id

instance (tables : MappingTables) : Decidable tables.Consistent :=
  decidable_of_iff
    ((tables.mappings.map IntegrationMapping.id).Nodup ∧
      (tables.externals.map IntegrationExternal.id).Nodup ∧
      (tables.externals.map fun external => (external.integrationId, external.code)).Nodup ∧
      (tables.externals.filterMap fun external => external.externalReference.map fun reference =>
        (external.integrationId, reference)).Nodup ∧
      ∀ mapping ∈ tables.mappings, mapping.external ∈ tables.externals.map IntegrationExternal.id)
    ⟨fun ⟨mappingIds, externalIds, uniqCode, uniqReference, externalExists⟩ =>
      ⟨mappingIds, externalIds, uniqCode, uniqReference, externalExists⟩,
    fun consistent => ⟨consistent.mappingIds, consistent.externalIds, consistent.uniqCode,
      consistent.uniqReference, consistent.externalExists⟩⟩

/-- Tables that meet the constraints. -/
structure MappingLayer extends MappingTables where
  consistent : toMappingTables.Consistent

/-- An exception with its qualified class name and its message. -/
structure RaisedException where
  className : String
  message : String
deriving DecidableEq

def raise (exceptionName : ExceptionName) (message : String) : RaisedException :=
  ⟨"odoo.addons.integration.exceptions." ++ exceptionName.text, message⟩

def supportTeam : String :=
  "If the issue persists, please contact our support team: https://support.ventor.tech/"

def notMappedFromExternal (msg modelName code : String) (integration : Integration) :
    RaisedException :=
  raise .notMappedFromExternal <|
    if modelName ≠ "" ∧ code ≠ "" then
      integration.name ++ " → " ++ modelName ++ "(code=" ++ code ++ ", integration=" ++
        toString integration.id ++ ") \n" ++ msg
    else msg

def notMappedToExternal (msg modelName : String) (objId : ℕ) (integration : Integration) :
    RaisedException :=
  raise .notMappedToExternal <|
    if modelName ≠ "" ∧ objId ≠ 0 then
      "Export error for model \"" ++ modelName ++ "\" with ID \"" ++ toString objId ++ "\" in " ++
        integration.name ++ " integration (ID: " ++ toString integration.id ++ ").\n" ++
        "Details: " ++ msg ++ "\n\n" ++
        "Suggested action: The corresponding external record does not exist. This usually means " ++
        "the Odoo entity (e.g., product) was not exported to the e-commerce system.\n" ++
        "Please try the following steps:\n" ++
        "  1. Manually export the problematic entity from Odoo to the e-commerce system, or\n" ++
        "  2. If there is an export job in the queue, please wait until the export job is " ++
        "completed.\n\n" ++
        "If the issue persists or the export fails, please contact our support " ++
        "team: https://support.ventor.tech/"
    else
      "Export error: " ++ msg ++ "\n\n" ++
        "Suggested action: The corresponding external record does not exist. Please manually " ++
        "export the Odoo entity to the e-commerce system or wait for the export job to " ++
        "complete. " ++ supportTeam

def noExternal (msg modelName code : String) (integration : Integration) : RaisedException :=
  raise .noExternal <|
    if modelName ≠ "" ∧ code ≠ "" then
      "External record not found for model \"" ++ modelName ++ "\" with code \"" ++ code ++
        "\" in integration ID " ++ toString integration.id ++ ".\n" ++
        "Details: " ++ msg ++ "\n\n" ++
        "Suggested action: Please ensure the relevant objects are imported from the " ++
        "e-commerce system.\nSteps to resolve:\n" ++
        "  1. Check the e-commerce system to confirm that the record with code \"" ++ code ++
        "\" exists.\n" ++
        "  2. If the record exists, make sure it is correctly imported into Odoo via the import " ++
        "process.\n" ++
        "  3. If the record does not exist, ensure it is created in the e-commerce system and " ++
        "then import it into Odoo.\n\n" ++ supportTeam
    else
      "External record not found: " ++ msg ++ "\n\n" ++
        "Suggested action: Please ensure the relevant objects are imported from the " ++
        "e-commerce system.\nSteps to resolve:\n" ++
        "  1. Confirm the external record exists in the e-commerce system.\n" ++
        "  2. Import the record into Odoo using the import process.\n\n" ++ supportTeam

/-- What a job may look up. -/
inductive Lookup where
  | toOdoo (integration : Integration) (code : String)
  | toExternalRecord (integration : Integration) (odooId : ℕ)
  | getExternalByCode (integration : Integration) (code : String)

/-- The exception of a lookup that finds nothing. -/
def Lookup.exception (names : ModelNames) : Lookup → RaisedException
  | .toOdoo integration code =>
      notMappedFromExternal
        ("Unable to map the external code \"" ++ code ++ "\" to an Odoo record.") names.mapping code
        integration
  | .toExternalRecord integration odooId =>
      notMappedToExternal
        "Unable to find a corresponding external record for the given Odoo record." names.odoo
        odooId integration
  | .getExternalByCode integration code =>
      noExternal
        ("\nCannot find external record. Please ensure the relevant objects are imported from " ++
          "the E-Commerce System.") names.external code integration

/-- How a recordset is printed. -/
def printRecords (modelName : String) (ids : List ℕ) : String :=
  modelName ++ "(" ++ ", ".intercalate (ids.map toString) ++
    (if ids.length = 1 then ",)" else ")")

def multipleFound (names : ModelNames) (integration : Integration)
    (externals : List IntegrationExternal) : RaisedException where
  className := "odoo.exceptions.ValidationError"
  message :=
    "Multiple external records found that match the criteria for mapping. This may be due to:\n" ++
      "1. Duplicate records with the same \"Code\" field value.\n" ++
      "2. Duplicate records with the same \"Name\" field value.\n" ++
      "3. A possible bug in the connector.\n\n" ++
      "Model: " ++ names.mapping ++ "\n" ++
      "Record IDs: " ++ printRecords names.external (externals.map IntegrationExternal.id) ++
      "\n" ++
      "Integration: " ++ integration.name ++ "\n\n" ++
      "Please review the external records for duplicates or inconsistencies and try again. " ++
      "If the issue persists, contact the support team for further assistance: " ++
      "https://support.ventor.tech/"

def multipleExternalRecordsFound (msg modelName code : String) (integration : Integration)
    (duplicates : List IntegrationExternal) : RaisedException where
  className := "odoo.addons.integration.exceptions.MultipleExternalRecordsFound"
  message :=
    if modelName ≠ "" ∧ code ≠ "" then
      "Multiple external records found for model \"" ++ modelName ++ "\" with code \"" ++ code ++
        "\" in " ++ integration.name ++ " integration (ID: " ++ toString integration.id ++ ").\n" ++
        "Details: " ++ msg ++ "\n" ++
        "Duplicate record IDs: " ++
        ", ".intercalate (duplicates.map fun external => toString external.id) ++ "\n\n" ++
        "Suggested action: Please remove duplicates in the external records.\n" ++
        "Steps to resolve:\n" ++
        "  1. Go to the external records for \"" ++ modelName ++ "\" model and search for " ++
        "records with code \"" ++ code ++ "\".\n" ++
        "  2. Identify and remove the duplicated records to ensure only one unique record " ++
        "exists.\n" ++
        "  3. Once the duplicates are resolved, restart any failed jobs or retry " ++
        "the action you were attempting.\n\n" ++ supportTeam
    else
      "Multiple external records found: " ++ msg ++ "\n\n" ++
        "Suggested action: Please remove duplicates in the external records.\n" ++
        "Steps to resolve:\n" ++
        "  1. Search for the relevant records in the external system and resolve duplicates.\n" ++
        "  2. Once the duplicates are resolved, restart any failed jobs or retry " ++
        "the action you were attempting.\n\n" ++ supportTeam

namespace MappingLayer

variable (layer : MappingLayer)

def externalsByCode (integration : Integration) (code : String) : List IntegrationExternal :=
  layer.externals.filter fun external =>
    external.integrationId = integration.id && external.code = code

def searchMappingFromExternal (names : ModelNames) (integration : Integration)
    (externals : List IntegrationExternal) : Except RaisedException (List IntegrationMapping) :=
  match externals with
  | [] => .ok []
  | [external] => .ok (layer.mappings.filter fun mapping =>
      mapping.integrationId = integration.id && mapping.external = external.id)
  | externals => .error (multipleFound names integration externals)

def getMapping (names : ModelNames) (integration : Integration) (code : String) :
    Except RaisedException (List IntegrationMapping) :=
  if code = "" then .ok []
  else layer.searchMappingFromExternal names integration (layer.externalsByCode integration code)

/-- The ids of the records that a lookup finds. -/
def run (names : ModelNames) : Lookup → Except RaisedException (List ℕ)
  | .toOdoo integration code =>
      (layer.getMapping names integration code).bind fun mappings =>
        match mappings.filterMap IntegrationMapping.internal with
        | [] => .error ((Lookup.toOdoo integration code).exception names)
        | records => .ok records
  | .toExternalRecord integration odooId =>
      match (layer.mappings.filter fun mapping =>
        mapping.integrationId = integration.id && mapping.internal = some odooId).argmax
          IntegrationMapping.id with
      | none => .error ((Lookup.toExternalRecord integration odooId).exception names)
      | some mapping => .ok [mapping.external]
  | .getExternalByCode integration code =>
      match layer.externalsByCode integration code with
      | [] => .error ((Lookup.getExternalByCode integration code).exception names)
      | [external] => .ok [external.id]
      | externals =>
          .error (multipleExternalRecordsFound "Found several external records" names.external code
            integration externals)

def mappingRequests (names : ModelNames) (mapping : IntegrationMapping) : List RequeueRequest :=
  match mapping.internal,
    layer.externals.find? fun external => external.id = mapping.external with
  | some internal, some external =>
      [⟨.notMappedFromExternal, names.mapping, external.code⟩,
        ⟨.notMappedToExternal, names.mapping, toString internal⟩]
  | _, _ => []

end MappingLayer

def externalRequests (names : ModelNames) (external : IntegrationExternal) : List RequeueRequest :=
  if external.externalReference.any fun reference => reference ≠ "" then
    [⟨.noExternal, names.external, external.code⟩]
  else []

structure MappingVals where
  integrationId : Option ℕ
  internal : Option (Option ℕ)
  external : Option ℕ

structure ExternalVals where
  integrationId : Option ℕ
  code : Option String
  externalReference : Option (Option String)

def IntegrationMapping.assign (vals : MappingVals) (mapping : IntegrationMapping) :
    IntegrationMapping where
  id := mapping.id
  integrationId := vals.integrationId.getD mapping.integrationId
  internal := vals.internal.getD mapping.internal
  external := vals.external.getD mapping.external

def IntegrationExternal.assign (vals : ExternalVals) (external : IntegrationExternal) :
    IntegrationExternal where
  id := external.id
  integrationId := vals.integrationId.getD external.integrationId
  code := vals.code.getD external.code
  externalReference := vals.externalReference.getD external.externalReference

/-- A record is created or written. -/
inductive LayerWrite where
  | createMappings (records : List IntegrationMapping)
  | writeMappings (ids : List ℕ) (vals : MappingVals)
  | createExternals (records : List IntegrationExternal)
  | writeExternals (ids : List ℕ) (vals : ExternalVals)

namespace MappingTables

variable (tables : MappingTables)

def write : LayerWrite → MappingTables
  | .createMappings records => { tables with mappings := tables.mappings ++ records }
  | .writeMappings ids vals =>
      { tables with
        mappings := tables.mappings.map fun mapping =>
          if mapping.id ∈ ids then mapping.assign vals else mapping }
  | .createExternals records => { tables with externals := tables.externals ++ records }
  | .writeExternals ids vals =>
      { tables with
        externals := tables.externals.map fun external =>
          if external.id ∈ ids then external.assign vals else external }

end MappingTables

namespace MappingLayer

variable (layer : MappingLayer) (names : ModelNames)

/-- `requeue_jobs_if_needed` of the records that were created or written. -/
def requests : LayerWrite → List RequeueRequest
  | .createMappings records => records.flatMap (layer.mappingRequests names)
  | .writeMappings ids _ =>
      (layer.mappings.filter fun mapping => mapping.id ∈ ids).flatMap (layer.mappingRequests names)
  | .createExternals records => records.flatMap (externalRequests names)
  | .writeExternals ids _ =>
      (layer.externals.filter fun external => external.id ∈ ids).flatMap (externalRequests names)

/-- The layer after a write, with what it asks for; a write that breaks a constraint raises. -/
def apply (write : LayerWrite) : Option (MappingLayer × List RequeueRequest) :=
  if consistent : (layer.toMappingTables.write write).Consistent then
    let after : MappingLayer := ⟨layer.toMappingTables.write write, consistent⟩
    some (after, after.requests names write)
  else none

end MappingLayer

/-- Why a job fails. -/
inductive Failure where
  | lookup (failed : Lookup)
  | other (exception : RaisedException)

def Failure.exception (names : ModelNames) : Failure → RaisedException
  | .lookup failed => failed.exception names
  | .other exception => exception

/-- The printed traceback ends with the exception. -/
def printExc (traceback : String) (exception : RaisedException) : String :=
  traceback ++ exception.className ++
    (if exception.message = "" then "" else ": " ++ exception.message) ++ "\n"

end OdooConnector.Mapping
