import Mathlib.Data.Rat.Defs
import OdooConnector.Library.DateTime

/-!
# Job arguments in the database

The encoder writes the arguments of a job as JSON and marks recordsets, dates and elements with the
key `_type`. The decoder looks for that key in every object, the ones that were dictionaries
included.
-/

namespace OdooConnector.Queue

/-- A record of the database, or one that is not saved and may stand for one of the database. -/
inductive RecordId
  | saved (id : ℕ)
  | unsaved (source : Option ℕ)
deriving DecidableEq

/-- A value that Odoo gives to a key of the context that jobs keep. -/
inductive ContextValue
  | null
  | flag (value : Bool)
  | number (value : ℤ)
  | text (value : String)
  | numbers (values : List ℤ)

structure Environment where
  uid : ℕ
  su : Bool
  context : List (String × ContextValue)

structure Recordset (Model : Type) where
  model : Model
  ids : List RecordId
  env : Environment

/-- A value of an argument; a dictionary is its entries in the order of insertion. -/
inductive Argument (Model Element : Type)
  | null
  | boolean (value : Bool)
  | integer (value : ℤ)
  | float (value : ℚ)
  | text (value : String)
  | list (items : List (Argument Model Element))
  | dict (entries : List (String × Argument Model Element))
  | recordset (value : Recordset Model)
  | datetime (value : DateTime)
  | date (value : Date)
  | element (value : Element)

/-- What a JSON text says. -/
inductive Json
  | null
  | boolean (value : Bool)
  | integer (value : ℤ)
  | float (value : ℚ)
  | text (value : String)
  | array (items : List Json)
  | object (entries : List (String × Json))

/-- What the encoder and the decoder use of Odoo, `dateutil` and `lxml`. Nothing stands for an
error. -/
structure Framework (Model Element : Type) where
  /-- `_name` -/
  name : Model → String
  /-- `self.env(user=…, su=…)` -/
  call : Option (Argument Model Element) → Option (Argument Model Element) → Option Environment
  /-- `env[…]` -/
  model : Environment → Argument Model Element → Option (Recordset Model)
  withContext : Recordset Model → List (String × Argument Model Element) → Option (Recordset Model)
  browse : Recordset Model → Argument Model Element → Option (Recordset Model)
  /-- `dateutil.parser.parse` -/
  parse : String → Option DateTime
  tostring : Element → String
  fromstring : String → Option Element
  /-- `bool` -/
  truth : Element → Bool

variable {Model Element : Type}

/-- What these do with what the encoder writes. -/
structure Framework.Lawful (framework : Framework Model Element) : Prop where
  call_user : ∀ (uid : ℕ) (su : Bool), ∃ env,
    framework.call (some (.integer uid)) (some (.boolean su)) = some env ∧
      env.uid = uid ∧ env.su = su
  model_name : ∀ (env : Environment) (model : Model),
    framework.model env (.text (framework.name model)) = some ⟨model, [], env⟩
  withContext_env : ∀ (records : Recordset Model)
      (entries : List (String × Argument Model Element)),
    ∃ context, framework.withContext records entries =
      some { records with env := { records.env with context } }
  browse_ids : ∀ (records : Recordset Model) (ids : List ℕ),
    framework.browse records (.list (ids.map fun id : ℕ => .integer id)) =
      some { records with ids := ids.map .saved }
  parse_date : ∀ date : Date, framework.parse date.isoformat = some (.midnight date)
  parse_datetime : ∀ moment : DateTime, moment.WholeMinutes →
    framework.parse moment.isoformat = some moment

/-- The database id that `ids` gives of a record, if any. -/
def RecordId.source? : RecordId → Option ℕ
  | .saved id => some id
  | .unsaved source => source

/-- `_job_prepare_context_before_enqueue_keys` -/
def jobPrepareContextBeforeEnqueueKeys : List String :=
  ["tz", "lang", "allowed_company_ids", "force_company", "active_test"]

namespace Recordset

variable (records : Recordset Model)

/-- `ids` -/
def databaseIds : List ℕ := records.ids.filterMap RecordId.source?

def jobPrepareContextBeforeEnqueue : List (String × ContextValue) :=
  records.env.context.filter fun entry => entry.1 ∈ jobPrepareContextBeforeEnqueueKeys

end Recordset

namespace Argument

/-- The name, where the argument is a text. -/
def text? : Argument Model Element → Option String
  | .text value => some value
  | _ => none

def number? : Argument Model Element → Option ℚ
  | .boolean value => some (if value then 1 else 0)
  | .integer value => some value
  | .float value => some value
  | _ => none

end Argument

def ContextValue.encode : ContextValue → Json
  | .null => .null
  | .flag value => .boolean value
  | .number value => .integer value
  | .text value => .text value
  | .numbers values => .array (values.map .integer)

namespace Framework

variable (framework : Framework Model Element)

/-! ### Encoder -/

/-- What `JobEncoder.default` makes of a recordset. -/
def encodeRecordset (records : Recordset Model) : Json :=
  .object [
    ("_type", .text "odoo_recordset"),
    ("model", .text (framework.name records.model)),
    ("ids", .array (records.databaseIds.map fun id : ℕ => .integer id)),
    ("uid", .integer records.env.uid),
    ("su", .boolean records.env.su),
    ("context", .object
      (records.jobPrepareContextBeforeEnqueue.map fun entry => (entry.1, entry.2.encode)))]

def marked (type value : String) : Json := .object [("_type", .text type), ("value", .text value)]

mutual

/-- `json.dumps` with `JobEncoder` -/
def encode : Argument Model Element → Json
  | .null => .null
  | .boolean value => .boolean value
  | .integer value => .integer value
  | .float value => .float value
  | .text value => .text value
  | .list items => .array (encodeItems items)
  | .dict entries => .object (encodeEntries entries)
  | .recordset records => framework.encodeRecordset records
  | .datetime moment => marked "datetime_isoformat" moment.isoformat
  | .date date => marked "date_isoformat" date.isoformat
  | .element element => marked "etree_element" (framework.tostring element)

def encodeItems : List (Argument Model Element) → List Json
  | [] => []
  | item :: items => encode item :: encodeItems items

def encodeEntries : List (String × Argument Model Element) → List (String × Json)
  | [] => []
  | (key, value) :: entries => (key, encode value) :: encodeEntries entries

end

/-! ### Decoder -/

def truthy : Argument Model Element → Bool
  | .null => false
  | .boolean value => value
  | .integer value => value ≠ 0
  | .float value => value ≠ 0
  | .text value => value ≠ ""
  | .list items => !items.isEmpty
  | .dict entries => !entries.isEmpty
  | .recordset records => !records.ids.isEmpty
  | .datetime _ | .date _ => true
  | .element element => framework.truth element

/-- `model.with_context(**context)`, where there is a context. -/
def restoreContext (model : Recordset Model) :
    Option (Argument Model Element) → Option (Recordset Model)
  | none => some model
  | some context =>
      if framework.truthy context then
        match context with
        | .dict entries => framework.withContext model entries
        | _ => none
      else some model

def recompose (obj : List (String × Argument Model Element)) : Option (Recordset Model) := do
  let env ← framework.call (obj.lookup "uid") (obj.lookup "su")
  let model ← framework.model env (← obj.lookup "model")
  let model ← framework.restoreContext model (obj.lookup "context")
  framework.browse model (← obj.lookup "ids")

/-- `obj["value"]`, which the libraries take as a text. -/
def valueText (obj : List (String × Argument Model Element)) : Option String :=
  (obj.lookup "value").bind Argument.text?

def objectHook (obj : List (String × Argument Model Element)) : Option (Argument Model Element) :=
  match obj.lookup "_type" with
  | none => some (.dict obj)
  | some type =>
      if type.text? = some "odoo_recordset" then (framework.recompose obj).map .recordset
      else if type.text? = some "datetime_isoformat" then
        ((valueText obj).bind framework.parse).map .datetime
      else if type.text? = some "date_isoformat" then
        ((valueText obj).bind framework.parse).map fun moment => .date moment.time.date
      else if type.text? = some "etree_element" then
        ((valueText obj).bind framework.fromstring).map .element
      else some (.dict obj)

mutual

/-- `json.loads` with `JobDecoder` -/
def decode : Json → Option (Argument Model Element)
  | .null => some .null
  | .boolean value => some (.boolean value)
  | .integer value => some (.integer value)
  | .float value => some (.float value)
  | .text value => some (.text value)
  | .array items => (decodeItems items).map .list
  | .object entries => (decodeEntries entries).bind framework.objectHook

def decodeItems : List Json → Option (List (Argument Model Element))
  | [] => some []
  | item :: items => do
      let item ← decode item
      let items ← decodeItems items
      some (item :: items)

def decodeEntries : List (String × Json) → Option (List (String × Argument Model Element))
  | [] => some []
  | (key, value) :: entries => do
      let value ← decode value
      let entries ← decodeEntries entries
      some ((key, value) :: entries)

end

/-! ### Equality -/

/-- Recordsets are the same where they have the same model and the same records in any order. -/
def sameRecords (records others : Recordset Model) : Prop :=
  framework.name records.model = framework.name others.model ∧
    ∀ id, id ∈ records.ids ↔ id ∈ others.ids

mutual

/-- `==`; an element is the same as no other object. -/
def Same : Argument Model Element → Argument Model Element → Prop
  | .null, other => other = .null
  | .boolean value, other => other.number? = some (if value then 1 else 0)
  | .integer value, other => other.number? = some (value : ℚ)
  | .float value, other => other.number? = some value
  | .text value, other => other = .text value
  | .list items, other => ∃ others, other = .list others ∧ SameItems items others
  | .dict entries, other => ∃ others, other = .dict others ∧
      entries.length = others.length ∧ SameEntries entries others
  | .recordset records, other =>
      ∃ others, other = .recordset others ∧ framework.sameRecords records others
  | .datetime moment, other => ∃ second, other = .datetime second ∧ moment.Same second
  | .date date, other => other = .date date
  | .element _, _ => False

def SameItems : List (Argument Model Element) → List (Argument Model Element) → Prop
  | [], others => others = []
  | item :: items, others => ∃ other rest, others = other :: rest ∧
      Same item other ∧ SameItems items rest

/-- Each entry has one of its key and of the same value among the others. -/
def SameEntries : List (String × Argument Model Element) → List (String × Argument Model Element) →
    Prop
  | [], _ => True
  | (key, value) :: entries, others =>
      (∃ other, (key, other) ∈ others ∧ Same value other) ∧ SameEntries entries others

end

mutual

/-- The keys of each dictionary are different. -/
def Distinct : Argument Model Element → Prop
  | .list items => DistinctItems items
  | .dict entries => (entries.map Prod.fst).Nodup ∧ DistinctEntries entries
  | _ => True

def DistinctItems : List (Argument Model Element) → Prop
  | [] => True
  | item :: items => Distinct item ∧ DistinctItems items

def DistinctEntries : List (String × Argument Model Element) → Prop
  | [] => True
  | (_, value) :: entries => Distinct value ∧ DistinctEntries entries

end

/-! ### What the format keeps -/

def typeMarks : List String :=
  ["odoo_recordset", "datetime_isoformat", "date_isoformat", "etree_element"]

/-- The dictionary has an entry `_type` that the decoder takes for a mark of the encoder. -/
def Marked (entries : List (String × Argument Model Element)) : Prop :=
  ∃ type ∈ entries.lookup "_type", ∃ mark ∈ typeMarks, type.text? = some mark

/-- The offset is one of whole minutes, or `dateutil` reads the text nevertheless. -/
def Legible (moment : DateTime) : Prop :=
  moment.WholeMinutes ∨ ∃ other, framework.parse moment.isoformat = some other ∧ moment.Same other

mutual

/-- No dictionary is marked, all records are saved, and no datetime has an offset of a part of a
minute that is not read. -/
def Kept : Argument Model Element → Prop
  | .list items => KeptItems items
  | .dict entries => ¬ Marked entries ∧ KeptEntries entries
  | .recordset records => ∀ id ∈ records.ids, ∃ number, id = .saved number
  | .datetime moment => framework.Legible moment
  | .element _ => False
  | _ => True

def KeptItems : List (Argument Model Element) → Prop
  | [] => True
  | item :: items => Kept item ∧ KeptItems items

def KeptEntries : List (String × Argument Model Element) → Prop
  | [] => True
  | (_, value) :: entries => Kept value ∧ KeptEntries entries

end

end Framework

end OdooConnector.Queue
