import OdooConnector.Library.Fold
import OdooConnector.Library.KeyOrder
import OdooConnector.Library.Text

/-!
# The factory of contacts

The data of customer, billing and shipping become proxies. A proxy is made only of data with a name
or an email; customer data are merged with billing data before, and billing data stand in for
customer data that are missing.
-/

namespace OdooConnector.Partner

/-- A value of the data; lists and dictionaries are known by their text. -/
inductive Value where
  | null
  | flag (value : Bool)
  | number (value : ℤ)
  | text (value : String)
  | collection (shown : String) (isEmpty : Bool)
deriving DecidableEq

namespace Value

def isTruthy : Value → Bool
  | .null => false
  | .flag value => value
  | .number value => value ≠ 0
  | .text value => value ≠ ""
  | .collection _ isEmpty => !isEmpty

/-- `str` -/
def toText : Value → String
  | .null => "None"
  | .flag true => "True"
  | .flag false => "False"
  | .number value => toString value
  | .text value => value
  | .collection shown _ => shown

/-- `value in ['', None, [], {}]` -/
def isSkipped : Value → Bool
  | .null => true
  | .text value => value = ""
  | .collection _ isEmpty => isEmpty
  | _ => false

end Value

/-- What a text field keeps; nothing is read as an empty text. -/
def Value.stored : Value → String
  | .null | .flag false => ""
  | value => value.toText

abbrev Data := Dict String Value

/-- `data.get(key, '')` -/
def Data.getOr (data : Data) (key : String) : Value := (data.get? key).getD (.text "")

def proxyFields : List String :=
  ["pricelist_id", "person_name", "email", "language", "person_id_number", "company_name",
    "company_reg_number", "street", "street2", "city", "country", "country_code", "state",
    "state_code", "phone", "phone_sanitized", "mobile", "other", "zip", "customer_locale"]

def fieldsToCopy : List String :=
  ["person_name", "company_name", "company_reg_number", "street", "street2", "country", "state",
    "city", "country_code", "state_code", "zip", "phone", "mobile"]

inductive ProxyType where
  | customer
  | shippingAddress
  | billingAddress
  | otherAddress
deriving DecidableEq

structure Proxy where
  type : ProxyType
  values : Data
  externalId : String

def Proxy.read (proxy : Proxy) (field : String) : String := (proxy.values.getOr field).stored

inductive FactoryError (ε : Type) where
  | attributeError (value : Value) (name : String)
  | apiImportError (message : String)
  | notMappedFromExternal (message modelName code : String)
  | wrongValue (field : String)
  | odoo (error : ε)

/-- A case table in which no character vanishes. -/
structure LetterTable extends CaseTable where
  lower_ne_nil : ∀ before char behind, lower before char behind ≠ []

/-- Functions of Odoo that prepare emails and phone numbers. -/
structure Preparation (ε : Type) where
  table : LetterTable
  emailNormalize : Value → Except (FactoryError ε) (Option String)
  phoneFormat : Value → Data → Except (FactoryError ε) Value

section

variable {ε : Type} (preparation : Preparation ε)

/-! ## Proxies -/

def prepareProxyValue : Value → Value
  | .text value => .text (strip value)
  | value => value

/-- `value.lower()`, which only texts have. -/
def lowerValue : Value → Except (FactoryError ε) String
  | .text value => .ok (preparation.table.strLower value)
  | value => .error (.attributeError value "lower")

def prepareEmail (email : Value) : Except (FactoryError ε) Value := do
  match (← preparation.emailNormalize email) with
  | some normalized =>
      if normalized = "" then return .text (← lowerValue preparation email)
      else return .text normalized
  | none => return .text (← lowerValue preparation email)

def rawProxyValues (data : Data) : Data :=
  Dict.writeAll Prod.fst
    (fun entry => if entry.1 ∉ proxyFields ∨ entry.2.isSkipped then none
      else some (prepareProxyValue entry.2)) ∅ data.entries

def normalizeEmail (vals : Data) : Except (FactoryError ε) Data :=
  if (vals.getOr "email").isTruthy then do
    let email ← prepareEmail preparation (vals.getOr "email")
    return vals.update "email" fun _ => email
  else return vals

def sanitizePhone (data vals : Data) : Except (FactoryError ε) Data :=
  if (vals.getOr "phone").isTruthy then do
    let formattedPhone ← preparation.phoneFormat (vals.getOr "phone") data
    if formattedPhone.isTruthy then return vals.update "phone_sanitized" fun _ => formattedPhone
    else return vals
  else return vals

def prepareProxyValues (data : Data) : Except (FactoryError ε) Data := do
  let vals ← normalizeEmail preparation (rawProxyValues data)
  sanitizePhone preparation data vals

def validateRequiredValues (vals : Data) : Bool :=
  (vals.getOr "person_name").isTruthy || (vals.getOr "email").isTruthy

/-- Only customers have an external id. -/
def externalId (type : ProxyType) (data : Data) : Except (FactoryError ε) String :=
  if type = .customer then
    match data.getOr "id" with
    | .text id => .ok (strip id)
    | value => .error (.attributeError value "strip")
  else .ok ""

def createProxy (type : ProxyType) (data : Data) : Except (FactoryError ε) (Option Proxy) := do
  let vals ← prepareProxyValues preparation data
  if vals.entries.isEmpty || !validateRequiredValues vals then return none
  return some ⟨type, vals, ← externalId type data⟩

/-! ## The factory -/

/-- Data that are not empty. -/
def filled (data : Option Data) : Option Data :=
  data.filter fun data => !data.entries.isEmpty

/-- Data without any value are no data. -/
def withoutEmpty (data : Option Data) : Option Data :=
  data.filter fun data => data.entries.isEmpty || data.values.any Value.isTruthy

/-- Same email and same name, whatever their case. -/
def samePerson (customer billing : Data) : Bool :=
  preparation.table.strLower (customer.getOr "email").toText =
      preparation.table.strLower (billing.getOr "email").toText &&
    preparation.table.strLower (customer.getOr "person_name").toText =
      preparation.table.strLower (billing.getOr "person_name").toText

/-- The fields with their values in the billing data. -/
def copyFields (billing : Data) (fields : List String) (customer : Data) : Data :=
  Dict.updateAll id (fun field _ => billing.getOr field) customer fields

/-- The company of the billing data is taken, and the whole address if the person is the same. -/
def mergeBilling (customer billing : Data) : Data :=
  let customer := copyFields billing ["person_id_number"] customer
  let customer :=
    if (billing.getOr "company_name").isTruthy then
      copyFields billing ["company_name", "company_reg_number", "country", "country_code"] customer
    else customer
  if samePerson preparation customer billing then copyFields billing fieldsToCopy customer
  else customer

def updateCustomerData (customer billing shipping : Option Data) : Option Data :=
  match filled customer, filled billing with
  | none, some billing => some billing
  | none, none => shipping
  | some customer, some billing => some (mergeBilling preparation customer billing)
  | some customer, none => some customer

structure Factory where
  isInitialImport : Bool
  customerProxy : Option Proxy
  billingProxy : Option Proxy
  shippingProxy : Option Proxy

/-- A proxy is made only of data that are not empty. -/
def createProxyFromData (type : ProxyType) (data : Option Data) :
    Except (FactoryError ε) (Option Proxy) :=
  match filled data with
  | some data => createProxy preparation type data
  | none => .ok none

/-- Billing data, or the shipping data in their place. -/
def billingOrShipping (billing shipping : Option Data) : Option Data :=
  if (filled (withoutEmpty billing)).isNone && (filled (withoutEmpty shipping)).isSome then
    withoutEmpty shipping
  else withoutEmpty billing

def createFactory (customer billing shipping : Option Data) (isInitialImport : Bool) :
    Except (FactoryError ε) Factory := do
  let shippingData := withoutEmpty shipping
  let billingData := billingOrShipping billing shipping
  let customerData := updateCustomerData preparation customer billingData shippingData
  let customerProxy ←
    createProxyFromData preparation .customer ((filled customerData).or billingData)
  let billingProxy ← createProxyFromData preparation .billingAddress billingData
  let shippingProxy ← createProxyFromData preparation .shippingAddress shippingData
  return ⟨isInitialImport, customerProxy, billingProxy, shippingProxy⟩

/-! ## Which proxies are made -/

/-- What is left of the value is not empty. -/
def Value.isNamed (value : Value) : Bool := (prepareProxyValue value).isTruthy

/-- The data have a name or an email. -/
def Data.isNamed (data : Data) : Bool :=
  (data.getOr "person_name").isNamed || (data.getOr "email").isNamed

theorem isTruthy_rawProxyValues (data : Data) {field : String} (listed : field ∈ proxyFields) :
    ((rawProxyValues data).getOr field).isTruthy = (data.getOr field).isNamed := by
  rw [Data.getOr, Data.getOr, rawProxyValues, Dict.get?_writeAll, Dict.get?_empty, Option.or_none,
    Dict.lastValue_fst]
  cases data.get? field with
  | none => rfl
  | some value =>
      rw [Option.bind_some, Option.getD_some]
      cases skipped : value.isSkipped with
      | false => simp [listed, Value.isNamed]
      | true =>
          rw [if_pos (Or.inr rfl)]
          cases value <;> simp_all [Value.isSkipped, Value.isNamed, prepareProxyValue,
            Value.isTruthy, strip]

theorem strLower_ne_empty (table : LetterTable) {text : String} (nonempty : text ≠ "") :
    table.strLower text ≠ "" := by
  intro empty
  have letters : table.lowerFrom [] text.toList = [] := by
    rw [← String.ofList_eq_empty_iff]
    exact empty
  cases chars : text.toList with
  | nil => exact nonempty (String.toList_eq_nil_iff.mp chars)
  | cons char rest =>
      rw [chars, CaseTable.lowerFrom] at letters
      exact table.lower_ne_nil [] char rest (List.append_eq_nil_iff.mp letters).1

/-- An email that is not empty stays so. -/
theorem isTruthy_prepareEmail {email prepared : Value} (truthy : email.isTruthy = true)
    (ran : prepareEmail preparation email = .ok prepared) : prepared.isTruthy = true := by
  have lowered {text : String} (ran : lowerValue preparation email = .ok text) :
      (Value.text text).isTruthy = true := by
    cases email with
    | text value =>
        cases ran
        exact decide_eq_true (strLower_ne_empty preparation.table (of_decide_eq_true truthy))
    | _ => cases ran
  rw [prepareEmail, bind_eq_ok_iff] at ran
  obtain ⟨normalized, _, ran⟩ := ran
  cases normalized with
  | none =>
      obtain ⟨text, lower, ran⟩ := bind_eq_ok_iff.mp ran
      cases ran
      exact lowered lower
  | some normalized =>
      dsimp only at ran
      by_cases empty : normalized = ""
      · rw [if_pos empty] at ran
        obtain ⟨text, lower, ran⟩ := bind_eq_ok_iff.mp ran
        cases ran
        exact lowered lower
      · rw [if_neg empty] at ran
        cases ran
        exact decide_eq_true empty

theorem Data.getOr_update (data : Data) (field other : String) (value : Value) :
    Data.getOr (data.update field fun _ => value) other =
      if other = field then value else data.getOr other := by
  rw [Data.getOr, Dict.get?_update]
  split <;> rfl

theorem normalizeEmail_ok {vals after : Data} (ran : normalizeEmail preparation vals = .ok after) :
    after.getOr "person_name" = vals.getOr "person_name" ∧
      (after.getOr "email").isTruthy = (vals.getOr "email").isTruthy := by
  rw [normalizeEmail] at ran
  split at ran
  · rename_i truthy
    obtain ⟨email, prepared, ran⟩ := bind_eq_ok_iff.mp ran
    cases ran
    rw [Data.getOr_update, Data.getOr_update, if_neg (by decide), if_pos rfl, truthy]
    exact ⟨rfl, isTruthy_prepareEmail preparation truthy prepared⟩
  · cases ran
    exact ⟨rfl, rfl⟩

theorem sanitizePhone_ok {data vals after : Data}
    (ran : sanitizePhone preparation data vals = .ok after) {field : String}
    (other : field ≠ "phone_sanitized") : after.getOr field = vals.getOr field := by
  rw [sanitizePhone] at ran
  split at ran
  · obtain ⟨formatted, _, ran⟩ := bind_eq_ok_iff.mp ran
    split at ran
    · cases ran
      rw [Data.getOr_update, if_neg other]
    · cases ran
      rfl
  · cases ran
    rfl

theorem validateRequiredValues_eq {data vals : Data}
    (ran : prepareProxyValues preparation data = .ok vals) :
    validateRequiredValues vals = data.isNamed := by
  obtain ⟨mid, email, phone⟩ := bind_eq_ok_iff.mp ran
  have normalized := normalizeEmail_ok preparation email
  rw [validateRequiredValues, sanitizePhone_ok preparation phone (by decide),
    sanitizePhone_ok preparation phone (by decide), normalized.1, normalized.2,
    isTruthy_rawProxyValues data (by decide), isTruthy_rawProxyValues data (by decide),
    Data.isNamed]

theorem getOr_of_isEmpty {data : Data} (empty : data.entries.isEmpty = true) (field : String) :
    data.getOr field = .text "" := by
  rw [Data.getOr, Dict.get?, List.isEmpty_iff.mp empty]
  rfl

/-- A proxy is made of the data that have a name or an email. -/
theorem createProxy_isSome {type : ProxyType} {data : Data} {proxy : Option Proxy}
    (ran : createProxy preparation type data = .ok proxy) : proxy.isSome = data.isNamed := by
  obtain ⟨vals, prepared, ran⟩ := bind_eq_ok_iff.mp ran
  rw [← validateRequiredValues_eq preparation prepared]
  cases required : validateRequiredValues vals with
  | false =>
      rw [required, Bool.not_false, Bool.or_true, if_pos rfl] at ran
      cases ran
      rfl
  | true =>
      have nonempty : vals.entries.isEmpty = false := by
        by_contra empty
        rw [Bool.not_eq_false] at empty
        rw [validateRequiredValues, getOr_of_isEmpty empty, getOr_of_isEmpty empty] at required
        cases required
      rw [required, nonempty, Bool.not_true, Bool.or_false, if_neg Bool.false_ne_true] at ran
      obtain ⟨id, _, ran⟩ := bind_eq_ok_iff.mp ran
      cases ran
      rfl

theorem any_filled (data : Option Data) :
    (filled data).any Data.isNamed = data.any Data.isNamed := by
  cases data with
  | none => rfl
  | some data =>
      cases empty : data.entries.isEmpty with
      | false => simp [filled, empty]
      | true => simp [filled, empty, Data.isNamed, getOr_of_isEmpty empty, Value.isNamed,
          prepareProxyValue, strip, Value.isTruthy]

theorem createProxyFromData_isSome {type : ProxyType} {data : Option Data} {proxy : Option Proxy}
    (ran : createProxyFromData preparation type data = .ok proxy) :
    proxy.isSome = data.any Data.isNamed := by
  rw [← any_filled]
  rw [createProxyFromData] at ran
  split at ran
  · rename_i data found
    rw [found]
    exact createProxy_isSome preparation ran
  · rename_i absent
    cases ran
    rw [absent]
    rfl

theorem getOr_copyFields (billing customer : Data) (fields : List String) (field : String) :
    (copyFields billing fields customer).getOr field =
      if field ∈ fields then billing.getOr field else customer.getOr field := by
  rw [Data.getOr, copyFields]
  split
  · rename_i listed
    have written := @Dict.get?_updateAll_of_agree _ _ _ _ id billing.getOr customer fields field _
      ⟨field, listed, rfl⟩ fun other _ same => congrArg billing.getOr same
    rw [written]
    rfl
  · rename_i unlisted
    have absent : ∀ item ∈ fields, id item ≠ field := by
      intro item member same
      exact unlisted (same ▸ member)
    rw [Dict.get?_updateAll_of_none absent, Data.getOr]

/-- The person is judged by name and email only. -/
theorem samePerson_copyFields {fields : List String} (name : "person_name" ∉ fields)
    (email : "email" ∉ fields) (customer billing : Data) :
    samePerson preparation (copyFields billing fields customer) billing =
      samePerson preparation customer billing := by
  rw [samePerson, getOr_copyFields, getOr_copyFields, if_neg name, if_neg email, samePerson]

/-- The same person takes the name of the billing data. -/
theorem isNamed_mergeBilling (customer billing : Data) :
    (mergeBilling preparation customer billing).isNamed =
      if samePerson preparation customer billing then
        (billing.getOr "person_name").isNamed || (customer.getOr "email").isNamed
      else customer.isNamed := by
  rw [mergeBilling]
  by_cases company : (billing.getOr "company_name").isTruthy
  · rw [if_pos company, samePerson_copyFields preparation (by decide) (by decide),
      samePerson_copyFields preparation (by decide) (by decide)]
    split <;> simp [Data.isNamed, getOr_copyFields, fieldsToCopy]
  · rw [if_neg company, samePerson_copyFields preparation (by decide) (by decide)]
    split <;> simp [Data.isNamed, getOr_copyFields, fieldsToCopy]

/-- The data that the customer is made of have a name or an email. -/
def customerNamed (customer billing : Option Data) : Bool :=
  match filled customer, filled billing with
  | some customer, some billing =>
      if samePerson preparation customer billing then
        (billing.getOr "person_name").isNamed || (customer.getOr "email").isNamed
      else customer.isNamed
  | some customer, none => customer.isNamed
  | none, _ => billing.any Data.isNamed

theorem mem_keys_copyFields {billing customer : Data} {fields : List String} {field : String}
    (present : field ∈ customer.keys) : field ∈ (copyFields billing fields customer).keys :=
  (Dict.mem_keys_updateAll id (fun field _ => billing.getOr field) customer fields field).mpr
    (Or.inl present)

/-- Merged data are not empty. -/
theorem filled_mergeBilling (customer billing : Data) :
    filled (some (mergeBilling preparation customer billing)) =
      some (mergeBilling preparation customer billing) := by
  have first : "person_id_number" ∈ (copyFields billing ["person_id_number"] customer).keys :=
    (Dict.mem_keys_updateAll id (fun field _ => billing.getOr field) customer _ _).mpr
      (Or.inr ⟨_, List.mem_singleton_self _, rfl⟩)
  have present : "person_id_number" ∈ (mergeBilling preparation customer billing).keys := by
    rw [mergeBilling]
    split <;> split <;> first
      | exact mem_keys_copyFields (mem_keys_copyFields first)
      | exact mem_keys_copyFields first
      | exact first
  have nonempty : (mergeBilling preparation customer billing).entries.isEmpty = false := by
    by_contra empty
    rw [Bool.not_eq_false, List.isEmpty_iff] at empty
    rw [Dict.keys, empty] at present
    cases present
  rw [filled, Option.filter_some, nonempty]
  rfl

theorem filled_filled (data : Option Data) : filled (filled data) = filled data := by
  cases data with
  | none => rfl
  | some data => cases empty : data.entries.isEmpty <;> simp [filled]

/-- Shipping data that are not empty are billing data where there are none. -/
theorem filled_billingOrShipping {billing shipping : Option Data}
    (empty : filled (billingOrShipping billing shipping) = none) :
    filled (withoutEmpty shipping) = none := by
  rw [billingOrShipping] at empty
  split at empty
  · exact empty
  · rename_i present
    simpa [empty] using present

theorem any_customer (customer billing shipping : Option Data) :
    ((filled (updateCustomerData preparation customer (billingOrShipping billing shipping)
        (withoutEmpty shipping))).or (billingOrShipping billing shipping)).any Data.isNamed =
      customerNamed preparation customer (billingOrShipping billing shipping) := by
  have again := filled_filled customer
  have billingAgain := filled_filled (billingOrShipping billing shipping)
  rw [updateCustomerData, customerNamed]
  cases own : filled customer with
  | none =>
      cases other : filled (billingOrShipping billing shipping) with
      | none => simp only [filled_billingOrShipping other, Option.none_or]
      | some data =>
          rw [other] at billingAgain
          simp only [billingAgain, Option.some_or]
          rw [← any_filled (billingOrShipping billing shipping), other]
  | some data =>
      rw [own] at again
      cases other : filled (billingOrShipping billing shipping) with
      | none => simp only [again, Option.some_or, Option.any_some]
      | some billingData =>
          simp only [filled_mergeBilling, Option.some_or, Option.any_some]
          exact isNamed_mergeBilling preparation data billingData

theorem isTruthy_of_isNamed {value : Value} (named : value.isNamed = true) :
    value.isTruthy = true := by
  cases value with
  | text value =>
      by_contra empty
      have blank : value = "" := by simpa [Value.isTruthy] using empty
      rw [blank] at named
      simp [Value.isNamed, prepareProxyValue, strip, Value.isTruthy] at named
  | _ => exact named

/-- Data that have a name or an email have a value. -/
theorem any_isTruthy {data : Data} {field : String} (named : (data.getOr field).isNamed = true) :
    data.values.any Value.isTruthy = true := by
  rw [Data.getOr] at named
  cases stored : data.get? field with
  | none =>
      rw [stored] at named
      simp [Value.isNamed, prepareProxyValue, strip, Value.isTruthy] at named
  | some value =>
      rw [stored] at named
      have member := (Dict.get?_eq_some_iff data field value).mp stored
      exact List.any_eq_true.mpr
        ⟨value, List.mem_map.mpr ⟨(field, value), member, rfl⟩, isTruthy_of_isNamed named⟩

theorem any_withoutEmpty (data : Option Data) :
    (withoutEmpty data).any Data.isNamed = data.any Data.isNamed := by
  cases data with
  | none => rfl
  | some data =>
      cases named : data.isNamed with
      | false => cases kept : data.entries.isEmpty || data.values.any Value.isTruthy <;>
          simp [withoutEmpty, kept, named]
      | true =>
          have filledIn : data.values.any Value.isTruthy = true :=
            (Bool.or_eq_true _ _).mp named |>.elim any_isTruthy any_isTruthy
          simp [withoutEmpty, filledIn]

/-- Which proxies a factory has. -/
theorem createFactory_ok {customer billing shipping : Option Data} {isInitialImport : Bool}
    {factory : Factory}
    (ran : createFactory preparation customer billing shipping isInitialImport = .ok factory) :
    factory.isInitialImport = isInitialImport ∧
      factory.customerProxy.isSome =
        customerNamed preparation customer (billingOrShipping billing shipping) ∧
      factory.billingProxy.isSome = (billingOrShipping billing shipping).any Data.isNamed ∧
      factory.shippingProxy.isSome = shipping.any Data.isNamed := by
  obtain ⟨customerProxy, customerMade, ran⟩ := bind_eq_ok_iff.mp ran
  obtain ⟨billingProxy, billingMade, ran⟩ := bind_eq_ok_iff.mp ran
  obtain ⟨shippingProxy, shippingMade, ran⟩ := bind_eq_ok_iff.mp ran
  cases ran
  rw [createProxyFromData_isSome preparation customerMade,
    createProxyFromData_isSome preparation billingMade,
    createProxyFromData_isSome preparation shippingMade, any_customer, any_withoutEmpty]
  exact ⟨rfl, rfl, rfl, rfl⟩

end

end OdooConnector.Partner
