import OdooConnector.Library.Step
import OdooConnector.Partner.CustomerImport
import OdooConnector.Partner.PartnerFactory

/-!
# Customer and addresses of an order

The factory looks up or creates the customer and, through the customer, the billing and the shipping
address. A default customer takes the place of a customer that is not known, but an address without
a known customer is an empty record.
-/

namespace OdooConnector.Partner

/-- What is read of a contact. -/
structure PartnerFields (π : Type) where
  active : Bool
  isCompany : Bool
  companyId : Option ℕ
  parentId : Option π
  type : String

structure Integration (π : Type) where
  name : String
  companyId : ℕ
  defaultCustomer : Option π
  useManualCustomerMapping : Bool
  skipIndividualContacts : Bool

/-- What the database is asked for and told: `π` are contacts, `ν` values of a contact, `θ` search
domains. -/
structure Env (σ ε π ν θ : Type) where
  partner : π → Step σ (FactoryError ε) (PartnerFields π)
  mappedPartners : String → Step σ (FactoryError ε) (List π)
  notifyAboutMissedCustomerMapping : Proxy → Step σ (FactoryError ε) Unit
  openMapping : Proxy → Step σ (FactoryError ε) Unit
  search : θ → Step σ (FactoryError ε) (List π)
  companyVals : Proxy → Step σ (FactoryError ε) ν
  companySearchDomain : Proxy → ν → Step σ (FactoryError ε) θ
  createCompany : Proxy → ν → Step σ (FactoryError ε) π
  writeAddressFieldsIfEmpty : Proxy → π → Step σ (FactoryError ε) Unit
  partnerVals : Proxy → Option π → Step σ (FactoryError ε) ν
  partnerSearchDomain : Proxy → ν → Step σ (FactoryError ε) θ
  createPartner : Proxy → ν → Step σ (FactoryError ε) π
  linkPartner : Proxy → π → Step σ (FactoryError ε) Unit
  postUpdatePartner : Proxy → List π → Step σ (FactoryError ε) Unit
  addressVals : Proxy → π → Step σ (FactoryError ε) ν
  hasAddressChanges : π → ν → Step σ (FactoryError ε) Bool
  addressSearchDomain : ν → θ
  createAddress : ν → Step σ (FactoryError ε) π

/-- The database, the contact of the customer proxy and the company of each proxy. -/
structure Session (σ π : Type) where
  database : σ
  customerId : Option π
  companyPartnerId : ProxyType → Option π

section

variable {σ ε π ν θ : Type} (env : Env σ ε π ν θ) (integration : Integration π)

/-- A step on the database. -/
def onDatabase {α : Type} (step : Step σ (FactoryError ε) α) :
    Step (Session σ π) (FactoryError ε) α :=
  Step.zoom Session.database (fun database session => { session with database := database }) step

def setCustomer (partner : Option π) : Step (Session σ π) (FactoryError ε) Unit :=
  Step.changes fun session => { session with customerId := partner }

def setCompany (type : ProxyType) (company : π) : Step (Session σ π) (FactoryError ε) Unit :=
  Step.changes fun session =>
    { session with
      companyPartnerId := Function.update session.companyPartnerId type (some company) }

def notMapped (code : String) : FactoryError ε :=
  .notMappedFromExternal
    ("Unable to map the external code \"" ++ code ++ "\" to an Odoo record.")
    "integration.res.partner.mapping" code

/-- The contacts of the mapping, none without an external id. -/
def mappedCustomer (proxy : Proxy) : Step (Session σ π) (FactoryError ε) (List π) :=
  if proxy.externalId = "" then pure [] else onDatabase (env.mappedPartners proxy.externalId)

/-- The proxy keeps the contact it is mapped to; its field refuses several. -/
def getCustomer (proxy : Proxy) (raiseError : Bool) :
    Step (Session σ π) (FactoryError ε) (List π) := do
  match (← mappedCustomer env proxy) with
  | [] =>
      if raiseError then throw (notMapped proxy.externalId)
      else
        setCustomer none
        return []
  | [partner] =>
      setCustomer (some partner)
      return [partner]
  | _ => throw (.wrongValue "integration.res.partner.proxy.partner_id")

/-- The first contact that is found, or a new one. -/
def headOr (found : List π) (create : Step (Session σ π) (FactoryError ε) π) :
    Step (Session σ π) (FactoryError ε) π :=
  match found with
  | first :: _ => pure first
  | [] => create

def getOrCreateCompanyContact (proxy : Proxy) : Step (Session σ π) (FactoryError ε) π := do
  match (← Step.reads fun session => session.companyPartnerId proxy.type) with
  | some company => return company
  | none =>
      let vals ← onDatabase (env.companyVals proxy)
      let domain ← onDatabase (env.companySearchDomain proxy vals)
      let found ← onDatabase (env.search domain)
      let company ← headOr found (onDatabase (env.createCompany proxy vals))
      onDatabase (env.writeAddressFieldsIfEmpty proxy company)
      setCompany proxy.type company
      return company

/-- The checks of `_is_mapping_compatible`, in their order. -/
def compatible [DecidableEq π] (partner : π) (fields : PartnerFields π) (company : Option π)
    (parentFields : Option (PartnerFields π)) : Bool :=
  let ownCompany (companyId : Option ℕ) : Bool :=
    companyId = none || companyId = some integration.companyId
  let skip := integration.skipIndividualContacts
  if !ownCompany fields.companyId then false
  else if fields.isCompany && !skip then false
  else if !fields.isCompany && skip then false
  else if company.isSome && !skip && !fields.isCompany && fields.parentId.isNone then false
  else if fields.parentId.isSome && company.isSome && fields.parentId ≠ company then false
  else if fields.parentId.isSome && company.isSome &&
      !(parentFields.map PartnerFields.companyId).all ownCompany then false
  else if skip && fields.isCompany && company.isSome && some partner ≠ company then false
  else true

def isMappingCompatible [DecidableEq π] (proxy : Proxy) (partner : π) :
    Step (Session σ π) (FactoryError ε) Bool := do
  let fields ← onDatabase (env.partner partner)
  if !fields.active then return false
  let company ←
    if proxy.read "company_name" = "" then pure none
    else some <$> getOrCreateCompanyContact env proxy
  let parentFields ←
    match fields.parentId, company with
    | some parent, some _ => some <$> onDatabase (env.partner parent)
    | _, _ => pure none
  return compatible integration partner fields company parentFields

def getCompatibleMappedPartner [DecidableEq π] (proxy : Proxy) :
    Step (Session σ π) (FactoryError ε) (Option π) := do
  if proxy.externalId = "" then return none
  match (← getCustomer env proxy false) with
  | partner :: _ =>
      if (← isMappingCompatible env integration proxy partner) then return some partner
      else return none
  | [] => return none

def configurePartner (proxy : Proxy) (partner : π) : Step (Session σ π) (FactoryError ε) Unit := do
  setCustomer (some partner)
  onDatabase (env.linkPartner proxy partner)

def searchOrCreatePartner (proxy : Proxy) : Step (Session σ π) (FactoryError ε) π := do
  let company ←
    if proxy.read "company_name" = "" then pure none
    else some <$> getOrCreateCompanyContact env proxy
  let vals ← onDatabase (env.partnerVals proxy company)
  let domain ← onDatabase (env.partnerSearchDomain proxy vals)
  match (← onDatabase (env.search domain)) with
  | partner :: _ =>
      onDatabase (env.writeAddressFieldsIfEmpty proxy partner)
      return partner
  | [] => onDatabase (env.createPartner proxy vals)

/-- The mapped contact, the company in its place or a contact that is searched for. -/
def partnerOf (proxy : Proxy) (mapped : Option π) : Step (Session σ π) (FactoryError ε) π :=
  match mapped with
  | some partner => pure partner
  | none =>
      if integration.skipIndividualContacts && proxy.read "company_name" ≠ "" then
        getOrCreateCompanyContact env proxy
      else searchOrCreatePartner env proxy

def getOrCreatePartner [DecidableEq π] (proxy : Proxy) :
    Step (Session σ π) (FactoryError ε) π := do
  let mapped ← getCompatibleMappedPartner env integration proxy
  let partner ← partnerOf env integration proxy mapped
  configurePartner env proxy partner
  return partner

/-! ## Addresses -/

def addressType : ProxyType → String
  | .billingAddress => "invoice"
  | .shippingAddress => "delivery"
  | _ => "other"

def prepareAddressVals (proxy : Proxy) (customer : π) : Step (Session σ π) (FactoryError ε) ν := do
  let parent ←
    if proxy.read "company_name" ≠ "" && !integration.useManualCustomerMapping then
      getOrCreateCompanyContact env proxy
    else pure customer
  onDatabase (env.addressVals proxy parent)

def filterType (type : String) : List π → Step (Session σ π) (FactoryError ε) (List π)
  | [] => return []
  | address :: addresses => do
      let fields ← onDatabase (env.partner address)
      let others ← filterType type addresses
      return if fields.type = type then address :: others else others

/-- The contacts of the type of the address, or all where there are none. -/
def ofType (type : String) (addresses : List π) : Step (Session σ π) (FactoryError ε) (List π) := do
  let filtered ← filterType env type addresses
  return if filtered.isEmpty then addresses else filtered

/-- The contact that an address is compared with. -/
def comparedContact (proxy : Proxy) (customer : π) : Step (Session σ π) (FactoryError ε) π :=
  if !integration.skipIndividualContacts || proxy.read "company_name" = "" then pure customer
  else getOrCreateCompanyContact env proxy

def searchOrCreateAddress (proxy : Proxy) (vals : ν) :
    Step (Session σ π) (FactoryError ε) (List π) := do
  match (← onDatabase (env.search (env.addressSearchDomain vals))) with
  | [] => return [← onDatabase (env.createAddress vals)]
  | addresses => return (← ofType env (addressType proxy.type) addresses).take 1

/-- Without a customer in the factory there is no address. -/
def getOrCreateAddress (proxy : Proxy) : Step (Session σ π) (FactoryError ε) (List π) := do
  match (← Step.reads Session.customerId) with
  | none => return []
  | some customer =>
      let vals ← prepareAddressVals env integration proxy customer
      let contact ← comparedContact env integration proxy customer
      if (← onDatabase (env.hasAddressChanges contact vals)) then
        searchOrCreateAddress env proxy vals
      else return [contact]

/-! ## The factory -/

def missingExternalId : FactoryError ε :=
  .apiImportError ("Technical error: Customer external ID is missing during the initial import " ++
    "process. This may indicate improper usage of the method or a bug.\n" ++
    "Please contact support team for further investigation: https://support.ventor.tech")

def missingCustomer (name : String) : FactoryError ε :=
  .apiImportError ("Missing required customer or address information for the sales order.\n" ++
    "In Odoo, sales orders cannot be created without Customer, Invoice Address, " ++
    "and Delivery Address.\n\n" ++
    "To resolve this issue, please enable the \"Default Customer\" setting in " ++
    "the \"Sales Order Defaults\" tab:\n" ++
    "1. Go to \"E-Commerce Integrations → " ++ name ++ "\".\n" ++
    "2. Navigate to the \"Sales Orders\" tab.\n" ++
    "3. Select the \"Default Customer\" setting.\n\n" ++
    "Once this is done, requeue the job, and the selected default partner will be used " ++
    "to create the order.")

def manuallyUnmapped (name notice menu : String) (proxy : Proxy) : FactoryError ε :=
  .notMappedFromExternal
    ("Manual customer mapping is enabled for the integration \"" ++ name ++ "\".\n" ++
      "The partner \"" ++ proxy.read "person_name" ++ "\" with external ID \"" ++
      proxy.externalId ++ "\" has not been mapped yet" ++ notice ++ ".\n\n" ++ menu)
    "integration.res.partner.mapping" proxy.externalId

def validateForInitialImport (factory : Factory) : Step (Session σ π) (FactoryError ε) Unit := do
  match factory.customerProxy with
  | none => throw missingExternalId
  | some proxy =>
      if proxy.externalId = "" then throw missingExternalId
      let partners ← onDatabase (env.mappedPartners proxy.externalId)
      if integration.useManualCustomerMapping && partners.isEmpty then
        onDatabase (env.openMapping proxy)
        throw (manuallyUnmapped integration.name ""
          "Please go to the \"Mappings → Contacts\" menu and manually map the partner." proxy)

def validateForSalesOrders (factory : Factory) : Step (Session σ π) (FactoryError ε) Unit := do
  match factory.customerProxy with
  | none =>
      if integration.defaultCustomer.isNone then throw (missingCustomer integration.name)
  | some proxy =>
      if integration.useManualCustomerMapping then
        if (← getCustomer env proxy false).isEmpty && proxy.externalId ≠ "" then
          onDatabase (env.notifyAboutMissedCustomerMapping proxy)
          onDatabase (env.openMapping proxy)
          throw (manuallyUnmapped integration.name "; notification emails have been sent"
            "Please map partners in the \"Mappings → Contacts\" menu." proxy)

def validateData (factory : Factory) : Step (Session σ π) (FactoryError ε) Unit :=
  if factory.isInitialImport then validateForInitialImport env integration factory
  else validateForSalesOrders env integration factory

def mappedOrCreatedCustomer [DecidableEq π] (proxy : Proxy) :
    Step (Session σ π) (FactoryError ε) (List π) :=
  if integration.useManualCustomerMapping then getCustomer env proxy true
  else do return [← getOrCreatePartner env integration proxy]

/-- The customer of a customer proxy, or the default customer. -/
def getFactoryCustomer [DecidableEq π] (proxy : Option Proxy) :
    Step (Session σ π) (FactoryError ε) (List π) := do
  match proxy with
  | none => return integration.defaultCustomer.toList
  | some proxy =>
      let customer ← mappedOrCreatedCustomer env integration proxy
      onDatabase (env.postUpdatePartner proxy customer)
      return customer

def addressOr (proxy : Option Proxy) (customer : List π) :
    Step (Session σ π) (FactoryError ε) (List π) :=
  match proxy with
  | some proxy => getOrCreateAddress env integration proxy
  | none => pure customer

def getPartnerAndAddresses [DecidableEq π] (factory : Factory) :
    Step (Session σ π) (FactoryError ε) (FactoryAnswer (List π)) := do
  validateData env integration factory
  let customer ← getFactoryCustomer env integration factory.customerProxy
  let billing ← addressOr env integration factory.billingProxy customer
  let shipping ← addressOr env integration factory.shippingProxy customer
  return ⟨customer, billing, shipping⟩

/-! ## One customer and its addresses -/

section

variable (c : Option π)

/-- The contact of the customer proxy. -/
def HasCustomer (session : Session σ π) : Prop := session.customerId = c

open Step

theorem onDatabase_preserves {α : Type} (step : Step σ (FactoryError ε) α) :
    Preserves (onDatabase (π := π) step) (HasCustomer c) :=
  Preserves.zoom fun _ _ same => same

theorem setCompany_preserves (type : ProxyType) (company : π) :
    Preserves (setCompany (σ := σ) (ε := ε) type company) (HasCustomer c) := by
  apply Preserves.changes
  intro session same
  exact same

theorem headOr_preserves (found : List π) {create : Step (Session σ π) (FactoryError ε) π}
    (created : Preserves create (HasCustomer c)) :
    Preserves (headOr found create) (HasCustomer c) := by
  cases found with
  | nil => exact created
  | cons first _ => exact Preserves.pure first

theorem getOrCreateCompanyContact_preserves (proxy : Proxy) :
    Preserves (getOrCreateCompanyContact env proxy) (HasCustomer c) := by
  apply Preserves.bind (Preserves.reads _)
  intro known
  cases known with
  | some company => exact Preserves.pure company
  | none =>
      apply Preserves.bind (onDatabase_preserves c _)
      intro vals
      apply Preserves.bind (onDatabase_preserves c _)
      intro domain
      apply Preserves.bind (onDatabase_preserves c _)
      intro found
      apply Preserves.bind (headOr_preserves c found (onDatabase_preserves c _))
      intro company
      apply Preserves.bind (onDatabase_preserves c _)
      intro _
      apply Preserves.bind (setCompany_preserves c proxy.type company)
      intro _
      exact Preserves.pure company

theorem prepareAddressVals_preserves (proxy : Proxy) (customer : π) :
    Preserves (prepareAddressVals env integration proxy customer) (HasCustomer c) := by
  rw [prepareAddressVals]
  split
  · apply Preserves.bind (getOrCreateCompanyContact_preserves env c proxy)
    intro parent
    exact onDatabase_preserves c _
  · apply Preserves.bind (Preserves.pure customer)
    intro parent
    exact onDatabase_preserves c _

theorem comparedContact_preserves (proxy : Proxy) (customer : π) :
    Preserves (comparedContact env integration proxy customer) (HasCustomer c) := by
  rw [comparedContact]
  split
  · exact Preserves.pure customer
  · exact getOrCreateCompanyContact_preserves env c proxy

theorem filterType_preserves (type : String) (addresses : List π) :
    Preserves (filterType env type addresses) (HasCustomer c) := by
  induction addresses with
  | nil => exact Preserves.pure []
  | cons address addresses induction =>
      apply Preserves.bind (onDatabase_preserves c _)
      intro fields
      apply Preserves.bind induction
      intro others
      exact Preserves.pure _

/-- A contact was found or made: one. -/
def IsSingle (partners : List π) (session : Session σ π) : Prop :=
  partners.length = 1 ∧ HasCustomer c session

theorem ofType_nonempty (type : String) {addresses : List π} (nonempty : addresses ≠ []) :
    Ensures (ofType env type addresses) (HasCustomer c)
      fun filtered session => filtered ≠ [] ∧ HasCustomer c session := by
  refine Ensures.bind (filterType_preserves env c type addresses) ?_
  intro filtered
  refine Ensures.pure fun _ same => ⟨?_, same⟩
  cases filtered with
  | nil => exact nonempty
  | cons first rest => exact List.cons_ne_nil first rest

theorem searchOrCreateAddress_single (proxy : Proxy) (vals : ν) :
    Ensures (searchOrCreateAddress env proxy vals) (HasCustomer c) (IsSingle c) := by
  refine Ensures.bind (onDatabase_preserves c _) ?_
  intro found
  cases found with
  | nil =>
      refine Ensures.bind (onDatabase_preserves c _) ?_
      intro address
      exact Ensures.pure fun _ same => ⟨rfl, same⟩
  | cons first rest =>
      refine Ensures.bind (ofType_nonempty env c _ (List.cons_ne_nil first rest)) ?_
      intro addresses
      refine Ensures.pure fun _ holds => ⟨?_, holds.2⟩
      rw [List.length_take, Nat.min_eq_left (List.length_pos_of_ne_nil holds.1)]

/-- An address that is looked up for a known customer is one contact. -/
theorem getOrCreateAddress_single (proxy : Proxy) (customer : π) :
    Ensures (getOrCreateAddress env integration proxy) (HasCustomer (some customer))
      (IsSingle (some customer)) := by
  have known : Ensures (Step.reads (ε := FactoryError ε) (Session.customerId (σ := σ)))
      (HasCustomer (some customer))
      fun found session => found = some customer ∧ HasCustomer (some customer) session :=
    Ensures.reads fun _ same => ⟨same, same⟩
  refine Ensures.bind known ?_
  intro found
  refine Ensures.assuming ?_
  rintro rfl
  refine Ensures.bind (prepareAddressVals_preserves env integration _ proxy customer) ?_
  intro vals
  refine Ensures.bind (comparedContact_preserves env integration _ proxy customer) ?_
  intro contact
  refine Ensures.bind (onDatabase_preserves _ _) ?_
  intro changed
  split
  · exact searchOrCreateAddress_single env _ proxy vals
  · exact Ensures.pure fun _ same => ⟨rfl, same⟩

/-- The customer is one contact, and the proxy has it. -/
def IsCustomer (partners : List π) (session : Session σ π) : Prop :=
  ∃ partner, partners = [partner] ∧ HasCustomer (some partner) session

theorem setCustomer_sets (partner : Option π) {before : Session σ π → Prop} :
    Ensures (setCustomer (ε := ε) partner) before fun _ => HasCustomer partner :=
  Ensures.changes fun _ _ => rfl

theorem getCustomer_single (proxy : Proxy) :
    Ensures (getCustomer env proxy true) (fun _ => True) IsCustomer := by
  refine Ensures.bind Ensures.trivial ?_
  intro partners
  cases partners with
  | nil => exact Ensures.raise
  | cons partner others =>
      cases others with
      | nil =>
          refine Ensures.bind (setCustomer_sets (some partner)) ?_
          intro _
          exact Ensures.pure fun _ same => ⟨partner, rfl, same⟩
      | cons _ _ => exact Ensures.raise

theorem getOrCreatePartner_single [DecidableEq π] (proxy : Proxy) :
    Ensures (getOrCreatePartner env integration proxy) (fun _ => True)
      fun partner => HasCustomer (some partner) := by
  refine Ensures.bind Ensures.trivial ?_
  intro mapped
  refine Ensures.bind Ensures.trivial ?_
  intro partner
  have configured : Ensures (configurePartner env proxy partner) (fun _ => True)
      fun _ => HasCustomer (some partner) := by
    refine Ensures.bind (setCustomer_sets (some partner)) ?_
    intro _
    exact onDatabase_preserves _ _
  refine Ensures.bind configured ?_
  intro _
  exact Ensures.pure fun _ same => same

theorem mappedOrCreatedCustomer_single [DecidableEq π] (proxy : Proxy) :
    Ensures (mappedOrCreatedCustomer env integration proxy) (fun _ => True) IsCustomer := by
  rw [mappedOrCreatedCustomer]
  split
  · exact getCustomer_single env proxy
  · refine Ensures.bind (getOrCreatePartner_single env integration proxy) ?_
    intro partner
    exact Ensures.pure fun _ same => ⟨partner, rfl, same⟩

/-- The customer of a factory with a customer proxy is one contact. -/
theorem getFactoryCustomer_single [DecidableEq π] (proxy : Proxy) :
    Ensures (getFactoryCustomer env integration (some proxy)) (fun _ => True) IsCustomer := by
  refine Ensures.bind (mappedOrCreatedCustomer_single env integration proxy) ?_
  intro customer
  have kept : Preserves (onDatabase (π := π) (env.postUpdatePartner proxy customer))
      (IsCustomer customer) := by
    apply Preserves.zoom
    intro _ _ same
    exact same
  refine Ensures.bind kept ?_
  intro _
  exact Ensures.pure fun _ same => same

/-- The customer itself where there is no address. -/
theorem addressOr_single (proxy : Option Proxy) (customer : π) :
    Ensures (addressOr env integration proxy [customer]) (HasCustomer (some customer))
      (IsSingle (some customer)) := by
  cases proxy with
  | none => exact Ensures.pure fun _ same => ⟨rfl, same⟩
  | some proxy => exact getOrCreateAddress_single env integration proxy customer

/-- Exactly one customer, one billing and one shipping contact. -/
def IsExact (answer : FactoryAnswer (List π)) : Prop :=
  answer.partner.length = 1 ∧ answer.billing.length = 1 ∧ answer.shipping.length = 1

/-- Every answer for a factory with a customer proxy is exact. -/
theorem exact_of_customerProxy [DecidableEq π] {factory : Factory}
    (known : factory.customerProxy.isSome = true) :
    Ensures (getPartnerAndAddresses env integration factory) (fun _ => True)
      fun answer _ => IsExact answer := by
  obtain ⟨proxy, present⟩ := Option.isSome_iff_exists.mp known
  refine Ensures.bind Ensures.trivial ?_
  intro _
  rw [present]
  refine Ensures.bind (getFactoryCustomer_single env integration proxy) ?_
  intro found
  refine Ensures.of_exists ?_
  intro customer
  refine Ensures.assuming ?_
  rintro rfl
  refine Ensures.bind (addressOr_single env integration factory.billingProxy customer) ?_
  intro billing
  refine Ensures.assuming ?_
  intro one
  refine Ensures.bind (addressOr_single env integration factory.shippingProxy customer) ?_
  intro shipping
  exact Ensures.pure fun _ holds => ⟨rfl, one, holds.1⟩

/-- No proxy has a contact yet. -/
def start (database : σ) : Session σ π := ⟨database, none, fun _ => none⟩

/-- Without a customer proxy the factory raises, or takes the default customer and an empty record
for each address that it has. -/
theorem run_of_no_customerProxy [DecidableEq π] {factory : Factory} (database : σ)
    (unknown : factory.customerProxy = none) :
    (∃ error, getPartnerAndAddresses env integration factory (start database) = .error error) ∧
        (integration.defaultCustomer = none ∨ factory.isInitialImport = true) ∨
      (∃ customer after, integration.defaultCustomer = some customer ∧
        factory.isInitialImport = false ∧
        getPartnerAndAddresses env integration factory (start database) =
          .ok (⟨[customer], if factory.billingProxy.isSome then [] else [customer],
            if factory.shippingProxy.isSome then [] else [customer]⟩, after)) := by
  obtain ⟨initial, customerProxy, billingProxy, shippingProxy⟩ := factory
  obtain ⟨name, companyId, defaultCustomer, manual, skip⟩ := integration
  cases unknown
  cases initial with
  | true => exact Or.inl ⟨⟨_, rfl⟩, Or.inr rfl⟩
  | false =>
      cases defaultCustomer with
      | none => exact Or.inl ⟨⟨_, rfl⟩, Or.inl rfl⟩
      | some customer =>
          refine Or.inr ⟨customer, start database, rfl, rfl, ?_⟩
          cases billingProxy <;> cases shippingProxy <;> rfl

section

variable (preparation : Preparation ε) (customer billing shipping : Option Data)
  (isInitialImport : Bool)

/-- No default customer is set, or the customer has a name or an email, or no address has. -/
def AddressesKnown : Prop :=
  integration.defaultCustomer = none ∨ isInitialImport = true ∨
    customerNamed preparation customer (billingOrShipping billing shipping) = true ∨
    (billingOrShipping billing shipping).any Data.isNamed = false ∧
      shipping.any Data.isNamed = false

variable {preparation customer billing shipping isInitialImport}

/-- Every answer has exactly one customer and one contact for each address, exactly if no default
customer stands in for a customer without name and email whose addresses have them. -/
theorem addresses_exact_iff [DecidableEq π] {factory : Factory}
    (created : createFactory preparation customer billing shipping isInitialImport = .ok factory)
    (database : σ) :
    (∀ answer after, getPartnerAndAddresses env integration factory (start database) =
        .ok (answer, after) → IsExact answer) ↔
      AddressesKnown integration preparation customer billing shipping isInitialImport := by
  obtain ⟨initial, own, billingMade, shippingMade⟩ := createFactory_ok preparation created
  rw [AddressesKnown, ← initial, ← own, ← billingMade, ← shippingMade]
  cases known : factory.customerProxy with
  | some proxy =>
      refine iff_of_true ?_ (Or.inr (Or.inr (Or.inl rfl)))
      intro answer after ran
      exact exact_of_customerProxy env integration (known ▸ rfl) _ trivial answer after ran
  | none =>
      rcases run_of_no_customerProxy env integration database known with raised | returned
      · obtain ⟨⟨error, ran⟩, missing⟩ := raised
        refine iff_of_true ?_ ?_
        · intro answer after other
          rw [ran] at other
          cases other
        · exact missing.elim Or.inl fun initial => Or.inr (Or.inl initial)
      · obtain ⟨partner, after, default, sales, ran⟩ := returned
        rw [ran, default, sales]
        constructor
        · intro exact
          have one := exact _ _ rfl
          refine Or.inr (Or.inr (Or.inr ⟨?_, ?_⟩))
          · cases made : factory.billingProxy.isSome with
            | false => rfl
            | true => simp [IsExact, made] at one
          · cases made : factory.shippingProxy.isSome with
            | false => rfl
            | true => simp [IsExact, made] at one
        · intro absent answer final other
          have none : factory.billingProxy.isSome = false ∧ factory.shippingProxy.isSome = false :=
            absent.resolve_left (by simp) |>.resolve_left (by simp) |>.resolve_left (by simp)
          rw [none.1, none.2] at other
          cases other
          exact ⟨rfl, rfl, rfl⟩

end

end

end

/-! ## A shop with a default customer -/

def asciiLetters : LetterTable where
  toCaseTable := CaseTable.ascii
  lower_ne_nil _ char _ := List.cons_ne_nil char.toLower []

def plainPreparation : Preparation Empty where
  table := asciiLetters
  emailNormalize _ := .ok none
  phoneFormat phone _ := .ok phone

/-- Contacts are numbered; none is found and each new one gets the next number. -/
def emptyShop : Env ℕ Empty ℕ Unit Unit where
  partner _ := pure ⟨true, false, none, none, "contact"⟩
  mappedPartners _ := pure []
  notifyAboutMissedCustomerMapping _ := pure ()
  openMapping _ := pure ()
  search _ := pure []
  companyVals _ := pure ()
  companySearchDomain _ _ := pure ()
  createCompany _ _ := fun count => .ok (count, count + 1)
  writeAddressFieldsIfEmpty _ _ := pure ()
  partnerVals _ _ := pure ()
  partnerSearchDomain _ _ := pure ()
  createPartner _ _ := fun count => .ok (count, count + 1)
  linkPartner _ _ := pure ()
  postUpdatePartner _ _ := pure ()
  addressVals _ _ := pure ()
  hasAddressChanges _ _ := pure true
  addressSearchDomain _ := ()
  createAddress _ := fun count => .ok (count, count + 1)

def defaultShop : Integration ℕ where
  name := "Shop"
  companyId := 1
  defaultCustomer := some 0
  useManualCustomerMapping := false
  skipIndividualContacts := false

def named (id name : String) : Data :=
  (Dict.single "id" (.text id)).update "person_name" fun _ => .text name

/-- A customer with a name gets one contact for each address. -/
theorem named_customer_exact : ∃ factory,
    createFactory plainPreparation (some (named "7" "Ada")) (some (named "8" "Bob")) none false =
        .ok factory ∧
      ∀ answer after, getPartnerAndAddresses emptyShop defaultShop factory (start 1) =
        .ok (answer, after) → IsExact answer := by
  refine ⟨_, rfl, ?_⟩
  exact (@addresses_exact_iff _ _ _ _ _ emptyShop defaultShop plainPreparation
    (some (named "7" "Ada")) (some (named "8" "Bob")) none false _ _ rfl 1).mpr
    (Or.inr (Or.inr (Or.inl (by decide))))

/-- Without name and email the customer is the default one, and the billing address is empty. -/
theorem nameless_customer_without_billing : ∃ factory,
    createFactory plainPreparation (some (named "7" "")) (some (named "8" "Bob")) none false =
        .ok factory ∧
      ¬∀ answer after, getPartnerAndAddresses emptyShop defaultShop factory (start 1) =
        .ok (answer, after) → IsExact answer := by
  refine ⟨_, rfl, ?_⟩
  intro exact
  have billing := (exact _ _ rfl).2.1
  cases billing

end OdooConnector.Partner
