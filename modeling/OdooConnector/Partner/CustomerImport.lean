import OdooConnector.Library.Fold
import Mathlib.Data.List.Basic

/-!
# Addresses of an imported customer

The import of a single customer calls the partner factory once for each billing address, with the
shipping address that stands at the same place. Shipping addresses beyond the last call and
addresses of another type reach no call.
-/

namespace OdooConnector.Partner

variable {κ δ π ε : Type}

/-- An address of the adapter: its `type`, where it has one, and the rest of its data. -/
structure Address (δ : Type) where
  type : Option String
  data : δ
  deriving DecidableEq

/-- The data that one call of `create_factory` gets. -/
structure FactoryCall (κ δ : Type) where
  customerData : κ
  billingData : Option (Address δ)
  shippingData : Option (Address δ)
  isInitialImport : Bool
  deriving DecidableEq

/-- What the factory answers, after the calls before: the customer and the two addresses. -/
structure FactoryAnswer (π : Type) where
  partner : π
  billing : π
  shipping : π

inductive ImportError (ε : Type)
  | customerNotFound (message : String)
  | factory (error : ε)

/-- Contacts imported so far, and the calls that were made. -/
structure ImportedCustomer (κ δ π : Type) where
  importedContacts : List π
  calls : List (FactoryCall κ δ)

section Import

variable [DecidableEq π] (factory : List (FactoryCall κ δ) → FactoryCall κ δ →
  Except ε (FactoryAnswer π))

/-- Addresses of type `invoice` come first, then those without a type. -/
def billingAddresses (addresses : List (Address δ)) : List (Address δ) :=
  (addresses.filter fun address => address.type = some "invoice") ++
    addresses.filter fun address => address.type = none

def shippingAddresses (addresses : List (Address δ)) : List (Address δ) :=
  addresses.filter fun address => address.type = some "delivery"

/-- `billing_addresses or [None]`: a call is made in any case. -/
def billingList (addresses : List (Address δ)) : List (Option (Address δ)) :=
  if (billingAddresses addresses).isEmpty then [none]
  else (billingAddresses addresses).map some

/-- The calls of the loop: each billing address with the shipping address at its place. -/
def factoryCalls (customer : κ) (addresses : List (Address δ)) : List (FactoryCall κ δ) :=
  (billingList addresses).zipIdx.map fun (billing, idx) =>
    { customerData := customer
      billingData := billing
      shippingData := (shippingAddresses addresses)[idx]?
      isInitialImport := true }

def importCall (imported : ImportedCustomer κ δ π) (call : FactoryCall κ δ) :
    Except (ImportError ε) (ImportedCustomer κ δ π) :=
  match factory imported.calls call with
  | .error error => .error (.factory error)
  | .ok answer =>
      .ok ⟨((imported.importedContacts.insert answer.partner).insert answer.billing).insert
        answer.shipping, imported.calls ++ [call]⟩

def customerNotFound (externalCustomerId : String) : ImportError ε :=
  .customerNotFound ("Customer with ID \"" ++ externalCustomerId ++
    "\" not found in external system. Please verify the customer ID and try again.")

/-- `import_single_customer`, on what `get_customer_and_addresses` returns. -/
def importSingleCustomer (externalCustomerId : String)
    (customerAndAddresses : Option κ × List (Address δ)) :
    Except (ImportError ε) (ImportedCustomer κ δ π) :=
  match customerAndAddresses with
  | (none, _) => .error (customerNotFound externalCustomerId)
  | (some customer, addresses) =>
      (factoryCalls customer addresses).foldlM (importCall factory) ⟨[], []⟩

end Import

/-! ## What reaches the factory -/

/-- The address is billing or shipping data of the call. -/
def FactoryCall.Passes (call : FactoryCall κ δ) (address : Address δ) : Prop :=
  call.billingData = some address ∨ call.shippingData = some address

instance [DecidableEq δ] (call : FactoryCall κ δ) (address : Address δ) :
    Decidable (call.Passes address) :=
  inferInstanceAs (Decidable (_ ∨ _))

/-- Every address reaches a call of the factory, and there is a call. -/
def NothingLost (addresses : List (Address δ)) (calls : List (FactoryCall κ δ)) : Prop :=
  (∀ address ∈ addresses, ∃ call ∈ calls, call.Passes address) ∧ calls ≠ []

/-- Every address has one of the types that the import knows, and the shipping addresses are among
the first ones, as many as there are calls. -/
def Paired (addresses : List (Address δ)) : Prop :=
  (∀ address ∈ addresses, address.type = none ∨ address.type = some "invoice" ∨
      address.type = some "delivery") ∧
    ∀ address ∈ shippingAddresses addresses, address ∈
      (shippingAddresses addresses).take (max 1 (billingAddresses addresses).length)

instance [DecidableEq δ] (addresses : List (Address δ)) : Decidable (Paired addresses) :=
  inferInstanceAs (Decidable (_ ∧ _))

section Calls

variable (customer : κ) (addresses : List (Address δ))

theorem length_billingList :
    (billingList addresses).length = max 1 (billingAddresses addresses).length := by
  rw [billingList]
  cases billingAddresses addresses with
  | nil => rfl
  | cons first rest => simp

theorem length_factoryCalls :
    (factoryCalls customer addresses).length = max 1 (billingAddresses addresses).length := by
  rw [factoryCalls, List.length_map, List.length_zipIdx, length_billingList]

theorem factoryCalls_ne_nil : factoryCalls customer addresses ≠ [] := by
  apply List.ne_nil_of_length_pos
  rw [length_factoryCalls]
  omega

theorem mem_factoryCalls_iff {call : FactoryCall κ δ} :
    call ∈ factoryCalls customer addresses ↔
      ∃ (idx : ℕ) (billing : Option (Address δ)), (billingList addresses)[idx]? = some billing ∧
        call = ⟨customer, billing, (shippingAddresses addresses)[idx]?, true⟩ := by
  rw [factoryCalls, List.mem_map]
  constructor
  · rintro ⟨⟨billing, idx⟩, member, rfl⟩
    exact ⟨idx, billing, List.mem_zipIdx_iff_getElem?.mp member, rfl⟩
  · rintro ⟨idx, billing, found, rfl⟩
    exact ⟨(billing, idx), List.mem_zipIdx_iff_getElem?.mpr found, rfl⟩

variable {addresses} {address : Address δ}

/-- Exactly the addresses of type `invoice` and those without a type are billing data. -/
theorem billing_passed_iff :
    (∃ call ∈ factoryCalls customer addresses, call.billingData = some address) ↔
      address ∈ billingAddresses addresses := by
  have listed : some address ∈ billingList addresses ↔ address ∈ billingAddresses addresses := by
    rw [billingList]
    cases billingAddresses addresses with
    | nil => simp
    | cons first rest => simp
  rw [← listed, List.mem_iff_getElem?]
  constructor
  · rintro ⟨call, member, passed⟩
    obtain ⟨idx, billing, found, rfl⟩ := (mem_factoryCalls_iff customer addresses).mp member
    exact ⟨idx, found.trans (congrArg some passed)⟩
  · rintro ⟨idx, found⟩
    exact ⟨_, (mem_factoryCalls_iff customer addresses).mpr ⟨idx, _, found, rfl⟩, rfl⟩

/-- Shipping data are the first shipping addresses, one for each call. -/
theorem shipping_passed_iff :
    (∃ call ∈ factoryCalls customer addresses, call.shippingData = some address) ↔
      address ∈ (shippingAddresses addresses).take
        (max 1 (billingAddresses addresses).length) := by
  rw [← length_billingList, List.mem_iff_getElem?]
  constructor
  · rintro ⟨call, member, passed⟩
    obtain ⟨idx, billing, found, rfl⟩ := (mem_factoryCalls_iff customer addresses).mp member
    obtain ⟨bound, -⟩ := List.getElem?_eq_some_iff.mp found
    exact ⟨idx, by rw [List.getElem?_take_of_lt bound]; exact passed⟩
  · rintro ⟨idx, found⟩
    have bound : idx < (billingList addresses).length := by
      by_contra outside
      rw [List.getElem?_take_eq_none (Nat.le_of_not_lt outside)] at found
      cases found
    rw [List.getElem?_take_of_lt bound] at found
    exact ⟨_, (mem_factoryCalls_iff customer addresses).mpr
      ⟨idx, _, List.getElem?_eq_getElem bound, rfl⟩, found⟩

/-- The calls pass every address exactly if all have known types and are paired. -/
theorem nothingLost_factoryCalls_iff :
    NothingLost addresses (factoryCalls customer addresses) ↔ Paired addresses := by
  have passed (address : Address δ) :
      (∃ call ∈ factoryCalls customer addresses, call.Passes address) ↔
        address ∈ billingAddresses addresses ∨ address ∈ (shippingAddresses addresses).take
          (max 1 (billingAddresses addresses).length) := by
    rw [← billing_passed_iff customer, ← shipping_passed_iff customer]
    simp only [FactoryCall.Passes, and_or_left, exists_or]
  have billing (address : Address δ) : address ∈ billingAddresses addresses ↔
      address ∈ addresses ∧ (address.type = some "invoice" ∨ address.type = none) := by
    simp [billingAddresses, and_or_left]
  have shipping (address : Address δ) : address ∈ shippingAddresses addresses ↔
      address ∈ addresses ∧ address.type = some "delivery" := by
    simp [shippingAddresses]
  rw [NothingLost, and_iff_left (factoryCalls_ne_nil customer addresses), Paired]
  simp only [passed]
  constructor
  · intro reached
    constructor
    · intro address member
      rcases reached address member with invoice | delivery
      · have known := ((billing address).mp invoice).2
        tauto
      · exact Or.inr (Or.inr ((shipping address).mp (List.mem_of_mem_take delivery)).2)
    · intro address delivery
      obtain ⟨member, type⟩ := (shipping address).mp delivery
      rcases reached address member with invoice | paired
      · have other := ((billing address).mp invoice).2
        simp [type] at other
      · exact paired
  · rintro ⟨known, paired⟩ address member
    rcases known address member with absent | invoice | delivery
    · exact Or.inl ((billing address).mpr ⟨member, Or.inr absent⟩)
    · exact Or.inl ((billing address).mpr ⟨member, Or.inl invoice⟩)
    · exact Or.inr (paired address ((shipping address).mpr ⟨member, delivery⟩))

end Calls

section Run

variable [DecidableEq π] {factory : List (FactoryCall κ δ) → FactoryCall κ δ →
  Except ε (FactoryAnswer π)}

/-- A call of the factory that returns is made once. -/
theorem importCall_calls {imported after : ImportedCustomer κ δ π} {call : FactoryCall κ δ}
    (ran : importCall factory imported call = .ok after) :
    after.calls = imported.calls ++ [call] := by
  rw [importCall] at ran
  split at ran
  · cases ran
  · cases ran
    rfl

/-- An import that returns has found the customer and made the calls of the loop. -/
theorem importSingleCustomer_calls {externalCustomerId : String} {found : Option κ}
    {addresses : List (Address δ)} {imported : ImportedCustomer κ δ π}
    (ran : importSingleCustomer factory externalCustomerId (found, addresses) = .ok imported) :
    ∃ customer, found = some customer ∧ imported.calls = factoryCalls customer addresses := by
  cases found with
  | none => cases ran
  | some customer =>
      refine ⟨customer, rfl, ?_⟩
      apply foldlM_visited (fun visited current => current.calls = visited) _ rfl _ ran
      intro visited next rest current after _ made called
      rw [importCall_calls called, made]

end Run

/-- An import that returns has passed every address to the factory, exactly if all addresses have a
known type and no shipping address stands behind the last call. -/
theorem no_address_lost_iff [DecidableEq π] (factory : List (FactoryCall κ δ) → FactoryCall κ δ →
      Except ε (FactoryAnswer π))
    (externalCustomerId : String) (found : Option κ) (addresses : List (Address δ))
    (imported : ImportedCustomer κ δ π)
    (ran : importSingleCustomer factory externalCustomerId (found, addresses) = .ok imported) :
    NothingLost addresses imported.calls ↔ Paired addresses := by
  obtain ⟨customer, -, made⟩ := importSingleCustomer_calls ran
  rw [made]
  exact nothingLost_factoryCalls_iff customer

/-! ## A customer with two delivery addresses -/

def home : Address ℕ := ⟨some "invoice", 1⟩
def office : Address ℕ := ⟨some "delivery", 2⟩
def depot : Address ℕ := ⟨some "delivery", 3⟩

/-- A factory that makes a contact of each address. -/
def contacts (_ : List (FactoryCall Unit ℕ)) (call : FactoryCall Unit ℕ) :
    Except Empty (FactoryAnswer ℕ) :=
  .ok ⟨0, (call.billingData.map Address.data).getD 0, (call.shippingData.map Address.data).getD 0⟩

theorem one_delivery_imported : ∃ imported,
    importSingleCustomer contacts "7" (some (), [office, home]) = .ok imported ∧
      NothingLost [office, home] imported.calls :=
  ⟨_, rfl, (no_address_lost_iff contacts "7" (some ()) [office, home] _ rfl).mpr (by decide)⟩

/-- The second delivery address stands behind the only call. -/
theorem second_delivery_lost : ∃ imported,
    importSingleCustomer contacts "7" (some (), [home, office, depot]) = .ok imported ∧
      ¬ NothingLost [home, office, depot] imported.calls := by
  refine ⟨_, rfl, ?_⟩
  rintro ⟨reached, -⟩
  have passed := reached depot (by decide)
  revert passed
  decide

end OdooConnector.Partner
