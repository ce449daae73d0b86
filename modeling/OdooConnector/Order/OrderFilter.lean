import OdooConnector.Library.Text

/-!
# Filtering orders by their status

Polling asks the store for orders of the configured statuses, a webhook compares the statuses of
the order it brings with the configured ones. Both read the same comma-separated settings.
-/

namespace OdooConnector.Order

/-- Fields of an order that a store query filters by. -/
inductive StatusField where
  | status
  | financialStatus
  | fulfillmentStatus
deriving DecidableEq

def StatusField.name : StatusField → String
  | .status => "status"
  | .financialStatus => "financial_status"
  | .fulfillmentStatus => "fulfillment_status"

/-- Statuses of a field, one of which an order has to have. -/
structure QueryClause where
  field : StatusField
  elements : List String

namespace QueryClause

/-- The clause in the query language of the store. -/
def render (clause : QueryClause) : String :=
  match clause.elements with
  | [] => ""
  | [element] => clause.field.name ++ ":" ++ element
  | elements =>
      "(" ++ " OR ".intercalate (elements.map fun element =>
        "(" ++ clause.field.name ++ ":" ++ element ++ ")") ++ ")"

end QueryClause

/-- Status filters of an integration, empty where they are not set. -/
structure StatusSettings where
  receiveOrderStatuses : String
  receiveOrderFinancialStatuses : String
  receiveOrderFulfillmentStatuses : String

def fulfilledName : String := "fulfilled"

/-- The store's word for fulfilled orders in a query. -/
def shippedName : String := "shipped"

def prepareElements (field : StatusField) (elementStr : String) : QueryClause :=
  ⟨field, (split ',' elementStr).map strip⟩

/-- Ask for shipped orders where fulfilled ones are listed. -/
def substituteFulfilled (fulfillmentStatus : String) : String :=
  let statusList := split ',' fulfillmentStatus
  if fulfilledName ∈ statusList then
    (String.singleton ',').intercalate (statusList.erase fulfilledName ++ [shippedName])
  else fulfillmentStatus

namespace StatusSettings

/-- Clauses of the store query, for the filters that are set. -/
def orderClauses (settings : StatusSettings) : List QueryClause :=
  (if settings.receiveOrderStatuses = "" then []
    else [prepareElements .status settings.receiveOrderStatuses]) ++
  (if settings.receiveOrderFinancialStatuses = "" then []
    else [prepareElements .financialStatus settings.receiveOrderFinancialStatuses]) ++
  (if settings.receiveOrderFulfillmentStatuses = "" then []
    else [prepareElements .fulfillmentStatus
      (substituteFulfilled settings.receiveOrderFulfillmentStatuses)])

/-- Query by which polling asks the store for orders. -/
def defaultOrderDomain (settings : StatusSettings) : String :=
  " AND ".intercalate (settings.orderClauses.map QueryClause.render)

end StatusSettings

/-- Names of a comma-separated setting, without blanks and empty names. -/
def listedStatuses (statuses : String) : List String :=
  ((split ',' statuses).map strip).filter (· ≠ "")

namespace StatusSettings

def getImportableOrderStatuses (settings : StatusSettings) :
    Except String (List String × List String) :=
  let financialStatusesList := listedStatuses settings.receiveOrderFinancialStatuses
  let fulfillmentStatusesList := listedStatuses settings.receiveOrderFulfillmentStatuses
  if financialStatusesList = [] then
    .error ("Invalid configuration: Financial status filter is not configured. " ++
      "Please configure \"Order financial statuses\" in the integration settings.")
  else if fulfillmentStatusesList = [] then
    .error ("Invalid configuration: Fulfillment status filter is not configured. " ++
      "Please configure \"Order fulfillment statuses\" in the integration settings.")
  else .ok (financialStatusesList, fulfillmentStatusesList)

/-- Whether a webhook imports an order with these financial and fulfillment statuses. -/
def isImportableOrderStatus (settings : StatusSettings) (statuses : String × String) :
    Except String Bool := do
  let (finStateList, fulfStateList) ← settings.getImportableOrderStatuses
  return statuses.1 ∈ finStateList && statuses.2 ∈ fulfStateList

end StatusSettings

/-! ## Agreement of polling and webhooks -/

/-- The word by which a query asks for a fulfillment status. -/
def queryName (status : String) : String :=
  if status = fulfilledName then shippedName else status

/-- What a clause asks of the financial and the fulfillment status of an order. -/
def QueryClause.Holds (clause : QueryClause) (statuses : String × String) : Prop :=
  match clause.field with
  | .status => True
  | .financialStatus => statuses.1 ∈ clause.elements
  | .fulfillmentStatus => queryName statuses.2 ∈ clause.elements

namespace StatusSettings

variable (settings : StatusSettings)

/-- Statuses with which an order passes the store query. -/
def Passes (statuses : String × String) : Prop :=
  ∀ clause ∈ settings.orderClauses, clause.Holds statuses

/-- A webhook imports orders with these statuses, or with the store's other word for them. -/
def Accepts (statuses : String × String) : Prop :=
  ∃ fulfillment, queryName fulfillment = queryName statuses.2 ∧
    settings.isImportableOrderStatus (statuses.1, fulfillment) = .ok true

/-- Polling and webhooks accept the same statuses, and polling never asks for fulfilled orders by
a name that the store does not know in queries. -/
structure SameOrders : Prop where
  agree : ∀ financial fulfillment, financial ≠ "" → fulfillment ≠ "" →
    (settings.Passes (financial, fulfillment) ↔ settings.Accepts (financial, fulfillment))
  substituted : ∀ clause ∈ settings.orderClauses, clause.field = .fulfillmentStatus →
    fulfilledName ∉ clause.elements

end StatusSettings

theorem mem_listedStatuses {name statuses : String} :
    name ∈ listedStatuses statuses ↔ name ∈ (split ',' statuses).map strip ∧ name ≠ "" := by
  simp [listedStatuses]

theorem listedStatuses_empty : listedStatuses "" = [] := by
  decide

/-- Names that the query lists for the fulfillment status. -/
theorem split_substituteFulfilled (statuses : String) :
    split ',' (substituteFulfilled statuses) =
      if fulfilledName ∈ split ',' statuses then
        (split ',' statuses).erase fulfilledName ++ [shippedName]
      else split ',' statuses := by
  rw [substituteFulfilled]
  split
  · refine split_intercalate (fun name member => ?_) (by simp)
    cases List.mem_append.mp member with
    | inl kept => exact not_mem_of_mem_split (List.mem_of_mem_erase kept)
    | inr last =>
        rw [List.mem_singleton.mp last]
        decide
  · rfl

/-- The query lists `fulfilled` unless it stands at most once in the setting, without blanks. -/
theorem fulfilled_mem_iff (statuses : String) :
    fulfilledName ∈ (split ',' (substituteFulfilled statuses)).map strip ↔
      ∃ name ∈ (split ',' statuses).erase fulfilledName, strip name = fulfilledName := by
  rw [split_substituteFulfilled]
  split
  · rw [List.map_append, List.mem_append, List.mem_map]
    have other : fulfilledName ∉ [shippedName].map strip := by decide
    simp only [other, or_false]
  · rename_i absent
    rw [List.erase_of_not_mem absent, List.mem_map]

/-- A name other than `fulfilled` is listed by the query as it is listed in the setting. -/
theorem mem_query_of_ne {statuses name : String} (other : name ≠ fulfilledName)
    (notShipped : name ≠ shippedName) :
    name ∈ (split ',' (substituteFulfilled statuses)).map strip ↔
      name ∈ (split ',' statuses).map strip := by
  rw [split_substituteFulfilled]
  split
  · rw [List.map_append, List.mem_append]
    have last : name ∉ [shippedName].map strip := by
      have same : strip shippedName = shippedName := by decide
      simpa [same] using notShipped
    simp only [last, or_false, List.mem_map]
    constructor
    · rintro ⟨raw, kept, rfl⟩
      exact ⟨raw, List.mem_of_mem_erase kept, rfl⟩
    · rintro ⟨raw, member, rfl⟩
      have different : raw ≠ fulfilledName := by
        rintro rfl
        exact other (by decide)
      exact ⟨raw, (List.mem_erase_of_ne different).mpr member, rfl⟩
  · rfl

/-- Shipped orders are asked for when shipped or fulfilled ones are listed. -/
theorem shipped_mem_iff {statuses : String}
    (once : ∀ name ∈ (split ',' statuses).erase fulfilledName, strip name ≠ fulfilledName) :
    shippedName ∈ (split ',' (substituteFulfilled statuses)).map strip ↔
      fulfilledName ∈ (split ',' statuses).map strip ∨
        shippedName ∈ (split ',' statuses).map strip := by
  have same : strip fulfilledName = fulfilledName := by decide
  rw [split_substituteFulfilled]
  split
  · rename_i present
    have listed : fulfilledName ∈ (split ',' statuses).map strip :=
      List.mem_map.mpr ⟨fulfilledName, present, same⟩
    have last : shippedName ∈ [shippedName].map strip := by decide
    simp only [List.map_append, List.mem_append, last, or_true, listed, true_or]
  · rename_i absent
    rw [List.erase_of_not_mem absent] at once
    have unlisted : fulfilledName ∉ (split ',' statuses).map strip := by
      intro member
      obtain ⟨name, listed, stripped⟩ := List.mem_map.mp member
      exact once name listed stripped
    simp only [unlisted, false_or]

theorem queryName_eq_iff {status other : String} (different : status ≠ fulfilledName)
    (notShipped : status ≠ shippedName) : queryName other = queryName status ↔ other = status := by
  rw [queryName, queryName, if_neg different]
  split
  · rename_i isFulfilled
    constructor
    · intro same
      exact absurd same.symm notShipped
    · rintro rfl
      exact absurd isFulfilled different
  · rfl

/-- The query asks for a status exactly when it is listed, up to the store's word for it. -/
theorem queryName_mem_iff {statuses : String}
    (once : ∀ name ∈ (split ',' statuses).erase fulfilledName, strip name ≠ fulfilledName)
    {status : String} (nonempty : status ≠ "") :
    queryName status ∈ (split ',' (substituteFulfilled statuses)).map strip ↔
      ∃ other, queryName other = queryName status ∧ other ∈ listedStatuses statuses := by
  by_cases special : status = fulfilledName ∨ status = shippedName
  · have asked : queryName status = shippedName := by
      cases special with
      | inl isFulfilled => rw [isFulfilled]; rfl
      | inr isShipped => rw [isShipped]; rfl
    rw [asked, shipped_mem_iff once]
    constructor
    · rintro (listed | listed)
      · exact ⟨fulfilledName, rfl, mem_listedStatuses.mpr ⟨listed, by decide⟩⟩
      · exact ⟨shippedName, rfl, mem_listedStatuses.mpr ⟨listed, by decide⟩⟩
    · rintro ⟨other, same, listed⟩
      have member := (mem_listedStatuses.mp listed).1
      by_cases isFulfilled : other = fulfilledName
      · exact Or.inl (isFulfilled ▸ member)
      · rw [queryName, if_neg isFulfilled] at same
        exact Or.inr (same ▸ member)
  · obtain ⟨different, notShipped⟩ := not_or.mp special
    have asked : queryName status = status := if_neg different
    simp only [queryName_eq_iff different notShipped, exists_eq_left, mem_listedStatuses]
    rw [asked, mem_query_of_ne different notShipped]
    exact ⟨fun member => ⟨member, nonempty⟩, And.left⟩

namespace StatusSettings

variable {settings : StatusSettings}

theorem passes_iff {statuses : String × String} :
    settings.Passes statuses ↔
      (settings.receiveOrderFinancialStatuses = "" ∨
        statuses.1 ∈ (split ',' settings.receiveOrderFinancialStatuses).map strip) ∧
      (settings.receiveOrderFulfillmentStatuses = "" ∨ queryName statuses.2 ∈
        (split ',' (substituteFulfilled settings.receiveOrderFulfillmentStatuses)).map strip) := by
  rw [Passes, orderClauses, List.forall_mem_append, List.forall_mem_append]
  split <;> split <;> split <;> simp_all [prepareElements, QueryClause.Holds]

theorem isImportableOrderStatus_iff {statuses : String × String} :
    settings.isImportableOrderStatus statuses = .ok true ↔
      statuses.1 ∈ listedStatuses settings.receiveOrderFinancialStatuses ∧
        statuses.2 ∈ listedStatuses settings.receiveOrderFulfillmentStatuses := by
  rw [isImportableOrderStatus, getImportableOrderStatuses]
  split
  · rename_i unset
    simp [unset, bind, Except.bind]
  · split
    · rename_i unset
      simp [unset, bind, Except.bind]
    · simp [bind, Except.bind, pure, Except.pure]

theorem accepts_iff {statuses : String × String} :
    settings.Accepts statuses ↔
      statuses.1 ∈ listedStatuses settings.receiveOrderFinancialStatuses ∧
        ∃ fulfillment, queryName fulfillment = queryName statuses.2 ∧
          fulfillment ∈ listedStatuses settings.receiveOrderFulfillmentStatuses := by
  simp only [Accepts, isImportableOrderStatus_iff, and_left_comm, exists_and_left]

/-- The fulfillment clause lists `fulfilled` exactly when the substitution leaves it there. -/
theorem substituted_iff :
    (∀ clause ∈ settings.orderClauses, clause.field = .fulfillmentStatus →
        fulfilledName ∉ clause.elements) ↔
      ∀ name ∈ (split ',' settings.receiveOrderFulfillmentStatuses).erase fulfilledName,
        strip name ≠ fulfilledName := by
  have clause : (∀ clause ∈ settings.orderClauses, clause.field = .fulfillmentStatus →
      fulfilledName ∉ clause.elements) ↔
      (settings.receiveOrderFulfillmentStatuses ≠ "" → fulfilledName ∉
        (split ',' (substituteFulfilled settings.receiveOrderFulfillmentStatuses)).map strip) := by
    rw [orderClauses, List.forall_mem_append, List.forall_mem_append]
    split <;> split <;> split <;> simp_all [prepareElements]
  rw [clause]
  by_cases unset : settings.receiveOrderFulfillmentStatuses = ""
  · rw [unset]
    simp only [ne_eq, not_true_eq_false, false_implies, true_iff]
    decide
  · simp only [ne_eq, unset, not_false_eq_true, forall_const, fulfilled_mem_iff, not_exists,
      not_and]

theorem passes_iff_listed
    (once : ∀ name ∈ (split ',' settings.receiveOrderFulfillmentStatuses).erase fulfilledName,
      strip name ≠ fulfilledName)
    {financial fulfillment : String} (named : financial ≠ "") (named' : fulfillment ≠ "") :
    settings.Passes (financial, fulfillment) ↔
      (settings.receiveOrderFinancialStatuses = "" ∨
        financial ∈ listedStatuses settings.receiveOrderFinancialStatuses) ∧
      (settings.receiveOrderFulfillmentStatuses = "" ∨
        ∃ other, queryName other = queryName fulfillment ∧
          other ∈ listedStatuses settings.receiveOrderFulfillmentStatuses) := by
  rw [passes_iff, ← queryName_mem_iff once named']
  simp only [mem_listedStatuses, ne_eq, named, not_false_eq_true, and_true]

/-- Where a filter is not set, orders pass that a webhook refuses. -/
theorem not_sameOrders_of_unset
    (once : ∀ name ∈ (split ',' settings.receiveOrderFulfillmentStatuses).erase fulfilledName,
      strip name ≠ fulfilledName)
    (unset : settings.receiveOrderFinancialStatuses = "" ∨
      settings.receiveOrderFulfillmentStatuses = "")
    (financialOpen : settings.receiveOrderFinancialStatuses = "" ∨
      listedStatuses settings.receiveOrderFinancialStatuses ≠ [])
    (fulfillmentOpen : settings.receiveOrderFulfillmentStatuses = "" ∨
      listedStatuses settings.receiveOrderFulfillmentStatuses ≠ []) :
    ¬ settings.SameOrders := by
  intro same
  have financial : ∃ name, name ≠ "" ∧ (settings.receiveOrderFinancialStatuses = "" ∨
      name ∈ listedStatuses settings.receiveOrderFinancialStatuses) := by
    cases financialOpen with
    | inl unset => exact ⟨shippedName, by decide, Or.inl unset⟩
    | inr listed =>
        obtain ⟨name, member⟩ := List.exists_mem_of_ne_nil _ listed
        exact ⟨name, (mem_listedStatuses.mp member).2, Or.inr member⟩
  have fulfillment : ∃ name, name ≠ "" ∧ (settings.receiveOrderFulfillmentStatuses = "" ∨
      ∃ other, queryName other = queryName name ∧
        other ∈ listedStatuses settings.receiveOrderFulfillmentStatuses) := by
    cases fulfillmentOpen with
    | inl unset => exact ⟨shippedName, by decide, Or.inl unset⟩
    | inr listed =>
        obtain ⟨name, member⟩ := List.exists_mem_of_ne_nil _ listed
        exact ⟨name, (mem_listedStatuses.mp member).2, Or.inr ⟨name, rfl, member⟩⟩
  obtain ⟨name, named, passes⟩ := financial
  obtain ⟨name', named', passes'⟩ := fulfillment
  have accepted := (same.agree name name' named named').mp
    ((passes_iff_listed once named named').mpr ⟨passes, passes'⟩)
  obtain ⟨member, other, -, member'⟩ := accepts_iff.mp accepted
  cases unset with
  | inl unset =>
      rw [unset, listedStatuses_empty] at member
      exact List.not_mem_nil member
  | inr unset =>
      rw [unset, listedStatuses_empty] at member'
      exact List.not_mem_nil member'

/-- Polling and webhooks accept the same statuses exactly when `fulfilled` is listed at most once,
without blanks around it, and a filter that is not set stands beside one that lists no name. -/
theorem sameOrders_iff (settings : StatusSettings) :
    settings.SameOrders ↔
      (∀ name ∈ (split ',' settings.receiveOrderFulfillmentStatuses).erase fulfilledName,
        strip name ≠ fulfilledName) ∧
      (settings.receiveOrderFinancialStatuses = "" →
        settings.receiveOrderFulfillmentStatuses ≠ "" ∧
          listedStatuses settings.receiveOrderFulfillmentStatuses = []) ∧
      (settings.receiveOrderFulfillmentStatuses = "" →
        settings.receiveOrderFinancialStatuses ≠ "" ∧
          listedStatuses settings.receiveOrderFinancialStatuses = []) := by
  constructor
  · intro same
    have once := substituted_iff.mp same.substituted
    refine ⟨once, fun unset => ?_, fun unset => ?_⟩
    · by_contra mismatch
      refine not_sameOrders_of_unset once (Or.inl unset) (Or.inl unset) ?_ same
      tauto
    · by_contra mismatch
      refine not_sameOrders_of_unset once (Or.inr unset) ?_ (Or.inl unset) same
      tauto
  · rintro ⟨once, financialSet, fulfillmentSet⟩
    refine ⟨fun financial fulfillment named named' => ?_, substituted_iff.mpr once⟩
    rw [passes_iff_listed once named named', accepts_iff]
    -- A filter that is not set lets every order pass, so the other one has to list no name.
    constructor
    · rintro ⟨unset | listed, unset' | listed'⟩
      · exact absurd unset' (financialSet unset).1
      · rw [(financialSet unset).2] at listed'
        obtain ⟨_, _, member⟩ := listed'
        exact absurd member List.not_mem_nil
      · rw [(fulfillmentSet unset').2] at listed
        exact absurd listed List.not_mem_nil
      · exact ⟨listed, listed'⟩
    · rintro ⟨listed, listed'⟩
      exact ⟨Or.inr listed, Or.inr listed'⟩

/-- Paid orders are imported that are unfulfilled or fulfilled; one name follows a blank. -/
def spacedSettings : StatusSettings where
  receiveOrderStatuses := "open"
  receiveOrderFinancialStatuses := "paid"
  receiveOrderFulfillmentStatuses := "unfulfilled, fulfilled"

/-- A webhook imports a fulfilled order that polling does not ask for. -/
theorem spacedSettings_not_sameOrders : ¬ spacedSettings.SameOrders := by
  intro same
  have accepted : spacedSettings.Accepts ("paid", "fulfilled") := ⟨"fulfilled", rfl, by decide⟩
  have passes := (same.agree "paid" "fulfilled" (by decide) (by decide)).mpr accepted
  rw [passes_iff] at passes
  exact absurd passes (by decide)

example : spacedSettings.defaultOrderDomain =
    "status:open AND financial_status:paid AND " ++
      "((fulfillment_status:unfulfilled) OR (fulfillment_status:fulfilled))" := by
  decide

end StatusSettings

end OdooConnector.Order
