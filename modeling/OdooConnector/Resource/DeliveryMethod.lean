import Mathlib.Data.List.Dedup
import Mathlib.Data.List.Sort
import Mathlib.Data.String.Basic

/-!
# The delivery method of an order

Each fulfillment order may have a delivery method. The order takes one of them: the only one where
codes or names agree, otherwise the one that the shipping line names.
-/

namespace OdooConnector.Resource

inductive DeliveryMethodType
  | «local»
  | none
  | pickUp
  | pickupPoint
  | retail
  | shipping
  deriving DecidableEq

/-- A text that is there and not empty. -/
def truthy (text : Option String) : Bool := text.isSome && text ≠ some ""

/-- What the store sends of a delivery method. -/
structure DeliveryData where
  id : ℕ
  presentedName : Option String
  serviceCode : Option String
  methodType : DeliveryMethodType
  deriving DecidableEq

namespace DeliveryData

def code (method : DeliveryData) : Option String := method.serviceCode

def name (method : DeliveryData) : Option String :=
  if truthy method.presentedName then method.presentedName else method.code

def isValid (method : DeliveryData) : Bool :=
  method.methodType ≠ .none && truthy method.name && truthy method.code

end DeliveryData

/-- A delivery method is an object without data where the store sends none. -/
abbrev DeliveryMethod := Option DeliveryData

inductive Failure
  | valueError (message : String)
  | validationError (message : String)
  deriving DecidableEq

namespace DeliveryMethod

def ensureOne : DeliveryMethod → Except Failure DeliveryData
  | some data => .ok data
  | none => .error (.valueError "Expected graphql-orm single object: DeliveryMethod(0)")

end DeliveryMethod

structure FulfillmentOrder where
  deliveryMethod : DeliveryMethod
  deriving DecidableEq

/-- Code and title of the shipping line, both missing where there is none, and what makes it count:
its price sets were sent, and it was not removed. -/
structure ShippingLine where
  code : Option String
  title : Option String
  hasPrices : Bool
  isRemoved : Bool
  deriving DecidableEq

structure Order where
  fulfillmentOrders : List FulfillmentOrder
  shippingLine : ShippingLine
  deriving DecidableEq

/-- The stable sort with the valid methods first. -/
def sortByValidity (methods : List DeliveryData) : List DeliveryData :=
  methods.insertionSort fun left right => left.isValid = true ∨ right.isValid = false

/-- Python's `len(set(values)) == 1`. -/
def oneValue (values : List (Option String)) : Bool := values.dedup.length = 1

def notParsed : Failure :=
  .validationError ("Delivery method may not be parsed. Please contact VentorTech support " ++
    "at support@ventor.tech to report this issue.")

/-- The search by the code of the shipping line, then by its title. -/
def findByShippingLine (methods : List DeliveryData) (line : ShippingLine) :
    Option DeliveryData :=
  match methods.find? (·.code = line.code) with
  | some method => some method
  | none => if truthy line.title then methods.find? (·.name = line.title) else none

/-- The choice among the sorted methods; the default is an object without data. -/
def chooseMethod (methods : List DeliveryData) (line : ShippingLine) :
    Except Failure DeliveryMethod :=
  if methods.all fun method => !method.isValid then .ok none
  else if methods.length = 1 then .ok methods.head?
  else if oneValue (methods.map DeliveryData.code) then .ok methods.head?
  else if oneValue (methods.map DeliveryData.name) then .ok methods.head?
  else if !truthy line.code && !truthy line.title then .ok methods.head?
  else match findByShippingLine methods line with
    | some method => .ok (some method)
    | none => .error notParsed

/-- `Order.delivery_method`: the key of the sort asks every method for its type, so that one without
data raises. -/
def Order.deliveryMethod (order : Order) : Except Failure DeliveryMethod := do
  if order.fulfillmentOrders.isEmpty then
    return none
  let methods ← (order.fulfillmentOrders.map (·.deliveryMethod)).mapM DeliveryMethod.ensureOne
  chooseMethod (sortByValidity methods) order.shippingLine

/-! ## What an import needs -/

namespace Order

/-- Delivery methods that the store sends, in the order of the fulfillment orders. -/
def methods (order : Order) : List DeliveryData :=
  order.fulfillmentOrders.filterMap (·.deliveryMethod)

def validMethods (order : Order) : List DeliveryData :=
  order.methods.filter DeliveryData.isValid

/-- A valid method has the code of the shipping line. -/
def CodeMatches (order : Order) : Prop :=
  ∃ method ∈ order.validMethods, method.code = order.shippingLine.code

/-- A valid method has the title of the shipping line as its name. -/
def NameMatches (order : Order) : Prop :=
  ∃ method ∈ order.validMethods, method.name = order.shippingLine.title

/-- A method with the code of the shipping line, else with its title, else the first valid one. -/
structure Preferred (order : Order) (method : DeliveryData) : Prop where
  valid : method ∈ order.validMethods
  code : order.CodeMatches → method.code = order.shippingLine.code
  name : ¬ order.CodeMatches → order.NameMatches → method.name = order.shippingLine.title
  first : ¬ order.CodeMatches → ¬ order.NameMatches → order.validMethods.head? = some method

/-- The carrier does not block the import: no error, and the preferred of the valid methods. -/
def CarrierResolved (order : Order) : Prop :=
  ∃ chosen, order.deliveryMethod = .ok chosen ∧
    (order.validMethods ≠ [] → ∃ method, chosen = some method ∧ order.Preferred method)

def SameCodes (order : Order) : Prop :=
  ∀ left ∈ order.methods, ∀ right ∈ order.methods, left.code = right.code

def SameNames (order : Order) : Prop :=
  ∀ left ∈ order.methods, ∀ right ∈ order.methods, left.name = right.name

/-- Every fulfillment order has a method. Where all have one code or one name, no other valid method
is closer to the shipping line than the first one; otherwise, where the shipping line has a code or
a title, a valid method has that code, or one has that title and no invalid method has the code. -/
structure Unambiguous (order : Order) (first : DeliveryData) : Prop where
  sameCodes : order.SameCodes →
    first.code = order.shippingLine.code ∨ first.name = order.shippingLine.title ∨
      ¬ order.NameMatches
  sameNames : order.SameNames → first.code = order.shippingLine.code ∨ ¬ order.CodeMatches
  search : ¬ order.SameCodes → ¬ order.SameNames →
    truthy order.shippingLine.code ∨ truthy order.shippingLine.title →
    order.CodeMatches ∨
      (order.NameMatches ∧ ∀ method ∈ order.methods, method.code ≠ order.shippingLine.code)

def Complete (order : Order) : Prop :=
  ∀ fulfillmentOrder ∈ order.fulfillmentOrders, fulfillmentOrder.deliveryMethod ≠ none

/-- Every fulfillment order has a method, and the first valid one is not taken too early, nor a
method missed or taken wrongly in the search. -/
def Resolvable (order : Order) : Prop :=
  order.Complete ∧ ∀ first, order.validMethods.head? = some first → order.Unambiguous first

end Order

/-! ## Sorting by validity -/

theorem orderedInsert_valid {method : DeliveryData} (valid : method.isValid = true)
    (methods : List DeliveryData) :
    @List.orderedInsert DeliveryData (fun left right => left.isValid = true ∨ right.isValid = false)
      (fun _ _ => instDecidableOr) method methods = method :: methods := by
  cases methods with
  | nil => rfl
  | cons head tail => exact if_pos (Or.inl valid)

theorem orderedInsert_invalid {method : DeliveryData} (invalid : method.isValid = false)
    {front back : List DeliveryData} (valid : ∀ other ∈ front, other.isValid = true)
    (later : ∀ other ∈ back, other.isValid = false) :
    @List.orderedInsert DeliveryData (fun left right => left.isValid = true ∨ right.isValid = false)
      (fun _ _ => instDecidableOr) method (front ++ back) = front ++ method :: back := by
  induction front with
  | nil =>
      cases back with
      | nil => rfl
      | cons head tail => exact if_pos (Or.inr (later head List.mem_cons_self))
  | cons head tail induction =>
      have skip : ¬ (method.isValid = true ∨ head.isValid = false) := by
        simp [invalid, valid head List.mem_cons_self]
      rw [List.cons_append, List.orderedInsert, if_neg skip, List.cons_append,
        induction fun other member => valid other (List.mem_cons_of_mem head member)]

theorem sortByValidity_eq (methods : List DeliveryData) :
    sortByValidity methods =
      methods.filter DeliveryData.isValid ++ methods.filter fun method => !method.isValid := by
  induction methods with
  | nil => rfl
  | cons method methods induction =>
      rw [sortByValidity] at induction
      rw [sortByValidity, List.insertionSort_cons, induction]
      cases valid : method.isValid with
      | true =>
          rw [orderedInsert_valid valid, List.filter_cons_of_pos valid,
            List.filter_cons_of_neg (by simp [valid]), List.cons_append]
      | false =>
          rw [orderedInsert_invalid valid, List.filter_cons_of_neg (by simp [valid]),
            List.filter_cons_of_pos (by simp [valid])]
          · intro other member
            exact (List.mem_filter.mp member).2
          · intro other member
            simpa using (List.mem_filter.mp member).2

theorem mem_sortByValidity {method : DeliveryData} {methods : List DeliveryData} :
    method ∈ sortByValidity methods ↔ method ∈ methods :=
  (List.perm_insertionSort _ methods).mem_iff

/-- All the values of a list that is not empty agree. -/
theorem oneValue_iff {values : List (Option String)} (nonempty : values ≠ []) :
    oneValue values = true ↔ ∀ left ∈ values, ∀ right ∈ values, left = right := by
  rw [oneValue, decide_eq_true_iff, List.length_eq_one_iff]
  constructor
  · rintro ⟨value, only⟩ left leftMember right rightMember
    rw [← List.mem_dedup, only, List.mem_singleton] at leftMember rightMember
    rw [leftMember, rightMember]
  · intro agree
    obtain ⟨value, member⟩ := List.exists_mem_of_ne_nil values nonempty
    have same : values = List.replicate values.length value :=
      List.eq_replicate_of_mem fun other listed => agree other listed value member
    rw [same, List.replicate_dedup (mt List.length_eq_zero_iff.mp nonempty)]
    exact ⟨value, rfl⟩

/-! ## What the order takes -/

theorem truthy_code {method : DeliveryData} (valid : method.isValid = true) :
    truthy method.code = true := by
  rw [DeliveryData.isValid, Bool.and_eq_true] at valid
  exact valid.2

theorem truthy_name {method : DeliveryData} (valid : method.isValid = true) :
    truthy method.name = true := by
  rw [DeliveryData.isValid, Bool.and_eq_true, Bool.and_eq_true] at valid
  exact valid.1.2

theorem ensureOne_all {fulfillmentOrders : List FulfillmentOrder}
    (complete : ∀ order ∈ fulfillmentOrders, order.deliveryMethod ≠ none) :
    (fulfillmentOrders.map (·.deliveryMethod)).mapM DeliveryMethod.ensureOne =
      .ok (fulfillmentOrders.filterMap (·.deliveryMethod)) := by
  induction fulfillmentOrders with
  | nil => rfl
  | cons head tail induction =>
      obtain ⟨data, sent⟩ := Option.ne_none_iff_exists'.mp (complete head List.mem_cons_self)
      rw [List.map_cons, List.mapM_cons, sent, List.filterMap_cons_some sent,
        induction fun other member => complete other (List.mem_cons_of_mem head member)]
      rfl

/-- A fulfillment order without a method raises. -/
theorem ensureOne_missing {fulfillmentOrders : List FulfillmentOrder} {order : FulfillmentOrder}
    (member : order ∈ fulfillmentOrders) (missing : order.deliveryMethod = none) :
    ∃ failure, (fulfillmentOrders.map (·.deliveryMethod)).mapM DeliveryMethod.ensureOne =
      .error failure := by
  induction fulfillmentOrders with
  | nil => contradiction
  | cons head tail induction =>
      rw [List.map_cons, List.mapM_cons]
      cases sent : head.deliveryMethod with
      | none => exact ⟨_, rfl⟩
      | some data =>
          cases List.mem_cons.mp member with
          | inl same => rw [same, sent] at missing; contradiction
          | inr later =>
              obtain ⟨failure, raised⟩ := induction later
              rw [raised]
              exact ⟨failure, rfl⟩

/-- What is found has the code, or the title where no method has the code. -/
theorem findByShippingLine_spec {methods : List DeliveryData} {line : ShippingLine}
    {method : DeliveryData} (found : findByShippingLine methods line = some method) :
    method.code = line.code ∨
      ((∀ other ∈ methods, other.code ≠ line.code) ∧ method.name = line.title) := by
  rw [findByShippingLine] at found
  cases byCode : methods.find? (·.code = line.code) with
  | some other =>
      rw [byCode, Option.some_inj] at found
      have code := List.find?_some byCode
      exact Or.inl (found ▸ of_decide_eq_true code)
  | none =>
      rw [byCode] at found
      dsimp only at found
      split_ifs at found
      have name := List.find?_some found
      refine Or.inr ⟨fun other member => ?_, of_decide_eq_true name⟩
      simpa using List.find?_eq_none.mp byCode other member

namespace Order

variable {order : Order} {first : DeliveryData}

theorem deliveryMethod_missing (incomplete : ¬ order.Complete) (chosen : DeliveryMethod) :
    order.deliveryMethod ≠ .ok chosen := by
  simp only [Complete, not_forall, not_not] at incomplete
  obtain ⟨fulfillmentOrder, member, missing⟩ := incomplete
  obtain ⟨failure, raised⟩ := ensureOne_missing member missing
  have nonempty : order.fulfillmentOrders.isEmpty = false := by
    rw [← Bool.not_eq_true, List.isEmpty_iff]
    exact List.ne_nil_of_mem member
  rw [deliveryMethod, raised, nonempty]
  rintro ⟨⟩

theorem deliveryMethod_complete (complete : order.Complete) :
    order.deliveryMethod = chooseMethod (sortByValidity order.methods) order.shippingLine := by
  rw [deliveryMethod, ensureOne_all complete]
  cases empty : order.fulfillmentOrders.isEmpty with
  | false => rfl
  | true => rw [methods, List.isEmpty_iff.mp empty]; rfl

/-- No valid method: the default. -/
theorem deliveryMethod_default (complete : order.Complete) (invalid : order.validMethods = []) :
    order.deliveryMethod = .ok none := by
  rw [deliveryMethod_complete complete, chooseMethod, if_pos]
  rw [List.all_eq_true]
  intro method member
  rw [mem_sortByValidity] at member
  rw [validMethods, List.filter_eq_nil_iff] at invalid
  simpa using invalid method member

theorem sorted_eq (head : order.validMethods.head? = some first) :
    ∃ rest, order.validMethods = first :: rest ∧ sortByValidity order.methods =
      first :: (rest ++ order.methods.filter fun method => !method.isValid) := by
  obtain ⟨rest, valid⟩ := List.head?_eq_some_iff.mp head
  refine ⟨rest, valid, ?_⟩
  rw [sortByValidity_eq]
  change order.validMethods ++ _ = _
  rw [valid, List.cons_append]

theorem isValid_of_mem {method : DeliveryData} (member : method ∈ order.validMethods) :
    method.isValid = true := (List.mem_filter.mp member).2

theorem first_mem (head : order.validMethods.head? = some first) :
    first ∈ order.validMethods := List.mem_of_mem_head? head

theorem mem_methods {method : DeliveryData} (member : method ∈ order.validMethods) :
    method ∈ order.methods := (List.mem_filter.mp member).1

theorem oneValue_sorted_iff (field : DeliveryData → Option String)
    (head : order.validMethods.head? = some first) :
    oneValue ((sortByValidity order.methods).map field) = true ↔
      ∀ left ∈ order.methods, ∀ right ∈ order.methods, field left = field right := by
  obtain ⟨rest, -, sorted⟩ := sorted_eq head
  have nonempty : (sortByValidity order.methods).map field ≠ [] := by simp [sorted]
  simp only [oneValue_iff nonempty, List.forall_mem_map, mem_sortByValidity]

/-- Where codes or names agree, or the shipping line is empty, the first valid method is taken. -/
def TakesFirst (order : Order) : Prop :=
  order.SameCodes ∨ order.SameNames ∨
    (truthy order.shippingLine.code = false ∧ truthy order.shippingLine.title = false)

theorem not_all_invalid (head : order.validMethods.head? = some first) :
    ¬ (sortByValidity order.methods).all (fun method => !method.isValid) = true := by
  intro all
  have invalid := List.all_eq_true.mp all first
    (mem_sortByValidity.mpr (mem_methods (first_mem head)))
  rw [isValid_of_mem (first_mem head)] at invalid
  exact Bool.false_ne_true invalid

/-- A single method agrees with itself. -/
theorem sameCodes_of_length (single : (sortByValidity order.methods).length = 1) :
    order.SameCodes := by
  obtain ⟨only, singleton⟩ := List.length_eq_one_iff.mp single
  have same : ∀ method ∈ order.methods, method = only := by
    intro method member
    rwa [← mem_sortByValidity, singleton, List.mem_singleton] at member
  intro left leftMember right rightMember
  rw [same left leftMember, same right rightMember]

theorem chooseMethod_first (head : order.validMethods.head? = some first)
    (takes : order.TakesFirst) :
    chooseMethod (sortByValidity order.methods) order.shippingLine = .ok (some first) := by
  obtain ⟨rest, -, sorted⟩ := sorted_eq head
  have sortedHead : (sortByValidity order.methods).head? = some first := by rw [sorted]; rfl
  rw [chooseMethod, if_neg (not_all_invalid head), sortedHead]
  split_ifs with single codes names texts
  · rfl
  · rfl
  · rfl
  · rfl
  · obtain sameCodes | sameNames | ⟨noCode, noTitle⟩ := takes
    · exact absurd ((oneValue_sorted_iff DeliveryData.code head).mpr sameCodes) codes
    · exact absurd ((oneValue_sorted_iff DeliveryData.name head).mpr sameNames) names
    · exact absurd (by rw [noCode, noTitle]; rfl) texts

theorem chooseMethod_search (head : order.validMethods.head? = some first)
    (searches : ¬ order.TakesFirst) :
    chooseMethod (sortByValidity order.methods) order.shippingLine =
      match findByShippingLine (sortByValidity order.methods) order.shippingLine with
      | some method => .ok (some method)
      | none => .error notParsed := by
  rw [TakesFirst, not_or, not_or] at searches
  obtain ⟨codes, names, texts⟩ := searches
  rw [chooseMethod, if_neg (not_all_invalid head), if_neg (mt sameCodes_of_length codes),
    if_neg (mt (oneValue_sorted_iff DeliveryData.code head).mp codes),
    if_neg (mt (oneValue_sorted_iff DeliveryData.name head).mp names), if_neg ?_]
  simpa using texts

/-- The first method that fits is valid if a valid one fits. -/
theorem find?_sorted {fits : DeliveryData → Bool}
    (some_fits : ∃ method ∈ order.validMethods, fits method = true) :
    ∃ method ∈ order.validMethods, fits method = true ∧
      (sortByValidity order.methods).find? fits = some method := by
  obtain ⟨method, found⟩ := Option.isSome_iff_exists.mp (List.find?_isSome.mpr some_fits)
  refine ⟨method, List.mem_of_find?_eq_some found, List.find?_some found, ?_⟩
  rw [sortByValidity_eq, List.find?_append]
  change (order.validMethods.find? fits).or _ = _
  rw [found, Option.some_or]

theorem search_code (matched : order.CodeMatches) :
    ∃ method ∈ order.validMethods, method.code = order.shippingLine.code ∧
      findByShippingLine (sortByValidity order.methods) order.shippingLine = some method := by
  have someFits : ∃ method ∈ order.validMethods,
      decide (method.code = order.shippingLine.code) = true := by
    simpa [CodeMatches] using matched
  obtain ⟨method, member, fits, found⟩ := find?_sorted someFits
  exact ⟨method, member, of_decide_eq_true fits, by rw [findByShippingLine, found]⟩

theorem search_name (matched : order.NameMatches)
    (free : ∀ method ∈ order.methods, method.code ≠ order.shippingLine.code) :
    ∃ method ∈ order.validMethods, method.name = order.shippingLine.title ∧
      findByShippingLine (sortByValidity order.methods) order.shippingLine = some method := by
  have noCode : (sortByValidity order.methods).find? (·.code = order.shippingLine.code) = none := by
    rw [List.find?_eq_none]
    intro method member
    simpa using free method (mem_sortByValidity.mp member)
  have title : truthy order.shippingLine.title = true := by
    obtain ⟨method, member, same⟩ := matched
    exact same ▸ truthy_name (isValid_of_mem member)
  have someFits : ∃ method ∈ order.validMethods,
      decide (method.name = order.shippingLine.title) = true := by
    simpa [NameMatches] using matched
  obtain ⟨method, member, fits, found⟩ := find?_sorted someFits
  refine ⟨method, member, of_decide_eq_true fits, ?_⟩
  rw [findByShippingLine, noCode]
  exact (if_pos title).trans found

/-! ## Which orders resolve -/

/-- Nothing matches an empty shipping line. -/
theorem not_matches_of_empty (noCode : truthy order.shippingLine.code = false)
    (noTitle : truthy order.shippingLine.title = false) :
    ¬ order.CodeMatches ∧ ¬ order.NameMatches := by
  constructor
  · rintro ⟨method, member, same⟩
    rw [← same, truthy_code (isValid_of_mem member)] at noCode
    contradiction
  · rintro ⟨method, member, same⟩
    rw [← same, truthy_name (isValid_of_mem member)] at noTitle
    contradiction

theorem preferred_first (head : order.validMethods.head? = some first) (takes : order.TakesFirst)
    (clear : order.Unambiguous first) : order.Preferred first := by
  have member := first_mem head
  obtain sameCodes | sameNames | ⟨noCode, noTitle⟩ := takes
  · refine ⟨member, ?_, ?_, fun _ _ => head⟩
    · rintro ⟨method, other, same⟩
      exact (sameCodes first (mem_methods member) method (mem_methods other)).trans same
    · intro noCode named
      obtain code | name | unnamed := clear.sameCodes sameCodes
      · exact absurd ⟨first, member, code⟩ noCode
      · exact name
      · exact absurd named unnamed
  · refine ⟨member, fun coded => ?_, ?_, fun _ _ => head⟩
    · obtain code | uncoded := clear.sameNames sameNames
      · exact code
      · exact absurd coded uncoded
    · rintro - ⟨method, other, same⟩
      exact (sameNames first (mem_methods member) method (mem_methods other)).trans same
  · obtain ⟨uncoded, unnamed⟩ := not_matches_of_empty noCode noTitle
    exact ⟨member, fun coded => absurd coded uncoded, fun _ named => absurd named unnamed,
      fun _ _ => head⟩

theorem carrierResolved_of_resolvable (resolvable : order.Resolvable) : order.CarrierResolved := by
  obtain ⟨complete, clear⟩ := resolvable
  cases head : order.validMethods.head? with
  | none =>
      have invalid := List.head?_eq_none_iff.mp head
      exact ⟨none, deliveryMethod_default complete invalid, fun valid => absurd invalid valid⟩
  | some first =>
      rw [CarrierResolved, deliveryMethod_complete complete]
      by_cases takes : order.TakesFirst
      · exact ⟨some first, chooseMethod_first head takes, fun _ =>
          ⟨first, rfl, preferred_first head takes (clear first head)⟩⟩
      · have search := chooseMethod_search head takes
        rw [TakesFirst, not_or, not_or, not_and_or] at takes
        obtain ⟨codes, names, texts⟩ := takes
        simp only [Bool.not_eq_false] at texts
        obtain coded | ⟨named, free⟩ := (clear first head).search codes names texts
        · obtain ⟨method, member, code, found⟩ := search_code coded
          rw [search, found]
          exact ⟨some method, rfl, fun _ => ⟨method, rfl, member, fun _ => code,
            fun uncoded => absurd coded uncoded, fun uncoded => absurd coded uncoded⟩⟩
        · have uncoded : ¬ order.CodeMatches := by
            rintro ⟨method, member, same⟩
            exact free method (mem_methods member) same
          obtain ⟨method, member, name, found⟩ := search_name named free
          rw [search, found]
          exact ⟨some method, rfl, fun _ => ⟨method, rfl, member, fun coded => absurd coded uncoded,
            fun _ _ => name, fun _ unnamed => absurd named unnamed⟩⟩

theorem unambiguous_of_preferred (head : order.validMethods.head? = some first)
    {method : DeliveryData} (preferred : order.Preferred method)
    (chosen : chooseMethod (sortByValidity order.methods) order.shippingLine = .ok (some method)) :
    order.Unambiguous first := by
  have isFirst : order.TakesFirst → first = method := by
    intro takes
    rw [chooseMethod_first head takes, Except.ok.injEq, Option.some_inj] at chosen
    exact chosen
  refine ⟨fun sameCodes => ?_, fun sameNames => ?_, fun codes names texts => ?_⟩
  · rw [isFirst (Or.inl sameCodes)]
    by_cases coded : order.CodeMatches
    · exact Or.inl (preferred.code coded)
    · exact Or.inr (or_not_of_imp (preferred.name coded))
  · rw [isFirst (Or.inr (Or.inl sameNames))]
    exact or_not_of_imp preferred.code
  · rw [or_iff_not_imp_left]
    intro uncoded
    have takes : ¬ order.TakesFirst := by
      rw [TakesFirst, not_or, not_or, not_and_or, Bool.not_eq_false, Bool.not_eq_false]
      exact ⟨codes, names, texts⟩
    rw [chooseMethod_search head takes] at chosen
    have found : findByShippingLine (sortByValidity order.methods) order.shippingLine =
        some method := by
      cases result : findByShippingLine (sortByValidity order.methods) order.shippingLine with
      | none => rw [result] at chosen; contradiction
      | some other =>
          rw [result, Except.ok.injEq] at chosen
          exact chosen
    obtain code | ⟨free, name⟩ := findByShippingLine_spec found
    · exact absurd ⟨method, preferred.valid, code⟩ uncoded
    · exact ⟨⟨method, preferred.valid, name⟩,
        fun other member => free other (mem_sortByValidity.mpr member)⟩

theorem resolvable_of_carrierResolved (resolved : order.CarrierResolved) : order.Resolvable := by
  obtain ⟨chosen, chose, takes⟩ := resolved
  have complete : order.Complete := by
    by_contra incomplete
    exact deliveryMethod_missing incomplete chosen chose
  refine ⟨complete, fun first head => ?_⟩
  obtain ⟨method, rfl, preferred⟩ := takes (List.ne_nil_of_mem (first_mem head))
  rw [deliveryMethod_complete complete] at chose
  exact unambiguous_of_preferred head preferred chose

/-- The carrier does not block the import exactly when every fulfillment order has a delivery method
and the first valid one, or the search, is not misled by the methods beside it. -/
theorem carrier_resolved_iff (order : Order) : order.CarrierResolved ↔ order.Resolvable :=
  ⟨resolvable_of_carrierResolved, carrierResolved_of_resolvable⟩

/-- Two carriers, and a shipping line that has the code of neither. -/
def twoCarriers : Order where
  fulfillmentOrders :=
    [⟨some ⟨1, some "Standard", some "std", .shipping⟩⟩,
      ⟨some ⟨2, some "Express", some "exp", .shipping⟩⟩]
  shippingLine := ⟨some "custom", some "Gift wrapping", true, false⟩

/-- The import is blocked by an order with two valid carriers, and by one where a fulfillment order
has none. -/
theorem unmatched_carrier_blocks :
    ¬ twoCarriers.CarrierResolved ∧
      ¬ CarrierResolved { twoCarriers with fulfillmentOrders := [⟨none⟩] } := by
  constructor
  · rintro ⟨chosen, chose, -⟩
    have raised : twoCarriers.deliveryMethod = .error notParsed := by decide +kernel
    rw [raised] at chose
    contradiction
  · rintro ⟨chosen, chose, -⟩
    contradiction

end Order

end OdooConnector.Resource
