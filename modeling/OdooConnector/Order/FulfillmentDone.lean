import OdooConnector.Order.ExternalFulfillment

/-!
# Done fulfillments were delivered

Imports, validations and exports are interleaved in any order. A record is done only when a
picking that held its lines was validated for it, or when the store made the fulfillment for an
exported picking, as long as every validation delivers what it marks done and every export leaves
no other record open.
-/

namespace OdooConnector.Order

/-- What can happen to the fulfillments of an order. -/
inductive FulfillmentAction where
  | importFulfillments (data : List FulfillmentData) (outcomes : ℕ → ValidationOutcome)
  | validate (index : ℕ) (outcome : ValidationOutcome)
  | exportTracking (pickings : List ℕ) (result : List FulfillmentData)
      (outcomes : ℕ → ValidationOutcome)
  | sendPicking (picking : ℕ) (result : List FulfillmentData)
      (outcomes : ℕ → ValidationOutcome)

namespace FulfilledOrder

def step (order : FulfilledOrder) : FulfillmentAction → FulfilledOrder
  | .importFulfillments data outcomes => order.applyValuesFromExternal none data outcomes
  | .validate index outcome => (order.validate index outcome).1
  | .exportTracking pickings result outcomes => order.exportTracking pickings result outcomes
  | .sendPicking picking result outcomes => order.sendPicking picking result outcomes

/-- An order with pickings and without external fulfillments. -/
def Fresh (order : FulfilledOrder) : Prop := order.fulfillments = []

/-- The store made the fulfillment for an exported picking, or a picking that held its lines was
validated for it and is done. -/
def Delivered (order : FulfilledOrder) (strId : String) : Prop :=
  strId ∈ order.exported ∨ ∃ delivery ∈ order.deliveries,
    delivery.fulfillment.externalStrId = strId ∧
      ∃ picking ∈ order.pickings, picking.id = delivery.picking.id ∧ picking.state = .done

/-- Done fulfillments were delivered. -/
def DoneDelivered (order : FulfilledOrder) : Prop :=
  ∀ record ∈ order.fulfillments, record.isDone = true → order.Delivered record.externalStrId

/-- Where a record is to be processed, a picking is pending for it, and the picking that holds its
lines is not left to a wizard. -/
def ValidationDelivers (order : FulfilledOrder) (index : ℕ) (outcome : ValidationOutcome) :
    Prop :=
  ∀ record, order.fulfillments[index]? = some record → record.isDone = false →
    record.isEcommerceOk = true → order.getPickings record ≠ [] ∧
      ((∃ picking ∈ order.getPickings record, picking.checkForFulfill record.lines = true) →
        outcome ≠ .wizard)

/-- The condition on the validations that follow reported fulfillments. -/
def ValidationsDeliver (order : FulfilledOrder) (status : Option InternalStatus)
    (data : List FulfillmentData) (outcomes : ℕ → ValidationOutcome) : Prop :=
  let order := order.storeFulfillments status data
  Along (fun order index => (order.validate index (outcomes index)).1)
    (fun order index => order.ValidationDelivers index (outcomes index)) order order.toValidate

/-- Every validation of the step delivers, and an export finds no record open that the store did
not make for an exported picking. -/
def StepDelivers (order : FulfilledOrder) : FulfillmentAction → Prop
  | .importFulfillments data outcomes => order.ValidationsDeliver none data outcomes
  | .validate index outcome => order.ValidationDelivers index outcome
  | .exportTracking pickings result outcomes =>
      ((order.recordExport result).markIntegrationSent pickings).ValidationsDeliver none result
        outcomes ∧
      (result ≠ [] → ∀ record ∈ (order.exportedOrder pickings result outcomes).fulfillments,
        record.isDone = false → record.externalStrId ∈
          (order.exportedOrder pickings result outcomes).exported)
  | .sendPicking picking result outcomes =>
      ((order.recordExport result).markIntegrationSent [picking]).ValidationsDeliver (some .done)
        result outcomes

/-! ## What no step takes back -/

/-- Exports and deliveries are remembered, and done pickings stay done. -/
structure Keeps (before after : FulfilledOrder) : Prop where
  exported : ∀ strId ∈ before.exported, strId ∈ after.exported
  deliveries : ∀ delivery ∈ before.deliveries, delivery ∈ after.deliveries
  pickings : ∀ picking ∈ before.pickings, picking.state = .done →
    ∃ kept ∈ after.pickings, kept.id = picking.id ∧ kept.state = .done

variable {order before after : FulfilledOrder} {strId : String}

theorem Keeps.delivered (keeps : Keeps before after) (delivered : before.Delivered strId) :
    after.Delivered strId := by
  cases delivered with
  | inl exported => exact Or.inl (keeps.exported _ exported)
  | inr validated =>
      obtain ⟨delivery, member, same, picking, listed, own, done⟩ := validated
      obtain ⟨kept, listed', own', done'⟩ := keeps.pickings picking listed done
      exact Or.inr ⟨delivery, keeps.deliveries _ member, same, kept, listed', own'.trans own, done'⟩

theorem Keeps.modifyRecord (keeps : Keeps before after) (index : ℕ)
    (change : ExternalOrderFulfillment → ExternalOrderFulfillment) :
    Keeps before (after.modifyRecord index change) :=
  ⟨keeps.exported, keeps.deliveries, keeps.pickings⟩

theorem Keeps.refl (order : FulfilledOrder) : Keeps order order :=
  ⟨fun _ member => member, fun _ member => member, fun picking member done =>
    ⟨picking, member, rfl, done⟩⟩

theorem Keeps.modifyPickings (keeps : Keeps before after) (ids : List ℕ)
    (change : DeliveryPicking → DeliveryPicking)
    (sameId : ∀ picking, (change picking).id = picking.id)
    (staysDone : ∀ picking, picking.state = .done → (change picking).state = .done) :
    Keeps before (after.modifyPickings ids change) := by
  refine ⟨keeps.exported, keeps.deliveries, fun picking member done => ?_⟩
  obtain ⟨kept, listed, own, done'⟩ := keeps.pickings picking member done
  refine ⟨_, List.mem_map_of_mem listed, ?_⟩
  split
  · exact ⟨(sameId kept).trans own, staysDone kept done'⟩
  · exact ⟨own, done'⟩

theorem Keeps.markIntegrationSent (keeps : Keeps before after) (ids : List ℕ) :
    Keeps before (after.markIntegrationSent ids) :=
  keeps.modifyPickings ids _ (fun _ => rfl) fun _ done => done

theorem Keeps.deliver (keeps : Keeps before after) (delivery : Delivery)
    (backorders : List DeliveryPicking) : Keeps before (after.deliver delivery backorders) := by
  have delivered := keeps.modifyPickings [delivery.picking.id]
    (fun picking => { picking with state := .done }) (fun _ => rfl) (fun _ _ => rfl)
  refine ⟨keeps.exported, fun other member => ?_, fun picking member done => ?_⟩
  · exact List.mem_append_left _ (keeps.deliveries other member)
  · obtain ⟨kept, listed, own⟩ := delivered.pickings picking member done
    exact ⟨kept, List.mem_append_left _ listed, own⟩

/-- Records that are done after a change were done before, or were delivered. -/
theorem DoneDelivered.of_keeps (holds : before.DoneDelivered) (keeps : Keeps before after)
    (records : ∀ record ∈ after.fulfillments, record.isDone = true →
      after.Delivered record.externalStrId ∨ ∃ earlier ∈ before.fulfillments,
        earlier.isDone = true ∧ earlier.externalStrId = record.externalStrId) :
    after.DoneDelivered := by
  intro record member done
  cases records record member done with
  | inl delivered => exact delivered
  | inr earlier =>
      obtain ⟨earlier, member', done', same⟩ := earlier
      exact same ▸ keeps.delivered (holds earlier member' done')

theorem DoneDelivered.modifyRecord (holds : order.DoneDelivered) {index : ℕ}
    {change : ExternalOrderFulfillment → ExternalOrderFulfillment}
    (sameId : ∀ record, (change record).externalStrId = record.externalStrId)
    (justified : ∀ record, order.fulfillments[index]? = some record →
      (change record).isDone = true → record.isDone = true ∨ order.Delivered record.externalStrId) :
    (order.modifyRecord index change).DoneDelivered := by
  have keeps := (Keeps.refl order).modifyRecord index change
  refine holds.of_keeps keeps fun record member done => ?_
  cases mem_modify member with
  | inl kept => exact Or.inr ⟨record, kept, done, rfl⟩
  | inr changed =>
      obtain ⟨old, found, rfl⟩ := changed
      rw [sameId]
      cases justified old found done with
      | inl before => exact Or.inr ⟨old, List.mem_of_getElem? found, before, rfl⟩
      | inr delivered => exact Or.inl (keeps.delivered delivered)

theorem DoneDelivered.modifyPickings (holds : order.DoneDelivered) (ids : List ℕ)
    (change : DeliveryPicking → DeliveryPicking)
    (sameId : ∀ picking, (change picking).id = picking.id)
    (staysDone : ∀ picking, picking.state = .done → (change picking).state = .done) :
    (order.modifyPickings ids change).DoneDelivered :=
  holds.of_keeps ((Keeps.refl order).modifyPickings ids change sameId staysDone)
    fun record member done => Or.inr ⟨record, member, done, rfl⟩

theorem DoneDelivered.markIntegrationSent (holds : order.DoneDelivered) (ids : List ℕ) :
    (order.markIntegrationSent ids).DoneDelivered :=
  holds.modifyPickings ids _ (fun _ => rfl) fun _ done => done

theorem DoneDelivered.deliver (holds : order.DoneDelivered) (delivery : Delivery)
    (backorders : List DeliveryPicking) : (order.deliver delivery backorders).DoneDelivered :=
  holds.of_keeps ((Keeps.refl order).deliver delivery backorders) fun record member done =>
    Or.inr ⟨record, member, done, rfl⟩

/-- A delivery is remembered, and its picking is done. -/
theorem delivered_deliver {delivery : Delivery} (listed : delivery.picking ∈ order.pickings)
    (backorders : List DeliveryPicking) :
    (order.deliver delivery backorders).Delivered delivery.fulfillment.externalStrId := by
  refine Or.inr ⟨delivery, List.mem_append_right _ (List.mem_singleton_self _), rfl, ?_⟩
  refine ⟨{ delivery.picking with state := .done }, List.mem_append_left _ ?_, rfl, rfl⟩
  refine List.mem_map.mpr ⟨delivery.picking, listed, ?_⟩
  rw [if_pos (List.mem_singleton_self _)]

theorem mem_pickings_of_getPickings {record : ExternalOrderFulfillment} {picking : DeliveryPicking}
    (member : picking ∈ order.getPickings record) : picking ∈ order.pickings := by
  rw [getPickings] at member
  split at member
  · split at member
    · exact List.mem_of_mem_filter (List.mem_of_mem_filter member)
    · exact List.mem_of_mem_filter member
  · exact List.mem_of_mem_filter member

/-- A validation that delivers what it marks done keeps the invariant. -/
theorem DoneDelivered.validateRecord (holds : order.DoneDelivered) {index : ℕ}
    {record : ExternalOrderFulfillment} {outcome : ValidationOutcome}
    (found : order.fulfillments[index]? = some record)
    (delivers : record.isDone = false → record.isEcommerceOk = true →
      order.getPickings record ≠ [] ∧
        ((∃ picking ∈ order.getPickings record, picking.checkForFulfill record.lines = true) →
          outcome ≠ .wizard)) :
    (order.validateRecord index record outcome).1.DoneDelivered := by
  have cleared : (order.modifyRecord index fun record => record.setInfo none).DoneDelivered :=
    holds.modifyRecord (fun _ => rfl) fun _ _ done => Or.inl done
  have listed : (order.modifyRecord index fun record =>
      record.setInfo none).fulfillments[index]? = some (record.setInfo none) := by
    rw [FulfilledOrder.modifyRecord, List.getElem?_modify_eq, found]
    rfl
  rw [FulfilledOrder.validateRecord]
  split
  · exact cleared
  · rename_i notDone
    have opened : record.isDone = false := by simpa using notDone
    split
    · exact cleared.modifyRecord (fun _ => rfl) fun _ _ done => by simp at done
    · rename_i ok
      have success : record.isEcommerceOk = true := by simpa using ok
      obtain ⟨pending, automatic⟩ := delivers opened success
      split
      · contradiction
      · split
        · exact cleared.modifyRecord (fun _ => rfl) fun _ _ done => Or.inl done
        · rename_i picking found'
          have member := List.mem_of_find?_eq_some found'
          have matched : picking.checkForFulfill record.lines = true := by
            simpa using List.find?_some found'
          have pickings : picking ∈ order.pickings := mem_pickings_of_getPickings member
          let delivery : Delivery := ⟨index, record, picking, matched⟩
          cases outcome with
          | error message =>
              exact cleared.modifyRecord (fun _ => rfl) fun _ _ done => by simp at done
          | errorAfter backorders message =>
              exact (cleared.deliver delivery backorders).modifyRecord (fun _ => rfl)
                fun _ _ done => by simp at done
          | wizard => exact absurd rfl (automatic ⟨picking, member, matched⟩)
          | validated backorders =>
              have delivered : ((order.modifyRecord index fun record =>
                  record.setInfo none).deliver delivery backorders).Delivered
                    record.externalStrId := delivered_deliver pickings backorders
              have sent := (cleared.deliver delivery backorders).markIntegrationSent [picking.id]
              refine sent.modifyRecord (fun _ => rfl) fun other found'' _ => Or.inr ?_
              obtain rfl : record.setInfo none = other :=
                Option.some_inj.1 (listed.symm.trans found'')
              exact ((Keeps.refl _).markIntegrationSent [picking.id]).delivered delivered

theorem DoneDelivered.validate (holds : order.DoneDelivered) {index : ℕ}
    {outcome : ValidationOutcome} (delivers : order.ValidationDelivers index outcome) :
    (order.validate index outcome).1.DoneDelivered := by
  rw [FulfilledOrder.validate]
  split
  · rename_i record found
    exact holds.validateRecord found (delivers record found)
  · exact holds

/-- Stored reports are done only when they are stored as done. -/
theorem DoneDelivered.storeFulfillments {status : Option InternalStatus}
    {data : List FulfillmentData} (holds : order.DoneDelivered)
    (exported : status = some .done → ∀ report ∈ data, report.externalStrId ∈ order.exported) :
    (order.storeFulfillments status data).DoneDelivered := by
  have keeps : Keeps order (order.storeFulfillments status data) :=
    ⟨fun _ member => member, fun _ member => member, (Keeps.refl order).pickings⟩
  refine forall_upsertBatch holds (fun report mem record same start done => ?_) ?_
  · cases status with
    | none =>
        have before : order.Delivered record.externalStrId := start done
        exact keeps.delivered (same ▸ before)
    | some status =>
        have stored : status = .done := of_decide_eq_true done
        exact Or.inl (exported (congrArg some stored) report mem)
  · intro report mem done
    cases status with
    | none => simp [ExternalOrderFulfillment.create, ExternalOrderFulfillment.isDone] at done
    | some status =>
        have stored : status = .done := of_decide_eq_true done
        exact Or.inl (exported (congrArg some stored) report mem)

/-- Validations that deliver keep the invariant after reports have been stored. -/
theorem DoneDelivered.applyValuesFromExternal {status : Option InternalStatus}
    {data : List FulfillmentData} {outcomes : ℕ → ValidationOutcome}
    (holds : order.DoneDelivered)
    (exported : status = some .done → ∀ report ∈ data, report.externalStrId ∈ order.exported)
    (deliver : order.ValidationsDeliver status data outcomes) :
    (order.applyValuesFromExternal status data outcomes).DoneDelivered := by
  have stored := holds.storeFulfillments exported
  rw [FulfilledOrder.applyValuesFromExternal]
  split
  · rw [integrationApplyExternalFulfillments]
    split
    · exact runSteps_invariant (fun _ _ holds delivers => holds.validate delivers) stored deliver
    · exact stored
  · exact stored

theorem DoneDelivered.recordExport (holds : order.DoneDelivered) (result : List FulfillmentData) :
    (order.recordExport result).DoneDelivered :=
  holds.of_keeps ⟨fun _ member => List.mem_append_left _ member, fun _ member => member,
    (Keeps.refl order).pickings⟩ fun record member done => Or.inr ⟨record, member, done, rfl⟩

theorem mem_recordExport {result : List FulfillmentData} {ids : List ℕ} :
    ∀ report ∈ result,
      report.externalStrId ∈ ((order.recordExport result).markIntegrationSent ids).exported :=
  fun _ member => List.mem_append_right _ (List.mem_map_of_mem member)

/-- Marking every record done is right once the open ones are the store's answers to exports. -/
theorem DoneDelivered.markDone (holds : order.DoneDelivered)
    (exported : ∀ record ∈ order.fulfillments, record.isDone = false →
      record.externalStrId ∈ order.exported) : order.markDone.DoneDelivered := by
  refine holds.of_keeps ⟨fun _ member => member, fun _ member => member,
    (Keeps.refl order).pickings⟩ fun record member _ => ?_
  obtain ⟨earlier, listed, rfl⟩ := List.mem_map.mp member
  cases done : earlier.isDone with
  | true => exact Or.inr ⟨earlier, listed, done, rfl⟩
  | false => exact Or.inl (Or.inl (exported earlier listed done))

/-- A step that delivers what it marks done keeps the invariant. -/
theorem DoneDelivered.step (holds : order.DoneDelivered) {action : FulfillmentAction}
    (delivers : order.StepDelivers action) : (order.step action).DoneDelivered := by
  cases action with
  | importFulfillments data outcomes =>
      exact holds.applyValuesFromExternal (fun impossible => by contradiction) delivers
  | validate index outcome => exact holds.validate delivers
  | exportTracking pickings result outcomes =>
      obtain ⟨validations, answers⟩ := delivers
      rw [FulfilledOrder.step, FulfilledOrder.exportTracking]
      split
      · exact holds
      · rename_i answered
        have sent := (holds.recordExport result).markIntegrationSent pickings
        have applied : (order.exportedOrder pickings result outcomes).DoneDelivered :=
          sent.applyValuesFromExternal (fun impossible => by contradiction) validations
        exact applied.markDone (answers answered)
  | sendPicking picking result outcomes =>
      rw [FulfilledOrder.step, FulfilledOrder.sendPicking]
      split
      · exact holds
      · have sent := (holds.recordExport result).markIntegrationSent [picking]
        exact sent.applyValuesFromExternal (fun _ => mem_recordExport) delivers

/-- In every run whose steps deliver what they mark done, done fulfillments were delivered. -/
theorem fulfillment_done_delivered {order : FulfilledOrder} (fresh : order.Fresh)
    {actions : List FulfillmentAction} (deliver : Along step StepDelivers order actions) :
    (runSteps step order actions).DoneDelivered := by
  have start : order.DoneDelivered := by
    intro record member
    rw [fresh] at member
    exact absurd member List.not_mem_nil
  exact runSteps_invariant (fun _ _ holds delivers => holds.step delivers) start deliver

/-! ## Parcels of a hat and a shirt -/

/-- One picking is delivered and not yet exported, the other one holds a hat and is pending. -/
def hatOrder : FulfilledOrder where
  pickings := [⟨1, .done, [], none, false⟩,
    ⟨2, .assigned, [⟨.assigned, "hat", 1, 1, some 1⟩], none, false⟩]
  fulfillments := []
  isConfirmed := true
  isAvailableMultiStock := false
  applyExternalFulfillments := true
  whFromExternalLocation _ := none
  deliveries := []
  exported := []

/-- The store has sent one piece of an order line. -/
def parcel (strId line : String) : FulfillmentData := ⟨strId, "success", "7", [⟨line, 1⟩]⟩

/-- The hat's picking is validated for the hat's parcel. -/
theorem fulfillment_done_delivered_hat :
    (runSteps step hatOrder
      [.importFulfillments [parcel "F1" "hat"] fun _ => .validated []]).DoneDelivered := by
  refine fulfillment_done_delivered (show hatOrder.Fresh from rfl) ⟨?_, trivial⟩
  change ValidationDelivers _ 0 (.validated []) ∧ True
  refine ⟨fun record found _ _ => ⟨?_, fun _ => by simp⟩, trivial⟩
  rw [← Option.some_inj.1 found]
  exact List.cons_ne_nil _ _

/-- A parcel of a coat matches no pending picking. It is left open by its import, and exporting
the delivered picking marks it done. The hat's parcel is marked done as well when validating its
picking only opens a wizard. -/
theorem fulfillment_done_not_delivered :
    ¬ (runSteps step hatOrder [.importFulfillments [parcel "F1" "coat"] fun _ => .validated [],
      .exportTracking [1] [parcel "F2" "shirt"] fun _ => .validated []]).DoneDelivered ∧
    ¬ (runSteps step hatOrder
      [.importFulfillments [parcel "F1" "hat"] fun _ => .wizard]).DoneDelivered := by
  constructor
  · intro holds
    cases holds ⟨parcel "F1" "coat", .done, some _⟩ List.mem_cons_self rfl with
    | inl exported => exact absurd exported (by decide)
    | inr validated =>
        obtain ⟨delivery, member, _⟩ := validated
        exact absurd member List.not_mem_nil
  · intro holds
    cases holds ⟨parcel "F1" "hat", .done, none⟩ List.mem_cons_self rfl with
    | inl exported => exact absurd exported List.not_mem_nil
    | inr validated =>
        obtain ⟨delivery, member, _⟩ := validated
        exact absurd member List.not_mem_nil

end FulfilledOrder

end OdooConnector.Order
