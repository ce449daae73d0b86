import OdooConnector.Library.Attempt
import OdooConnector.Order.ShippedQuantities
import OdooConnector.Payment.FailedPayment

/-!
# Failed validations of fulfillments

`_validate` of a fulfillment writes quantities, the tracking number and the carrier on a picking
before it presses the button. Errors are caught around all of it.
-/

namespace OdooConnector.Order

/-- A picking with the fields that a validation writes. -/
structure OpenPicking where
  id : ℕ
  state : PickingState
  warehouseId : Option ℕ
  moveIds : List StockMove
  carrierTrackingRef : String
  carrierId : Option ℕ
  trackingExported : Bool

/-- A record of a fulfillment with its tracking. -/
structure TrackedFulfillment where
  externalStrId : String
  externalStatus : String
  externalLocationId : String
  trackingNumber : String
  trackingCompany : String
  lineIds : List ShippedLine
  internalStatus : InternalStatus
  internalInfo : Option String

/-- Odoo's kits, carriers and warehouses. -/
structure Stock where
  kits : Kits
  isAvailableMultiStock : Bool
  whFromExternalLocation : String → Option ℕ
  searchCarrier : String → Option ℕ

/-- What `button_validate` does with the pickings of the order: it returns, it refuses without a
change, or an error interrupts it after changes. -/
inductive ButtonOutcome where
  | returned (pickings : List OpenPicking)
  | refused (message : String)
  | interrupted (pickings : List OpenPicking) (message : String)

/-- The errors that the writes of a validation raise, and what the button does. -/
structure ValidationErrors where
  quantity : StockMoveLine → ℚ≥0 → Option String
  carrierTrackingRef : Option String
  carrierId : Option String
  button : List OpenPicking → ℕ → ButtonOutcome

/-! ## Quantities, up to the first error -/

section

variable (raises : StockMoveLine → ℚ≥0 → Option String)

/-- Write the quantity of a move line, if this does not raise. -/
def writeQuantity {σ : Type} (line : StockMoveLine) (value : ℚ≥0) (next : σ) :
    StockMoveLine × Except String σ :=
  match raises line value with
  | some message => (line, .error message)
  | none => (line.setQuantity value, .ok next)

def attemptLine (fulfillQuantity : ℚ≥0) (line : StockMoveLine) :
    StockMoveLine × Except String ℚ≥0 :=
  if fulfillQuantity = 0 then (line, .ok fulfillQuantity)
  else
    let qtyDemand := line.quantityProductUom
    if qtyDemand ≤ fulfillQuantity then
      writeQuantity raises line qtyDemand (fulfillQuantity - qtyDemand)
    else writeQuantity raises line fulfillQuantity fulfillQuantity

def attemptMove (lineId : String) (qtyDict : ℕ → ℚ≥0) (move : StockMove) :
    StockMove × Except String (ℕ → ℚ≥0) :=
  if move.isOf lineId then
    let (lines, left) := attemptMap (attemptLine raises) (qtyDict move.productId) move.moveLineIds
    ({ move with moveLineIds := lines }, left.map (Function.update qtyDict move.productId))
  else (move, .ok qtyDict)

/-- Handle a line of the fulfillment. -/
def attemptHandle (kits : Kits) (line : ShippedLine) (moves : List StockMove) :
    List StockMove × Except String Unit :=
  match moves.find? fun move => move.isOf line.externalStrId with
  | some first =>
      let (moves, result) := attemptMap (attemptMove raises line.externalStrId)
        (qtyDict kits first.saleProductId line.quantity) moves
      (moves, result.map fun _ => ())
  | none => (moves, .ok ())

/-- Empty a move that belongs to no line of the fulfillment. -/
def attemptSkip (lines : List ShippedLine) (_ : Unit) (move : StockMove) :
    StockMove × Except String Unit :=
  if lines.any fun line => move.isOf line.externalStrId then (move, .ok ())
  else
    let (moveLines, result) := attemptMap (fun _ line => writeQuantity raises line 0 ()) ()
      move.moveLineIds
    ({ move with moveLineIds := moveLines }, result)

/-- The quantity assignment of `_validate_external_fulfillment`, up to the first error. -/
def attemptQuantities (kits : Kits) (lines : List ShippedLine) (moves : List StockMove) :
    List StockMove × Except String Unit :=
  attemptAll ((attemptMap (attemptSkip raises lines) ()) :: lines.map (attemptHandle raises kits))
    moves

variable {raises} {lineId : String}

theorem writeQuantity_eq_ok {σ : Type} {line written : StockMoveLine} {value : ℚ≥0}
    {next after : σ} (goes : writeQuantity raises line value next = (written, .ok after)) :
    written = line.setQuantity value ∧ after = next := by
  rw [writeQuantity] at goes
  cases error : raises line value with
  | some message =>
      rw [error] at goes
      cases goes
  | none =>
      rw [error] at goes
      cases goes
      exact ⟨rfl, rfl⟩

/-- Without an error, the lines of a move are filled. -/
theorem attemptLine_eq_ok {quantity left : ℚ≥0} {lines filled : List StockMoveLine}
    (goes : attemptMap (attemptLine raises) quantity lines = (filled, .ok left)) :
    fillLines quantity lines = (filled, left) := by
  induction lines generalizing quantity filled with
  | nil =>
      cases goes
      rfl
  | cons line lines induction =>
      obtain ⟨written, after, others, first, rest, rfl⟩ := attemptMap_cons_eq_ok goes
      have filled := induction rest
      rw [attemptLine] at first
      rw [fillLines]
      by_cases empty : quantity = 0
      · rw [if_pos empty] at first ⊢
        cases first
        rw [filled]
      · rw [if_neg empty] at first ⊢
        dsimp only at first ⊢
        split_ifs at first ⊢
        · obtain ⟨rfl, rfl⟩ := writeQuantity_eq_ok first
          rw [filled]
        · obtain ⟨rfl, rfl⟩ := writeQuantity_eq_ok first
          rw [filled]

/-- Without an error, the moves of an external line are filled. -/
theorem attemptMove_eq_ok {dict left : ℕ → ℚ≥0} {moves filled : List StockMove}
    (goes : attemptMap (attemptMove raises lineId) dict moves = (filled, .ok left)) :
    fillMoves lineId dict moves = filled := by
  induction moves generalizing dict filled with
  | nil =>
      cases goes
      rfl
  | cons move moves induction =>
      obtain ⟨written, after, others, first, rest, rfl⟩ := attemptMap_cons_eq_ok goes
      have filled := induction rest
      rw [attemptMove] at first
      rw [fillMoves]
      split_ifs at first ⊢
      · cases result : attemptMap (attemptLine raises) (dict move.productId) move.moveLineIds with
        | mk lines ended =>
            rw [result] at first
            cases ended with
            | error message => cases first
            | ok left =>
                cases first
                rw [attemptLine_eq_ok result]
                dsimp only
                rw [filled]
      · cases first
        rw [filled]

variable {kits : Kits} {lines : List ShippedLine} {moves after : List StockMove}

theorem attemptHandle_eq_ok {line : ShippedLine}
    (goes : attemptHandle raises kits line moves = (after, .ok ())) :
    handleLine kits moves line = after := by
  rw [attemptHandle] at goes
  rw [handleLine]
  cases found : moves.find? fun move => move.isOf line.externalStrId with
  | none =>
      rw [found] at goes
      cases goes
      rfl
  | some first =>
      rw [found] at goes
      dsimp only at goes ⊢
      cases result : attemptMap (attemptMove raises line.externalStrId)
          (qtyDict kits first.saleProductId line.quantity) moves with
      | mk filled ended =>
          rw [result] at goes
          cases ended with
          | error message => cases goes
          | ok left =>
              cases goes
              exact attemptMove_eq_ok result

theorem attemptSkip_eq_ok
    (goes : attemptMap (attemptSkip raises lines) () moves = (after, .ok ())) :
    skipRest lines moves = after := by
  have emptied {moveLines left : List StockMoveLine}
      (goes : attemptMap (fun _ line => writeQuantity raises line 0 ()) () moveLines =
        (left, .ok ())) : moveLines.map (fun line => line.setQuantity 0) = left := by
    induction moveLines generalizing left with
    | nil =>
        cases goes
        rfl
    | cons line moveLines induction =>
        obtain ⟨written, _, others, first, rest, rfl⟩ := attemptMap_cons_eq_ok goes
        rw [List.map_cons, induction rest, (writeQuantity_eq_ok first).1]
  induction moves generalizing after with
  | nil =>
      cases goes
      rfl
  | cons move moves induction =>
      obtain ⟨written, _, others, first, rest, rfl⟩ := attemptMap_cons_eq_ok goes
      have skipped := induction rest
      rw [attemptSkip] at first
      rw [skipRest] at skipped ⊢
      rw [List.map_cons, skipped]
      congr 1
      split_ifs at first ⊢
      · cases first
        rfl
      · cases result : attemptMap (fun _ line => writeQuantity raises line 0 ()) ()
            move.moveLineIds with
        | mk left ended =>
            rw [result] at first
            cases first
            rw [StockMove.skip, emptied result]

theorem attemptHandles_eq_ok
    (goes : attemptAll (lines.map (attemptHandle raises kits)) moves = (after, .ok ())) :
    lines.foldl (handleLine kits) moves = after := by
  induction lines generalizing moves with
  | nil =>
      cases goes
      rfl
  | cons line lines induction =>
      obtain ⟨filled, first, rest⟩ := attemptAll_cons_eq_ok goes
      rw [List.foldl_cons, attemptHandle_eq_ok first]
      exact induction rest

/-- Without an error, all quantities are assigned. -/
theorem attemptQuantities_eq_ok
    (goes : attemptQuantities raises kits lines moves = (after, .ok ())) :
    assignQuantities kits lines moves = after := by
  obtain ⟨skipped, first, rest⟩ := attemptAll_cons_eq_ok goes
  rw [assignQuantities, attemptSkip_eq_ok first]
  exact attemptHandles_eq_ok rest

end

/-! ## The validation -/

namespace OpenPicking

variable (picking : OpenPicking)

/-- `_filter_pickings_to_handle` selects the picking. -/
def toHandle : Bool := picking.state = .confirmed || picking.state = .assigned

def checkQtyAvailability (lineId : String) (qty : ℕ) : Bool :=
  (picking.moveIds.filter fun move => move.isOf lineId).any fun move => qty ≤ move.qtyToDeliver

def checkForFulfill (lines : List ShippedLine) : Bool :=
  lines.all fun line => picking.checkQtyAvailability line.externalStrId line.quantity

end OpenPicking

namespace TrackedFulfillment

variable (record : TrackedFulfillment)

def isDone : Bool := record.internalStatus = .done

def isEcommerceOk : Bool := record.externalStatus = "success"

def setInfo (info : Option String) : TrackedFulfillment := { record with internalInfo := info }

def mark (status : InternalStatus) : TrackedFulfillment :=
  { record with internalStatus := status }

end TrackedFulfillment

/-- Write a field of a picking, if this does not raise. -/
def writeField (raises : Option String) (written : OpenPicking) (picking : OpenPicking) :
    OpenPicking × Except String Unit :=
  match raises with
  | some message => (picking, .error message)
  | none => (written, .ok ())

namespace Stock

variable (stock : Stock) (errors : ValidationErrors) (record : TrackedFulfillment)

/-- What `_validate_external_fulfillment` writes on a picking before it presses the button. -/
def attemptWrites : OpenPicking → OpenPicking × Except String Unit :=
  attemptAll
    [fun picking =>
      let (moves, result) := attemptQuantities errors.quantity stock.kits record.lineIds
        picking.moveIds
      ({ picking with moveIds := moves }, result),
    fun picking =>
      if record.trackingNumber = "" then (picking, .ok ())
      else writeField errors.carrierTrackingRef
        { picking with carrierTrackingRef := record.trackingNumber } picking,
    fun picking =>
      if record.trackingCompany = "" then (picking, .ok ())
      else writeField errors.carrierId
        { picking with carrierId := stock.searchCarrier record.trackingCompany } picking]

/-- `_validate_external_fulfillment` of a picking of the order. -/
def validateExternalFulfillment (index : ℕ) (picking : OpenPicking) (pickings : List OpenPicking) :
    List OpenPicking × Except String Unit :=
  let (written, result) := stock.attemptWrites errors record picking
  let pickings := pickings.set index written
  match result with
  | .error message => (pickings, .error message)
  | .ok () =>
      match errors.button pickings picking.id with
      | .returned after => (after, .ok ())
      | .refused message => (pickings, .error message)
      | .interrupted after message => (after, .error message)

/-- A pending picking, of the fulfillment's warehouse if there are several. -/
def isPending (picking : OpenPicking) : Bool :=
  picking.toHandle &&
    if stock.isAvailableMultiStock then
      match stock.whFromExternalLocation record.externalLocationId with
      | some warehouse => picking.warehouseId = some warehouse
      | none => true
    else true

/-- First pending picking that holds all lines of the fulfillment, with its position. -/
def findPicking (pickings : List OpenPicking) : Option (OpenPicking × ℕ) :=
  pickings.zipIdx.find? fun entry =>
    stock.isPending record entry.1 && entry.1.checkForFulfill record.lineIds

/-- `_validate` of a record that is not done: the status that it is marked with, if any, and its
information; the pickings, whether it succeeded, and the validated picking. -/
def validateOpen (pickings : List OpenPicking) :
    (Option InternalStatus × Option String) × List OpenPicking × Bool × List ℕ :=
  if !record.isEcommerceOk then
    ((some .skipped, some "Fulfillment skipped - external status does not allow processing"),
      pickings, false, [])
  else if !pickings.any (stock.isPending record) then
    ((some .done, some "No pending deliveries found for this order"), pickings, true, [])
  else
    match stock.findPicking record pickings with
    | none =>
        ((none, some "No matching delivery found for the fulfilled items"), pickings, false, [])
    | some (picking, index) =>
        match stock.validateExternalFulfillment errors record index picking pickings with
        | (after, .error message) =>
            ((some .failed, some ("Delivery validation failed: " ++ message)), after, false, [])
        | (after, .ok ()) =>
            ((some .done, none), after.map fun other =>
              if other.id = picking.id then { other with trackingExported := true } else other,
              true, [picking.id])

/-- `_validate`: the record and the pickings after it, whether it succeeded, and the validated
picking. -/
def validate (pickings : List OpenPicking) :
    TrackedFulfillment × List OpenPicking × Bool × List ℕ :=
  if record.isDone then (record.setInfo none, pickings, true, [])
  else
    let ((status, info), acts) := stock.validateOpen errors record pickings
    ((record.mark (status.getD record.internalStatus)).setInfo info, acts)

/-! ## Traces of a failure -/

/-- If a validation fails, the pickings are as before, the record is but for its status and
information, and a later validation does to the pickings what it would have done before. -/
def FailureLeavesNoTrace (pickings : List OpenPicking) : Prop :=
  let (after, pickingsAfter, result, _) := stock.validate errors record pickings
  result = false → pickingsAfter = pickings ∧
    (after.mark record.internalStatus).setInfo record.internalInfo = record ∧
    ∀ later, (stock.validate later after pickingsAfter).2 = (stock.validate later record pickings).2

/-- The picking with everything that a validation writes on it before the button is pressed. -/
def prepared (picking : OpenPicking) : OpenPicking :=
  { picking with
    moveIds := assignQuantities stock.kits record.lineIds picking.moveIds
    carrierTrackingRef :=
      if record.trackingNumber = "" then picking.carrierTrackingRef else record.trackingNumber
    carrierId :=
      if record.trackingCompany = "" then picking.carrierId
      else stock.searchCarrier record.trackingCompany }

/-- The move lines hold already what the validation assigns to them. -/
def QuantitiesThere (picking : OpenPicking) : Prop :=
  assignQuantities stock.kits record.lineIds picking.moveIds = picking.moveIds

/-- The picking has already the tracking number of the fulfillment, if there is one. -/
def NumberThere (picking : OpenPicking) : Prop :=
  record.trackingNumber = "" ∨ picking.carrierTrackingRef = record.trackingNumber

/-- The picking has already the carrier of the fulfillment, if there is one. -/
def CarrierThere (picking : OpenPicking) : Prop :=
  record.trackingCompany = "" ∨ picking.carrierId = stock.searchCarrier record.trackingCompany

/-- What is written on the picking before an error is there already. -/
def WritesThere (index : ℕ) (picking : OpenPicking) (pickings : List OpenPicking) : Prop :=
  match attemptQuantities errors.quantity stock.kits record.lineIds picking.moveIds with
  | (moves, .error _) => moves = picking.moveIds
  | (_, .ok ()) =>
      if record.trackingNumber ≠ "" ∧ errors.carrierTrackingRef.isSome then
        stock.QuantitiesThere record picking
      else if record.trackingCompany ≠ "" ∧ errors.carrierId.isSome then
        stock.QuantitiesThere record picking ∧ NumberThere record picking
      else
        match errors.button (pickings.set index (stock.prepared record picking)) picking.id with
        | .returned _ => True
        | .refused _ =>
            stock.QuantitiesThere record picking ∧ NumberThere record picking ∧
              stock.CarrierThere record picking
        | .interrupted left _ => left = pickings

/-- The validation comes to no picking, or what it writes on it before an error is there
already. -/
def ErrorsChangeNothing (pickings : List OpenPicking) : Prop :=
  record.isDone = false → record.isEcommerceOk = true → ∀ picking index,
    stock.findPicking record pickings = some (picking, index) →
      stock.WritesThere errors record index picking pickings

variable {stock errors record} {pickings : List OpenPicking}

/-- A later validation does the same for a record that was not done and has been marked. -/
theorem validate_mark (notDone : record.isDone = false) {status : InternalStatus}
    (isOpen : status ≠ .done) (info : Option String) :
    (stock.validate errors ((record.mark status).setInfo info) pickings).2 =
      (stock.validate errors record pickings).2 := by
  have marked : ((record.mark status).setInfo info).isDone = false := decide_eq_false isOpen
  rw [validate, validate, marked, notDone]
  -- status and information are not read again
  rfl

/-- A failed validation does not mark its record done. -/
theorem status_of_failure (notDone : record.isDone = false)
    (failed : (stock.validateOpen errors record pickings).2.2.1 = false) :
    (stock.validateOpen errors record pickings).1.1.getD record.internalStatus ≠ .done := by
  revert failed
  rw [validateOpen]
  split
  · exact fun _ => nofun
  · split
    · exact nofun
    · split
      · exact fun _ => of_decide_eq_false notDone
      · split
        · exact fun _ => nofun
        · exact nofun

/-- What is left to see of a failure are the pickings. -/
theorem failureLeavesNoTrace_iff_pickings (notDone : record.isDone = false) :
    stock.FailureLeavesNoTrace errors record pickings ↔
      ((stock.validateOpen errors record pickings).2.2.1 = false →
        (stock.validateOpen errors record pickings).2.1 = pickings) := by
  rw [FailureLeavesNoTrace, validate, notDone, if_neg Bool.false_ne_true]
  dsimp only
  constructor
  · exact fun trace failed => (trace failed).1
  · intro same failed
    refine ⟨same failed, rfl, fun later => ?_⟩
    rw [same failed]
    exact validate_mark notDone (status_of_failure notDone failed) _

theorem findPicking_eq_some {picking : OpenPicking} {index : ℕ}
    (found : stock.findPicking record pickings = some (picking, index)) :
    pickings[index]? = some picking ∧ pickings.any (stock.isPending record) = true := by
  have listed := List.mem_zipIdx_iff_getElem?.1 (List.mem_of_find?_eq_some found)
  have holds := List.find?_some found
  have pending := (Bool.and_eq_true_iff.1 holds).1
  exact ⟨listed, List.any_eq_true.2 ⟨picking, List.mem_of_getElem? listed, pending⟩⟩

theorem set_eq_iff {picking written : OpenPicking} {index : ℕ}
    (listed : pickings[index]? = some picking) :
    pickings.set index written = pickings ↔ written = picking := by
  obtain ⟨less, rfl⟩ := List.getElem?_eq_some_iff.1 listed
  constructor
  · intro same
    rw [← List.getElem_set_self (by simpa using less : index < (pickings.set index written).length)]
    simp only [same]
  · rintro rfl
    exact List.set_getElem_self less

/-! ## What is written before an error -/

theorem assigned_eq_iff {picking : OpenPicking} :
    { picking with moveIds := assignQuantities stock.kits record.lineIds picking.moveIds } =
      picking ↔ stock.QuantitiesThere record picking := by
  rw [OpenPicking.mk.injEq, QuantitiesThere]
  simp only [true_and, and_true]

theorem numbered_eq_iff {picking : OpenPicking} :
    { stock.prepared record picking with carrierId := picking.carrierId } = picking ↔
      stock.QuantitiesThere record picking ∧ NumberThere record picking := by
  rw [OpenPicking.mk.injEq, QuantitiesThere, NumberThere, prepared]
  have number : (if record.trackingNumber = "" then picking.carrierTrackingRef
      else record.trackingNumber) = picking.carrierTrackingRef ↔
        record.trackingNumber = "" ∨ picking.carrierTrackingRef = record.trackingNumber := by
    split_ifs with empty
    · exact iff_of_true rfl (.inl empty)
    · rw [or_iff_right empty, eq_comm]
  rw [number]
  simp only [true_and, and_true]

theorem prepared_eq_iff {picking : OpenPicking} :
    stock.prepared record picking = picking ↔
      stock.QuantitiesThere record picking ∧ NumberThere record picking ∧
        stock.CarrierThere record picking := by
  have carrier : (if record.trackingCompany = "" then picking.carrierId
      else stock.searchCarrier record.trackingCompany) = picking.carrierId ↔
        stock.CarrierThere record picking := by
    rw [CarrierThere]
    split_ifs with empty
    · exact iff_of_true rfl (.inl empty)
    · rw [or_iff_right empty, eq_comm]
  rw [← and_assoc, ← numbered_eq_iff, ← carrier, OpenPicking.mk.injEq, OpenPicking.mk.injEq]
  simp only [prepared, true_and, and_true, and_assoc]

variable {picking : OpenPicking}

/-- Once the quantities are assigned, an error of the tracking number leaves them there. -/
theorem attemptWrites_of_number
    (goes : (attemptQuantities errors.quantity stock.kits record.lineIds picking.moveIds).2 =
      .ok ()) (number : record.trackingNumber ≠ "" ∧ errors.carrierTrackingRef.isSome) :
    ∃ message, stock.attemptWrites errors record picking =
      ({ picking with moveIds := assignQuantities stock.kits record.lineIds picking.moveIds },
        .error message) := by
  obtain ⟨message, raised⟩ := Option.isSome_iff_exists.1 number.2
  refine ⟨message, ?_⟩
  rw [attemptQuantities_eq_ok (Prod.ext rfl goes), attemptWrites, attemptAll]
  dsimp only
  rw [goes]
  dsimp only
  rw [attemptAll, if_neg number.1, raised, writeField]

/-- An error of the carrier leaves quantities and tracking number there. -/
theorem attemptWrites_of_carrier
    (goes : (attemptQuantities errors.quantity stock.kits record.lineIds picking.moveIds).2 =
      .ok ()) (number : ¬(record.trackingNumber ≠ "" ∧ errors.carrierTrackingRef.isSome))
    (carrier : record.trackingCompany ≠ "" ∧ errors.carrierId.isSome) :
    ∃ message, stock.attemptWrites errors record picking =
      ({ stock.prepared record picking with carrierId := picking.carrierId }, .error message) := by
  obtain ⟨message, raised⟩ := Option.isSome_iff_exists.1 carrier.2
  refine ⟨message, ?_⟩
  rw [prepared, attemptQuantities_eq_ok (Prod.ext rfl goes), attemptWrites, attemptAll]
  dsimp only
  rw [goes]
  dsimp only
  rw [attemptAll]
  by_cases empty : record.trackingNumber = ""
  · rw [if_pos empty]
    dsimp only
    rw [attemptAll, if_neg carrier.1, raised, writeField, if_pos empty]
  · have none : errors.carrierTrackingRef = none :=
      Option.not_isSome_iff_eq_none.1 fun some => number ⟨empty, some⟩
    rw [if_neg empty, none, writeField]
    dsimp only
    rw [attemptAll, if_neg carrier.1, raised, writeField, if_neg empty]

/-- Without an error, the picking is prepared. -/
theorem attemptWrites_of_none
    (goes : (attemptQuantities errors.quantity stock.kits record.lineIds picking.moveIds).2 =
      .ok ()) (number : ¬(record.trackingNumber ≠ "" ∧ errors.carrierTrackingRef.isSome))
    (carrier : ¬(record.trackingCompany ≠ "" ∧ errors.carrierId.isSome)) :
    stock.attemptWrites errors record picking = (stock.prepared record picking, .ok ()) := by
  have numbered (written : OpenPicking) : (if record.trackingNumber = "" then (written, .ok ())
      else writeField errors.carrierTrackingRef
        { written with carrierTrackingRef := record.trackingNumber } written) =
        ({ written with carrierTrackingRef := if record.trackingNumber = "" then
            written.carrierTrackingRef else record.trackingNumber }, .ok ()) := by
    split_ifs with empty
    · rfl
    · rw [Option.not_isSome_iff_eq_none.1 fun some => number ⟨empty, some⟩, writeField]
  have carried (written : OpenPicking) : (if record.trackingCompany = "" then (written, .ok ())
      else writeField errors.carrierId
        { written with carrierId := stock.searchCarrier record.trackingCompany } written) =
        ({ written with carrierId := if record.trackingCompany = "" then
            written.carrierId else stock.searchCarrier record.trackingCompany }, .ok ()) := by
    split_ifs with empty
    · rfl
    · rw [Option.not_isSome_iff_eq_none.1 fun some => carrier ⟨empty, some⟩, writeField]
  rw [prepared, attemptQuantities_eq_ok (Prod.ext rfl goes), attemptWrites, attemptAll]
  dsimp only
  rw [goes]
  dsimp only
  rw [attemptAll, numbered]
  dsimp only
  rw [attemptAll, carried]
  rfl

/-- An error that stops the validation of a picking changes nothing exactly when what is written
before it is there already. -/
theorem validateExternalFulfillment_iff {index : ℕ} (listed : pickings[index]? = some picking) :
    (∀ message, (stock.validateExternalFulfillment errors record index picking pickings).2 =
      .error message →
        (stock.validateExternalFulfillment errors record index picking pickings).1 = pickings) ↔
      stock.WritesThere errors record index picking pickings := by
  have stopped (after : List OpenPicking) (message : String) :
      (∀ other : String, (.error message : Except String Unit) = .error other →
        after = pickings) ↔ after = pickings := by
    constructor
    · exact fun all => all message rfl
    · exact fun same _ _ => same
  rw [validateExternalFulfillment, WritesThere]
  cases quantities : attemptQuantities errors.quantity stock.kits record.lineIds
      picking.moveIds with
  | mk moves result =>
      cases result with
      | error message =>
          rw [attemptWrites, attemptAll, quantities]
          dsimp only
          rw [stopped, set_eq_iff listed, OpenPicking.mk.injEq]
          simp only [true_and, and_true]
      | ok _ =>
          have goes : (attemptQuantities errors.quantity stock.kits record.lineIds
              picking.moveIds).2 = .ok () := congrArg Prod.snd quantities
          dsimp only
          split_ifs with number carrier
          · obtain ⟨message, writes⟩ := attemptWrites_of_number goes number
            rw [writes]
            dsimp only
            rw [stopped, set_eq_iff listed, assigned_eq_iff]
          · obtain ⟨message, writes⟩ := attemptWrites_of_carrier goes number carrier
            rw [writes]
            dsimp only
            rw [stopped, set_eq_iff listed, numbered_eq_iff]
          · rw [attemptWrites_of_none goes number carrier]
            dsimp only
            cases errors.button (pickings.set index (stock.prepared record picking))
                picking.id with
            | returned after =>
                refine iff_of_true (fun message error => ?_) trivial
                cases error
            | refused message =>
                dsimp only
                rw [stopped, set_eq_iff listed, prepared_eq_iff]
            | interrupted left message => exact stopped left message

/-- A failed validation leaves no trace exactly when what it has written before the error was there
already. -/
theorem failureLeavesNoTrace_iff :
    stock.FailureLeavesNoTrace errors record pickings ↔
      stock.ErrorsChangeNothing errors record pickings := by
  cases notDone : record.isDone with
  | true =>
      rw [FailureLeavesNoTrace, ErrorsChangeNothing, validate, notDone, if_pos rfl]
      exact iff_of_true nofun nofun
  | false =>
      rw [failureLeavesNoTrace_iff_pickings notDone, validateOpen, ErrorsChangeNothing]
      rw [forall_prop_of_true notDone]
      cases ok : record.isEcommerceOk with
      | false => exact iff_of_true (fun _ => rfl) nofun
      | true =>
          rw [Bool.not_true, if_neg Bool.false_ne_true, forall_prop_of_true rfl]
          cases search : stock.findPicking record pickings with
          | none =>
              refine iff_of_true ?_ nofun
              split
              · exact nofun
              · exact fun _ => rfl
          | some entry =>
              obtain ⟨picking, index⟩ := entry
              obtain ⟨listed, pending⟩ := findPicking_eq_some search
              have found : (∀ other place, some (picking, index) = some (other, place) →
                  stock.WritesThere errors record place other pickings) ↔
                    stock.WritesThere errors record index picking pickings := by
                constructor
                · exact fun all => all picking index rfl
                · rintro there _ _ ⟨⟩
                  exact there
              rw [pending, Bool.not_true, if_neg Bool.false_ne_true, found,
                ← validateExternalFulfillment_iff listed]
              dsimp only
              cases stock.validateExternalFulfillment errors record index picking pickings with
              | mk after result =>
                  cases result with
                  | ok _ => exact iff_of_true nofun nofun
                  | error message =>
                      constructor
                      · exact fun same _ _ => same rfl
                      · exact fun all _ => all message rfl

end Stock

/-! ## All validations -/

open Payment (Accounting PaidOrder PaymentSituation AdvanceSituation StoredTransaction)

/-- A failed validation leaves no trace exactly when what it did before the error was nothing new:
a fulfillment has written what was there, payments of invoices were refused before the first one,
and an advance payment was not created or was posted and confirmed the order. -/
theorem failed_validations_leave_no_trace_iff (stock : Stock) (errors : ValidationErrors)
    (record : TrackedFulfillment) (pickings : List OpenPicking) (odoo : Accounting)
    (order : PaidOrder) (index : ℕ) (txn : StoredTransaction) (invoices : PaymentSituation)
    (advance : AdvanceSituation) :
    (stock.FailureLeavesNoTrace errors record pickings ↔
      stock.ErrorsChangeNothing errors record pickings) ∧
    (PaidOrder.FailureLeavesNoTrace (fun situation order txn =>
        order.validateWithInvoices odoo index txn situation) index invoices order txn ↔
      PaidOrder.RefusedBeforePayment odoo index invoices order txn) ∧
    (PaidOrder.FailureLeavesNoTrace (PaidOrder.attemptAdvancePayment odoo index) index advance
        order txn ↔
      PaidOrder.PostedOnceCreated odoo index advance order txn) := by
  refine ⟨?_, ?_, ?_⟩
  · exact Stock.failureLeavesNoTrace_iff
  · exact PaidOrder.validateWithInvoices_noTrace_iff
  · exact PaidOrder.attemptAdvancePayment_noTrace_iff

namespace FailureExample

def stock : Stock where
  kits _ := none
  isAvailableMultiStock := false
  whFromExternalLocation _ := none
  searchCarrier _ := some 4

/-- Nothing raises but the button. -/
def errors : ValidationErrors where
  quantity _ _ := none
  carrierTrackingRef := none
  carrierId := none
  button _ _ := .refused "You need to supply a Lot/Serial Number for product Hat."

def record : TrackedFulfillment where
  externalStrId := "F1"
  externalStatus := "success"
  externalLocationId := "L1"
  trackingNumber := "1Z999"
  trackingCompany := "UPS"
  lineIds := [⟨"line", 1⟩]
  internalStatus := .draft
  internalInfo := none

def picking : OpenPicking where
  id := 5
  state := .assigned
  warehouseId := some 1
  moveIds := twoLots
  carrierTrackingRef := ""
  carrierId := none
  trackingExported := false

end FailureExample

open FailureExample in
/-- The tracking number is on the picking although the button was refused. -/
theorem tracking_kept_after_refusal : ¬ stock.FailureLeavesNoTrace errors record [picking] := by
  intro trace
  have same := (trace (by decide +kernel)).1
  have numbers := congrArg (List.map OpenPicking.carrierTrackingRef) same
  revert numbers
  decide +kernel

end OdooConnector.Order
