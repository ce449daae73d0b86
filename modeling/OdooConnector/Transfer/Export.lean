import OdooConnector.Library.Rounding
import OdooConnector.Transfer.Survival

/-!
# Exporting stock pickings

The stock moves of a picking are gathered by the external id of their sale order line and turned
into a serializer. Several pickings of an order are squashed and dumped; the store extension then
adds a tracking URL to each dumped picking.
-/

namespace OdooConnector.Transfer

/-- Sale order line; a line unknown to the store has the empty external id. -/
structure SaleOrderLine where
  integrationExternalId : String
  qtyDelivered : ℚ
  productUomQty : ℚ
  deriving DecidableEq

structure SaleOrder where
  orderLine : List SaleOrderLine

/-- Stock move; `bomLineId` tells whether it moves a component of a kit. -/
structure StockMove where
  saleLineId : Option SaleOrderLine
  quantity : ℚ
  bomLineId : Bool
  deriving DecidableEq

structure DeliveryCarrier where
  name : String
  externalCarrierCode : String
  integrationSendTrackingUrl : Bool
  deriving DecidableEq

/-- Stock picking; `externalLocation` is the code mapped to the warehouse of its location. -/
structure StockPicking where
  id : ℕ
  name : String
  moveIds : List StockMove
  carrierId : Option DeliveryCarrier
  backorderId : Option ℕ
  isDropship : Bool
  carrierTrackingRef : String
  carrierTrackingUrl : String
  externalLocation : Option String
  deriving DecidableEq

/-- A recordset of pickings holds each of them once. -/
structure StockPickings where
  records : List StockPicking
  id_nodup : (records.map StockPicking.id).Nodup

/-- All lines of the order that were split off the same external line. -/
def SaleOrder.relatedOrderLines (order : SaleOrder) (externalCode : String) : List SaleOrderLine :=
  order.orderLine.filter fun line => line.integrationExternalId = externalCode

def SaleOrder.qtyDemand (order : SaleOrder) (externalCode : String) : ℤ :=
  roundHalfEven ((order.relatedOrderLines externalCode).map SaleOrderLine.qtyDelivered).sum

/-- What the moves of one external line add up to. -/
structure MoveData where
  qtyDemand : ℤ
  qtyDone : ℤ
  isKit : Bool
  deriving DecidableEq

/-- Quantities of one move; moves without an external order line are skipped. -/
def moveData (order : SaleOrder) (multiSerialization : Bool) (move : StockMove) :
    Option (String × MoveData) :=
  match move.saleLineId with
  | none => none
  | some line =>
      let externalCode := line.integrationExternalId
      if externalCode = "" then none
      else
        let qtyDemand := order.qtyDemand externalCode
        let qtyDone :=
          if move.bomLineId then
            if multiSerialization then qtyDemand
            else roundHalfEven
              ((order.relatedOrderLines externalCode).map SaleOrderLine.productUomQty).sum
          else truncate move.quantity
        some (externalCode, { qtyDemand, qtyDone, isKit := move.bomLineId })

/-- Quantities of ordinary moves are added up, those of kit components are not. -/
def mergeMove (move : MoveData) : Option MoveData → MoveData
  | none => move
  | some present =>
      if move.isKit then { present with qtyDone := max present.qtyDone move.qtyDone }
      else { present with qtyDone := present.qtyDone + move.qtyDone }

def serializedMoves (order : SaleOrder) (multiSerialization : Bool) (picking : StockPicking) :
    Dict String MoveData :=
  Dict.updateAll Prod.fst (fun entry => mergeMove entry.2) ∅
    (picking.moveIds.filterMap (moveData order multiSerialization))

def serializedLines (order : SaleOrder) (multiSerialization : Bool) (picking : StockPicking) :
    List PickingLine :=
  (serializedMoves order multiSerialization picking).entries.map fun entry =>
    { externalId := entry.1, qtyDemand := entry.2.qtyDemand, qtyDone := entry.2.qtyDone
      isKit := entry.2.isKit, multiSerialization }

namespace StockPicking

def pickingData (picking : StockPicking) : PickingData :=
  let carrierName := (picking.carrierId.map DeliveryCarrier.name).getD ""
  let carrierCode := (picking.carrierId.map DeliveryCarrier.externalCarrierCode).getD ""
  { erpId := picking.id
    name := picking.name
    carrier := carrierName
    carrierCode := if carrierCode = "" then carrierName else carrierCode
    isBackorder := picking.backorderId.isSome
    isDropship := picking.isDropship
    tracking := picking.carrierTrackingRef }

/-- Serializer of one picking. -/
def toExportFormat (order : SaleOrder) (multiSerialization : Bool) (picking : StockPicking) :
    PickingSerializer :=
  PickingSerializer.new picking.pickingData (serializedLines order multiSerialization picking)

/-- Tracking URL of a picking, if its carrier sends one. -/
def carrierTrackingUrlProp (picking : StockPicking) : Option String :=
  if (picking.carrierId.map DeliveryCarrier.integrationSendTrackingUrl).getD false ∧
      picking.carrierTrackingUrl ≠ "" then
    some picking.carrierTrackingUrl
  else none

end StockPicking

/-- Exported data of a picking; only the store extension writes `carrierTrackingUrl`. -/
structure TrackingData extends PickingExport where
  externalLocationId : Option String
  carrierTrackingUrl : Option (Option String)
  deriving DecidableEq

namespace StockPickings

def transfer (order : SaleOrder) (self : StockPickings) : SaleTransferSerializer :=
  SaleTransferSerializer.new (self.records.map (StockPicking.toExportFormat order true))

/-- The picking of the recordset with a database id. -/
def byId (self : StockPickings) (pickingId : ℕ) : Option StockPicking :=
  self.records.find? fun picking => picking.id = pickingId

/-- Export of several pickings by the base module. -/
def toExportFormatMulti (order : SaleOrder) (self : StockPickings) : List TrackingData :=
  (self.transfer order).squash.dump.map fun data =>
    { data with
      externalLocationId := (self.byId data.pickingId).bind StockPicking.externalLocation
      carrierTrackingUrl := none }

/-- Write the URLs of the recordset next to the exported data, position by position. -/
def zipTrackingUrl : List TrackingData → List StockPicking → List TrackingData
  | [], _ => []
  | data, [] => data
  | data :: rest, picking :: pickings =>
      { data with carrierTrackingUrl := some picking.carrierTrackingUrlProp } ::
        zipTrackingUrl rest pickings

/-- Export of several pickings by the store extension. -/
def toExportFormatMultiShopify (isIntegrationShopify : Bool) (order : SaleOrder)
    (self : StockPickings) : List TrackingData :=
  let result := self.toExportFormatMulti order
  if isIntegrationShopify then zipTrackingUrl result self.records else result

theorem byId_eq_some_iff {self : StockPickings} {pickingId : ℕ} {picking : StockPicking} :
    self.byId pickingId = some picking ↔ picking ∈ self.records ∧ picking.id = pickingId := by
  constructor
  · intro found
    exact ⟨List.mem_of_find?_eq_some found, by simpa using List.find?_some found⟩
  · rintro ⟨member, rfl⟩
    obtain ⟨found, hit⟩ : ∃ found, self.byId picking.id = some found := by
      rw [byId, ← Option.isSome_iff_exists, List.find?_isSome]
      exact ⟨picking, member, by simp⟩
    have same : found.id = picking.id := by simpa using List.find?_some hit
    rw [hit, List.inj_on_of_nodup_map self.id_nodup (List.mem_of_find?_eq_some hit) member same]

end StockPickings

/-! ## Serialized lines -/

/-- A serialized picking has one line for each external id already. -/
theorem serializedLines_nodup (order : SaleOrder) (multiSerialization : Bool)
    (picking : StockPicking) :
    ((serializedLines order multiSerialization picking).map PickingLine.externalId).Nodup := by
  rw [serializedLines, List.map_map]
  exact (serializedMoves order multiSerialization picking).keys_nodup

/-- In the tracking export kit lines report their demand. -/
theorem isDone_of_isKit {line : PickingLine} (multi : line.multiSerialization = true)
    (kit : line.isKit = true) : line.isDone = true := by
  simp [PickingLine.isDone, PickingLine.getQty, multi, kit]

theorem mem_approveLines_of_nodup {lines : List PickingLine}
    (nodup : (lines.map PickingLine.externalId).Nodup) {line : PickingLine} :
    line ∈ approveLines lines ↔ line ∈ lines := by
  constructor
  · exact fun member => approveLines_subset lines member
  · intro member
    have listed : line.externalId ∈ (approveLines lines).map PickingLine.externalId :=
      (mem_approveLines_ids lines _).mpr (List.mem_map_of_mem member)
    obtain ⟨approved, approvedMember, sameId⟩ := List.mem_map.mp listed
    have same := List.inj_on_of_nodup_map nodup (approveLines_subset lines approvedMember) member
      sameId
    exact same ▸ approvedMember

namespace StockPickings

open SaleTransferSerializer

theorem kitsDone_transfer (order : SaleOrder) (self : StockPickings) :
    KitsDone (self.transfer order).pickings := by
  intro picking member line held kit
  have sameLines := initialSetup_map_perm PickingSerializer.approvedLines (fun _ _ => rfl)
    (self.records.map (StockPicking.toExportFormat order true))
  have listed : picking.approvedLines ∈
      (self.records.map (StockPicking.toExportFormat order true)).map
        PickingSerializer.approvedLines :=
    sameLines.mem_iff.mp (List.mem_map_of_mem member)
  rw [List.map_map] at listed
  obtain ⟨record, _, sameApproved⟩ := List.mem_map.mp listed
  rw [← sameApproved] at held
  have serialized := approveLines_subset _ held
  obtain ⟨entry, _, rfl⟩ := List.mem_map.mp serialized
  exact isDone_of_isKit rfl kit

/-- The dump of the tracking export, read off the numbered serializers. -/
theorem squash_dump_eq (order : SaleOrder) (self : StockPickings) :
    ((self.transfer order).squash.pickings.map fun picking =>
        (picking.data.erpId, picking.approvedLines)) =
      (self.transfer order).pickings.map fun picking =>
        (picking.data.erpId,
          picking.approvedLines.filter
            (survives (self.transfer order).pickings picking.sequence)) :=
  squashPickings_approvedLines (initialSetup_ascending _) (self.kitsDone_transfer order)

end StockPickings
end OdooConnector.Transfer
