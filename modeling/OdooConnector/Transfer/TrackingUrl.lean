import OdooConnector.Transfer.Export

/-!
# Tracking URLs of exported pickings

The store extension pairs the exported pickings with the recordset by position, although the export
sorts the pickings and leaves out the emptied ones. Every exported picking carries its own URL
exactly when the URLs in export order are the beginning of the URLs in recordset order.
-/

namespace OdooConnector.Transfer.StockPickings

open SaleTransferSerializer

/-- Ids of the pickings that keep a line, in the order of the numbered serializers. -/
def exportedIds (order : SaleOrder) (self : StockPickings) : List ℕ :=
  let pickings := (self.transfer order).pickings
  (pickings.filter fun picking =>
    picking.approvedLines.any (survives pickings picking.sequence)).map
      fun picking => picking.data.erpId

/-- URL of the picking with a database id. -/
def trackingUrlOf (self : StockPickings) (pickingId : ℕ) : Option (Option String) :=
  (self.byId pickingId).map StockPicking.carrierTrackingUrlProp

theorem zipTrackingUrl_pickingId (data : List TrackingData) (pickings : List StockPicking) :
    (zipTrackingUrl data pickings).map (fun entry => entry.pickingId) =
      data.map fun entry => entry.pickingId := by
  induction data generalizing pickings with
  | nil => rfl
  | cons entry data induction =>
      cases pickings with
      | nil => rfl
      | cons picking pickings =>
          simp only [zipTrackingUrl, List.map_cons, induction]

theorem zipTrackingUrl_url {data : List TrackingData} {pickings : List StockPicking}
    (fits : data.length ≤ pickings.length) :
    (zipTrackingUrl data pickings).map TrackingData.carrierTrackingUrl =
      (pickings.map fun picking => some picking.carrierTrackingUrlProp).take data.length := by
  induction data generalizing pickings with
  | nil => rfl
  | cons entry data induction =>
      cases pickings with
      | nil => simp at fits
      | cons picking pickings =>
          have restFits : data.length ≤ pickings.length := by
            simpa using fits
          simp only [zipTrackingUrl, List.map_cons, List.length_cons, List.take_succ_cons,
            induction restFits]

theorem transfer_ids_perm (order : SaleOrder) (self : StockPickings) :
    ((self.transfer order).pickings.map fun picking => picking.data.erpId).Perm
      (self.records.map StockPicking.id) := by
  have sameIds := initialSetup_map_perm (fun picking => picking.data.erpId) (fun _ _ => rfl)
    (self.records.map (StockPicking.toExportFormat order true))
  rw [List.map_map] at sameIds
  exact sameIds

/-- The base export dumps exactly the pickings that keep a line. -/
theorem toExportFormatMulti_ids (order : SaleOrder) (self : StockPickings) :
    (self.toExportFormatMulti order).map (fun data => data.pickingId) =
      self.exportedIds order := by
  have dumped := congrArg (fun entries => (entries.filter fun entry : ℕ × List PickingLine =>
    !entry.2.isEmpty).map Prod.fst) (self.squash_dump_eq order)
  simp only [List.filter_map, List.map_map] at dumped
  rw [toExportFormatMulti, List.map_map, dump_eq, List.map_map]
  refine dumped.trans ?_
  rw [exportedIds]
  congr 1
  apply List.filter_congr
  intro picking _
  rw [Function.comp_apply, Bool.eq_iff_iff, List.any_eq_true, Bool.not_eq_true',
    List.isEmpty_eq_false_iff]
  constructor
  · intro nonempty
    obtain ⟨line, member⟩ := List.exists_mem_of_ne_nil _ nonempty
    exact ⟨line, List.mem_filter.mp member⟩
  · rintro ⟨line, held, survived⟩
    exact List.ne_nil_of_mem (List.mem_filter.mpr ⟨held, survived⟩)

theorem exportedIds_subset (order : SaleOrder) (self : StockPickings) :
    ∀ pickingId ∈ self.exportedIds order, ∃ picking, self.byId pickingId = some picking := by
  intro pickingId member
  obtain ⟨serializer, serializerMember, rfl⟩ := List.mem_map.mp member
  have listed : serializer.data.erpId ∈ self.records.map StockPicking.id :=
    (self.transfer_ids_perm order).mem_iff.mp
      (List.mem_map_of_mem (List.mem_of_mem_filter serializerMember))
  obtain ⟨picking, pickingMember, sameId⟩ := List.mem_map.mp listed
  exact ⟨picking, byId_eq_some_iff.mpr ⟨pickingMember, sameId⟩⟩

theorem exportedIds_length_le (order : SaleOrder) (self : StockPickings) :
    (self.exportedIds order).length ≤ self.records.length := by
  have sameLength := (self.transfer_ids_perm order).length_eq
  rw [List.length_map, List.length_map] at sameLength
  rw [exportedIds, List.length_map, ← sameLength]
  exact List.length_filter_le _ _

/-- Every exported dictionary carries the URL of the picking it names if and only if the URLs of
the exported pickings, in export order, begin the list of URLs of the recordset. -/
theorem carrierTrackingUrl_correct_iff (order : SaleOrder) (self : StockPickings) :
    (∀ data ∈ self.toExportFormatMultiShopify true order,
      ∀ picking ∈ self.records, picking.id = data.pickingId →
        data.carrierTrackingUrl = some picking.carrierTrackingUrlProp) ↔
      (self.exportedIds order).map self.trackingUrlOf <+:
        self.records.map fun picking => some picking.carrierTrackingUrlProp := by
  set result := self.toExportFormatMultiShopify true order with result_eq
  have resultIds : result.map (fun data => data.pickingId) = self.exportedIds order := by
    rw [result_eq, toExportFormatMultiShopify, if_pos rfl, zipTrackingUrl_pickingId,
      toExportFormatMulti_ids]
  have baseLength : (self.toExportFormatMulti order).length =
      (self.exportedIds order).length := by
    rw [← toExportFormatMulti_ids, List.length_map]
  have resultUrls : result.map TrackingData.carrierTrackingUrl =
      (self.records.map fun picking => some picking.carrierTrackingUrlProp).take
        (self.exportedIds order).length := by
    rw [result_eq, toExportFormatMultiShopify, if_pos rfl, zipTrackingUrl_url, baseLength]
    rw [baseLength]
    exact self.exportedIds_length_le order
  have ownUrl : (∀ data ∈ result, ∀ picking ∈ self.records, picking.id = data.pickingId →
      data.carrierTrackingUrl = some picking.carrierTrackingUrlProp) ↔
      ∀ data ∈ result, data.carrierTrackingUrl = self.trackingUrlOf data.pickingId := by
    refine forall₂_congr fun data member => ?_
    have exported : data.pickingId ∈ self.exportedIds order := by
      rw [← resultIds]
      exact List.mem_map_of_mem member
    obtain ⟨picking, found⟩ := self.exportedIds_subset order _ exported
    rw [trackingUrlOf, found, Option.map_some]
    constructor
    · intro correct
      obtain ⟨pickingMember, sameId⟩ := byId_eq_some_iff.mp found
      exact correct picking pickingMember sameId
    · intro correct other otherMember sameId
      have otherFound := byId_eq_some_iff.mpr ⟨otherMember, sameId⟩
      rw [found] at otherFound
      rw [correct, Option.some.inj otherFound]
  rw [ownUrl, List.prefix_iff_eq_take, List.length_map, ← resultUrls, ← resultIds, List.map_map]
  constructor
  · intro correct
    exact List.map_congr_left fun data member => (correct data member).symm
  · intro same data member
    exact (List.map_inj_left.mp same data member).symm

/-- A picking with one move of its own line and a tracking URL. -/
def trackedPicking (id : ℕ) (line url : String) : StockPicking where
  id := id
  name := "WH/OUT"
  moveIds := [{ saleLineId := some { integrationExternalId := line, qtyDelivered := 1
                                     productUomQty := 1 }
                quantity := 1, bomLineId := false }]
  carrierId := some { name := "Carrier", externalCarrierCode := ""
                      integrationSendTrackingUrl := true }
  backorderId := none
  isDropship := false
  carrierTrackingRef := ""
  carrierTrackingUrl := url
  externalLocation := none

/-- A recordset whose first picking has the larger id. -/
def descendingPickings : StockPickings where
  records := [trackedPicking 2 "line2" "url2", trackedPicking 1 "line1" "url1"]
  id_nodup := by decide

/-- The URLs of a recordset in descending order are exchanged. -/
theorem carrierTrackingUrl_exchanged :
    (descendingPickings.toExportFormatMultiShopify true
      { orderLine := [{ integrationExternalId := "line1", qtyDelivered := 1, productUomQty := 1 },
                      { integrationExternalId := "line2", qtyDelivered := 1
                        productUomQty := 1 }] }).map
        (fun data => (data.pickingId, data.carrierTrackingUrl)) =
      [(1, some (some "url2")), (2, some (some "url1"))] ∧
    descendingPickings.records.map (fun picking => (picking.id, picking.carrierTrackingUrlProp)) =
      [(2, some "url2"), (1, some "url1")] := by
  decide +kernel

end OdooConnector.Transfer.StockPickings
