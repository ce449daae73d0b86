import Mathlib.Data.List.Dedup
import Mathlib.Data.Rat.Defs
import OdooConnector.Inventory.Bom
import OdooConnector.Inventory.Reservation
import OdooConnector.Library.Run
import OdooConnector.Library.Timestamp

/-!
# The daily cache of forecasts

The forecasts of a location's outgoing moves are stored on the first computation of the day and read
again on the later ones. They are those of Odoo exactly as long as the moves of the first
computation include all later ones that have a forecast.
-/

namespace OdooConnector.Inventory

/-- What the forecast of a stock move reads of it. -/
structure ForecastMove where
  productType : ProductType
  productId : ℕ
  productQty : ℚ
  quantity : ℚ
  state : MoveState
  isConsuming : Bool
  isIncoming : Bool
  locationId : ℕ
  locationDestId : ℕ
  date : Option Timestamp

/-- What a forecast writes to a move. -/
structure ForecastFields where
  forecastAvailability : ℚ
  forecastExpectedDate : Option Timestamp
deriving DecidableEq

/-- A state of the database, with what Odoo computes from it. -/
structure StockDatabase where
  move : ℕ → ForecastMove
  /-- The warehouse of a location. -/
  warehouse : ℕ → Option ℕ
  /-- The reserved quantity in the unit of the product. -/
  computeQuantity : ForecastMove → ℚ
  /-- Forecast quantity of a product in a warehouse at a date. -/
  virtualAvailable : ℕ → Timestamp → ℕ → ℚ
  /-- `_get_forecast_availability_outgoing` of a move, for a warehouse and a location. -/
  availabilityOutgoing : ℕ → ℕ → ℕ → ℚ × Option Timestamp
  /-- Rounding to the digits of the availability field. -/
  roundQuantity : ℚ → ℚ

/-- The entry of a move in the stored data; a date is stored as a text. -/
structure CachedForecast where
  moveId : ℕ
  availability : ℚ
  expectedDate : Option String

structure StockForecastCache where
  warehouseId : ℕ
  locationId : ℕ
  date : ℕ × ℕ × ℕ
  data : List CachedForecast

/-- The rows of a warehouse and a location on a day. -/
def StockForecastCache.matches (today : ℕ × ℕ × ℕ) (key : ℕ × ℕ) (row : StockForecastCache) :
    Bool :=
  row.warehouseId = key.1 && row.locationId = key.2 && row.date = today

namespace StockDatabase

variable (db : StockDatabase)

/-- Warehouse and location of an outgoing move that is not reserved. -/
def outgoingUnreserved (moveId : ℕ) : Option (ℕ × ℕ) :=
  let move := db.move moveId
  if move.productType = .product && move.isConsuming &&
      (move.state = .waiting || move.state = .confirmed || move.state = .partiallyAvailable) then
    (db.warehouse move.locationId).map fun warehouse => (warehouse, move.locationId)
  else none

/-- Fields without a forecast: `False` is no quantity and no date. -/
def noForecast : ForecastFields := ⟨db.roundQuantity 0, none⟩

/-- What the forecast of the product in a warehouse says; the dictionary has it for every move with
a warehouse. -/
def forecastOfProduct (now : Timestamp) (move : ForecastMove) (warehouse : Option ℕ)
    (extra : ℚ) : ForecastFields :=
  match warehouse with
  | none => db.noForecast
  | some warehouse =>
      let date := (move.date.getD now).latest now
      ⟨db.roundQuantity (db.virtualAvailable warehouse date move.productId + extra), none⟩

/-- The forecast of the moves that the cache is not used for. -/
def ownForecast (now : Timestamp) (moveId : ℕ) : ForecastFields :=
  let move := db.move moveId
  if move.productType ≠ .product then ⟨db.roundQuantity move.productQty, none⟩
  else if move.isConsuming then
    match move.state with
    | .assigned => ⟨db.roundQuantity (db.computeQuantity move), none⟩
    | .draft => db.forecastOfProduct now move (db.warehouse move.locationId) (-move.productQty)
    | _ => db.noForecast
  else if move.isIncoming then
    db.forecastOfProduct now move (db.warehouse move.locationDestId)
      (if move.state = .draft then move.productQty else 0)
  else db.noForecast

/-- The entry that the cache stores for a move. -/
def serialize (key : ℕ × ℕ) (moveId : ℕ) : CachedForecast :=
  let forecast := db.availabilityOutgoing moveId key.1 key.2
  ⟨moveId, forecast.1, forecast.2.map Timestamp.format⟩

/-- The data of a row, of which a new one is created where the day has none. -/
def forecastInfo (today : ℕ × ℕ × ℕ) (key : ℕ × ℕ) (moveIds : List ℕ)
    (cache : List StockForecastCache) : List StockForecastCache × List CachedForecast :=
  match cache.find? (StockForecastCache.matches today key) with
  | some row => (cache, row.data)
  | none =>
      let data := moveIds.map (db.serialize key)
      (cache ++ [⟨key.1, key.2, today, data⟩], data)

/-- The fields that a move gets from the data; the text of a date becomes a date again. -/
def readForecast (data : List CachedForecast) (moveId : ℕ) : ForecastFields :=
  match data.find? fun cached => cached.moveId = moveId with
  | none => db.noForecast
  | some cached =>
      ⟨db.roundQuantity cached.availability, cached.expectedDate.bind Timestamp.parse⟩

/-- The outgoing moves of a computation in a location. -/
def movesAt (moveIds : List ℕ) (key : ℕ × ℕ) : List ℕ :=
  moveIds.filter fun moveId => db.outgoingUnreserved moveId = some key

def forecastLocation (today : ℕ × ℕ × ℕ) (moveIds : List ℕ)
    (state : List StockForecastCache × List (ℕ × ForecastFields)) (key : ℕ × ℕ) :
    List StockForecastCache × List (ℕ × ForecastFields) :=
  let (cache, info) := db.forecastInfo today key (db.movesAt moveIds key) state.1
  (cache, state.2 ++ (db.movesAt moveIds key).map fun moveId =>
    (moveId, db.readForecast info moveId))

/-- `_compute_forecast_information` of some moves: the cache after it and their fields. -/
def computeForecastInformation (today : ℕ × ℕ × ℕ) (now : Timestamp) (moveIds : List ℕ)
    (cache : List StockForecastCache) : List StockForecastCache × List (ℕ × ForecastFields) :=
  let own := moveIds.filter fun moveId => db.outgoingUnreserved moveId = none
  (moveIds.filterMap db.outgoingUnreserved).dedup.foldl (db.forecastLocation today moveIds)
    (cache, own.map fun moveId => (moveId, db.ownForecast now moveId))

/-- A computation at a time of the day changes the cache. -/
def step (today : ℕ × ℕ × ℕ) (cache : List StockForecastCache) (call : Timestamp × List ℕ) :
    List StockForecastCache :=
  (db.computeForecastInformation today call.1 call.2 cache).1

/-- The fields that a move gets straight from Odoo's forecast. -/
def directForecast (key : ℕ × ℕ) (moveId : ℕ) : ForecastFields :=
  let forecast := db.availabilityOutgoing moveId key.1 key.2
  ⟨db.roundQuantity forecast.1, forecast.2⟩

/-- Every outgoing move that is not reserved gets the fields of its direct forecast. -/
def Invisible (today : ℕ × ℕ × ℕ) (cache : List StockForecastCache) (call : Timestamp × List ℕ) :
    Prop :=
  ∀ moveId ∈ call.2, ∀ key, db.outgoingUnreserved moveId = some key → ∀ fields,
    (moveId, fields) ∈ (db.computeForecastInformation today call.1 call.2 cache).2 ↔
      fields = db.directForecast key moveId

/-- The day has no row for the location, or one that holds the move. -/
def Stored (today : ℕ × ℕ × ℕ) (cache : List StockForecastCache) (key : ℕ × ℕ) (moveId : ℕ) :
    Prop :=
  ∀ row, cache.find? (StockForecastCache.matches today key) = some row →
    ∃ cached ∈ row.data, cached.moveId = moveId

/-- Moves that are stored expect a whole second, and all others have no forecast. -/
def Covered (today : ℕ × ℕ × ℕ) (cache : List StockForecastCache) (call : Timestamp × List ℕ) :
    Prop :=
  ∀ moveId ∈ call.2, ∀ key, db.outgoingUnreserved moveId = some key →
    (Stored today cache key moveId → ∀ date,
      (db.availabilityOutgoing moveId key.1 key.2).2 = some date → date.microsecond = 0) ∧
    (¬ Stored today cache key moveId → db.directForecast key moveId = db.noForecast)

variable {db} {today : ℕ × ℕ × ℕ} {cache : List StockForecastCache} {key : ℕ × ℕ} {moveId : ℕ}
  {moveIds : List ℕ}

/-! ## Data of one location -/

/-- Data that are read or stored for a location. -/
def dataFor (db : StockDatabase) (today : ℕ × ℕ × ℕ) (moveIds : List ℕ)
    (cache : List StockForecastCache) (key : ℕ × ℕ) : List CachedForecast :=
  (db.forecastInfo today key (db.movesAt moveIds key) cache).2

/-- Storing the data of another location does not change what is found. -/
theorem find?_forecastInfo {other : ℕ × ℕ} (different : other ≠ key) (stored : List ℕ) :
    (db.forecastInfo today key stored cache).1.find? (StockForecastCache.matches today other) =
      cache.find? (StockForecastCache.matches today other) := by
  rw [forecastInfo]
  split
  · rfl
  · have differs : StockForecastCache.matches today other
        ⟨key.1, key.2, today, stored.map (db.serialize key)⟩ = false := by
      rw [StockForecastCache.matches]
      simp only [decide_true, Bool.and_true, Bool.and_eq_false_iff, decide_eq_false_iff_not]
      by_contra same
      simp only [not_or, not_not] at same
      exact different (Prod.ext same.1.symm same.2.symm)
    rw [List.find?_append, List.find?_cons, differs]
    simp

theorem dataFor_eq :
    db.dataFor today moveIds cache key =
      match cache.find? (StockForecastCache.matches today key) with
      | some row => row.data
      | none => (db.movesAt moveIds key).map (db.serialize key) := by
  rw [dataFor, forecastInfo]
  split <;> rfl

theorem dataFor_forecastInfo {other : ℕ × ℕ} (different : other ≠ key) (stored : List ℕ) :
    db.dataFor today moveIds (db.forecastInfo today key stored cache).1 other =
      db.dataFor today moveIds cache other := by
  rw [dataFor_eq, dataFor_eq, find?_forecastInfo different]

/-- The fields that the moves of the locations get are read from the data for each of them. -/
theorem mem_foldl_forecastLocation {keys : List (ℕ × ℕ)} {results : List (ℕ × ForecastFields)}
    {fields : ForecastFields} (distinct : keys.Nodup) :
    (moveId, fields) ∈ (keys.foldl (db.forecastLocation today moveIds) (cache, results)).2 ↔
      (moveId, fields) ∈ results ∨ ∃ key ∈ keys, moveId ∈ db.movesAt moveIds key ∧
        fields = db.readForecast (db.dataFor today moveIds cache key) moveId := by
  induction keys generalizing cache results with
  | nil => simp
  | cons key keys induction =>
      obtain ⟨absent, distinct⟩ := List.nodup_cons.mp distinct
      rw [List.foldl_cons, forecastLocation, induction distinct, List.mem_append, or_assoc]
      refine or_congr_right ?_
      rw [List.exists_mem_cons_iff]
      refine or_congr ?_ (exists_congr fun other => and_congr_right fun member => ?_)
      · rw [List.mem_map]
        constructor
        · rintro ⟨_, listed, ⟨⟩⟩
          exact ⟨listed, rfl⟩
        · rintro ⟨listed, rfl⟩
          exact ⟨moveId, listed, rfl⟩
      · have different : other ≠ key := by
          rintro rfl
          exact absent member
        rw [dataFor_forecastInfo different]

/-! ## What is read of the stored data -/

/-- The data are entries of the cache for a location. -/
def Serialized (db : StockDatabase) (key : ℕ × ℕ) (data : List CachedForecast) : Prop :=
  ∀ cached ∈ data, cached = db.serialize key cached.moveId

/-- Stored forecasts are read without the fractions of their seconds. -/
theorem readForecast_eq {data : List CachedForecast} (serialized : db.Serialized key data)
    (listed : ∃ cached ∈ data, cached.moveId = moveId) :
    db.readForecast data moveId =
      { db.directForecast key moveId with
        forecastExpectedDate :=
          (db.directForecast key moveId).forecastExpectedDate.map Timestamp.truncate } := by
  rw [readForecast]
  cases found : data.find? (fun cached => cached.moveId = moveId) with
  | none =>
      obtain ⟨cached, member, same⟩ := listed
      exact absurd same (by simpa using List.find?_eq_none.mp found cached member)
  | some cached =>
      have own : cached.moveId = moveId := by simpa using List.find?_some found
      have entry := serialized cached (List.mem_of_find?_eq_some found)
      rw [own] at entry
      subst entry
      simp only [serialize, directForecast, ForecastFields.mk.injEq, true_and]
      cases (db.availabilityOutgoing moveId key.1 key.2).2 with
      | none => rfl
      | some date => rw [Option.map_some, Option.bind_some, Timestamp.parse_format, Option.map_some]

theorem readForecast_of_not_listed {data : List CachedForecast}
    (absent : ¬ ∃ cached ∈ data, cached.moveId = moveId) :
    db.readForecast data moveId = db.noForecast := by
  have none : data.find? (fun cached => cached.moveId = moveId) = none := by
    rw [List.find?_eq_none]
    intro cached member same
    exact absent ⟨cached, member, by simpa using same⟩
  rw [readForecast, none]

/-- A stored forecast is the direct one where it expects a whole second. -/
theorem readForecast_eq_direct_iff {data : List CachedForecast}
    (serialized : db.Serialized key data) (listed : ∃ cached ∈ data, cached.moveId = moveId) :
    db.readForecast data moveId = db.directForecast key moveId ↔
      ∀ date, (db.availabilityOutgoing moveId key.1 key.2).2 = some date →
        date.microsecond = 0 := by
  rw [readForecast_eq serialized listed]
  simp only [directForecast, ForecastFields.mk.injEq, true_and]
  cases (db.availabilityOutgoing moveId key.1 key.2).2 with
  | none => simp
  | some date => simp [Timestamp.truncate_eq_iff]

/-- Rows of the day hold entries of their locations. -/
def Truthful (db : StockDatabase) (today : ℕ × ℕ × ℕ) (cache : List StockForecastCache) : Prop :=
  ∀ row ∈ cache, row.date = today → db.Serialized (row.warehouseId, row.locationId) row.data

theorem serialized_map (key : ℕ × ℕ) (moveIds : List ℕ) :
    db.Serialized key (moveIds.map (db.serialize key)) := by
  intro cached member
  obtain ⟨moveId, _, rfl⟩ := List.mem_map.mp member
  rfl

theorem Truthful.forecastInfo (truthful : db.Truthful today cache) (key : ℕ × ℕ)
    (moveIds : List ℕ) : db.Truthful today (db.forecastInfo today key moveIds cache).1 := by
  rw [StockDatabase.forecastInfo]
  split
  · exact truthful
  · intro row member sameDay
    cases List.mem_append.mp member with
    | inl earlier => exact truthful row earlier sameDay
    | inr new =>
        cases List.mem_singleton.mp new
        exact serialized_map key moveIds

theorem Truthful.step (truthful : db.Truthful today cache) (call : Timestamp × List ℕ) :
    db.Truthful today (db.step today cache call) := by
  refine foldl_preserves (db.forecastLocation today call.2) (fun state => db.Truthful today state.1)
    _ truthful ?_
  intro state key truthful
  exact truthful.forecastInfo key (db.movesAt call.2 key)

/-- The data for a location hold entries of it, and hold a listed move where it is stored. -/
theorem Truthful.dataFor (truthful : db.Truthful today cache) (member : moveId ∈ moveIds)
    (outgoing : db.outgoingUnreserved moveId = some key) :
    db.Serialized key (db.dataFor today moveIds cache key) ∧
      ((∃ cached ∈ db.dataFor today moveIds cache key, cached.moveId = moveId) ↔
        Stored today cache key moveId) := by
  rw [dataFor_eq, Stored]
  cases found : cache.find? (StockForecastCache.matches today key) with
  | none =>
      refine ⟨serialized_map key _, iff_of_true ⟨db.serialize key moveId, ?_, rfl⟩ ?_⟩
      · exact List.mem_map_of_mem (List.mem_filter.mpr ⟨member, by simpa using outgoing⟩)
      · exact fun _ none => nomatch none
  | some row =>
      have own := List.find?_some found
      simp only [StockForecastCache.matches, Bool.and_eq_true, decide_eq_true_eq] at own
      obtain ⟨⟨warehouse, location⟩, sameDay⟩ := own
      have serialized := truthful row (List.mem_of_find?_eq_some found) sameDay
      rw [warehouse, location] at serialized
      exact ⟨serialized, by simp⟩

/-- A call gives an outgoing move what is read for it of the data of its location. -/
theorem mem_computeForecastInformation (today : ℕ × ℕ × ℕ) (now : Timestamp)
    (cache : List StockForecastCache) (fields : ForecastFields)
    (member : moveId ∈ moveIds) (outgoing : db.outgoingUnreserved moveId = some key) :
    (moveId, fields) ∈ (db.computeForecastInformation today now moveIds cache).2 ↔
      fields = db.readForecast (db.dataFor today moveIds cache key) moveId := by
  rw [computeForecastInformation, mem_foldl_forecastLocation (List.nodup_dedup _)]
  constructor
  · rintro (own | ⟨other, _, listed, read⟩)
    · obtain ⟨_, unlisted, ⟨⟩⟩ := List.mem_map.mp own
      have none := (List.mem_filter.mp unlisted).2
      simp [outgoing] at none
    · have same := (List.mem_filter.mp listed).2
      simp only [outgoing, Option.some.injEq, decide_eq_true_eq] at same
      rw [read, same]
  · intro read
    refine Or.inr ⟨key, ?_, List.mem_filter.mpr ⟨member, by simpa using outgoing⟩, read⟩
    rw [List.mem_dedup, List.mem_filterMap]
    exact ⟨moveId, member, outgoing⟩

/-- A call on truthful rows is invisible exactly where it is covered. -/
theorem invisible_iff (truthful : db.Truthful today cache) (call : Timestamp × List ℕ) :
    db.Invisible today cache call ↔ db.Covered today cache call := by
  refine forall₂_congr fun moveId member => forall₂_congr fun key outgoing => ?_
  have read (fields : ForecastFields) :=
    mem_computeForecastInformation today call.1 cache fields member outgoing
  simp only [read, eq_iff_eq_cancel_left]
  obtain ⟨serialized, stored⟩ := truthful.dataFor member outgoing
  cases Classical.em (Stored today cache key moveId) with
  | inl listed =>
      rw [readForecast_eq_direct_iff serialized (stored.mpr listed)]
      simp [listed]
  | inr unlisted =>
      rw [readForecast_of_not_listed (mt stored.mp unlisted)]
      simp [unlisted, eq_comm]

/-- The cache is invisible on a day that starts without rows exactly where every call is covered. -/
theorem forecastCache_invisible_iff (db : StockDatabase) (today : ℕ × ℕ × ℕ)
    (cache : List StockForecastCache) (calls : List (Timestamp × List ℕ))
    (empty : ∀ row ∈ cache, row.date ≠ today) :
    Along (db.step today) (db.Invisible today) cache calls ↔
      Along (db.step today) (db.Covered today) cache calls := by
  have truthful : db.Truthful today cache := fun row member same => absurd same (empty row member)
  refine along_iff (fun cache call truthful => invisible_iff truthful call) ?_ truthful
  exact fun cache call truthful _ => truthful.step call

/-! ## Two moves of a location -/

/-- Two confirmed moves out of one location, with five pieces available for each. -/
def twoMoves : StockDatabase where
  move _ := ⟨.product, 3, 5, 0, .confirmed, true, false, 8, 9, none⟩
  warehouse _ := some 1
  computeQuantity move := move.quantity
  virtualAvailable _ _ _ := 5
  availabilityOutgoing _ _ _ := (5, none)
  roundQuantity quantity := quantity

def morning : Timestamp := ⟨2024, 3, 1, 8, 0, 0, 0, by decide, by decide⟩

/-- Both moves in the first call of the day get their forecasts. -/
theorem forecastCache_invisible_together :
    Along (twoMoves.step (2024, 3, 1)) (twoMoves.Invisible (2024, 3, 1)) []
      [(morning, [1, 2])] := by
  refine (forecastCache_invisible_iff twoMoves (2024, 3, 1) [] [(morning, [1, 2])]
    (fun _ member => nomatch member)).mpr ⟨?_, trivial⟩
  intro moveId _ key _
  constructor
  · intro _ date expected
    cases expected
  · intro unstored
    exact absurd (fun row found => nomatch found) unstored

/-- After a call for the first move, the second one gets no forecast. -/
theorem forecastCache_second_move_visible :
    ¬ Along (twoMoves.step (2024, 3, 1)) (twoMoves.Invisible (2024, 3, 1)) []
      [(morning, [1]), (morning, [2])] := by
  intro along
  obtain ⟨_, second, _⟩ := along
  have direct := (second 2 (by decide) (1, 8) (by decide) ⟨5, none⟩).mpr rfl
  exact absurd direct (by decide +kernel)

end StockDatabase

end OdooConnector.Inventory
