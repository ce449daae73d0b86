import Mathlib.Algebra.BigOperators.Group.List.Basic
import Mathlib.Data.Rat.Defs
import Mathlib.Tactic.Ring
import Mathlib.Tactic.Linarith

/-!
# Recalculated reservations

The reserved quantity of a quant is counted again from the move lines of its location, product, lot
and package, by one method over quants and by another over the quants of a lot.
-/

namespace OdooConnector.Inventory

/-- States of a stock move. -/
inductive MoveState where
  | draft
  | waiting
  | confirmed
  | partiallyAvailable
  | assigned
  | done
  | cancel
deriving DecidableEq

/-- What a move line has in common with the quants that it is reserved from. -/
structure StockKey where
  locationId : ℕ
  productId : ℕ
  lotId : Option ℕ
  packageId : Option ℕ
deriving DecidableEq

/-- A move line; its state is the one of its move, if it has one. -/
structure StockMoveLine where
  key : StockKey
  state : Option MoveState
  quantity : ℚ

structure StockQuant where
  key : StockKey
  ownerId : Option ℕ
  reservedQuantity : ℚ
deriving DecidableEq

/-- Quantity of the move lines of a key whose state passes a filter. -/
def searchedQuantity (stateFilter : Option MoveState → Bool) (lines : List StockMoveLine)
    (key : StockKey) : ℚ :=
  ((lines.filter fun line => line.key = key && stateFilter line.state).map
    StockMoveLine.quantity).sum

/-- Neither done nor cancelled. -/
def isOpen (state : Option MoveState) : Bool :=
  state ≠ some .done && state ≠ some .cancel

/-- One of the states that the recount of a lot reads. -/
def isReserving (state : Option MoveState) : Bool :=
  state ∈ [some MoveState.assigned, some .confirmed, some .partiallyAvailable]

def StockQuant.recalculate (stateFilter : Option MoveState → Bool) (lines : List StockMoveLine)
    (quant : StockQuant) : StockQuant :=
  { quant with reservedQuantity := searchedQuantity stateFilter lines quant.key }

/-- `stock.quant.recalculate_reserved_quantities` on all quants. -/
def NuprodStockQuant.recalculateReservedQuantities (lines : List StockMoveLine)
    (quants : List StockQuant) : List StockQuant :=
  quants.map (StockQuant.recalculate isOpen lines)

/-- `stock.lot.recalculate_reserved_quantities` on a lot. -/
def NuprodStockLot.recalculateReservedQuantities (lines : List StockMoveLine) (lotId : ℕ)
    (quants : List StockQuant) : List StockQuant :=
  quants.map fun quant =>
    if quant.key.lotId = some lotId then quant.recalculate isReserving lines else quant

/-! ## Conservation and agreement -/

variable {lines : List StockMoveLine} {quants : List StockQuant}

/-- Quantity of the open move lines of a key. -/
def openQuantity (lines : List StockMoveLine) (key : StockKey) : ℚ :=
  searchedQuantity isOpen lines key

/-- Quantity of the move lines of a key that are open, but in no state that the recount of a lot
reads: drafts, waiting lines and lines without a move. -/
def unreadQuantity (lines : List StockMoveLine) (key : StockKey) : ℚ :=
  searchedQuantity (fun state => isOpen state && !isReserving state) lines key

/-- The quants of every key reserve what the open lines of the key move, and both recounts leave
the same quants of a lot. -/
structure ReservationsConserved (lines : List StockMoveLine) (quants : List StockQuant) : Prop where
  conserved : ∀ key,
    (((NuprodStockQuant.recalculateReservedQuantities lines quants).filter fun quant =>
      quant.key = key).map StockQuant.reservedQuantity).sum = openQuantity lines key
  agree : ∀ lotId,
    (NuprodStockLot.recalculateReservedQuantities lines lotId quants).filter
        (fun quant => quant.key.lotId = some lotId) =
      (NuprodStockQuant.recalculateReservedQuantities lines quants).filter
        fun quant => quant.key.lotId = some lotId

@[simp]
theorem recalculate_key (stateFilter : Option MoveState → Bool) (lines : List StockMoveLine)
    (quant : StockQuant) : (quant.recalculate stateFilter lines).key = quant.key := rfl

/-- What is reserved for a key is counted once for each of its quants. -/
theorem sum_recalculated (lines : List StockMoveLine) (quants : List StockQuant) (key : StockKey) :
    (((NuprodStockQuant.recalculateReservedQuantities lines quants).filter fun quant =>
        quant.key = key).map StockQuant.reservedQuantity).sum =
      (quants.countP fun quant => quant.key = key) * openQuantity lines key := by
  rw [NuprodStockQuant.recalculateReservedQuantities]
  induction quants with
  | nil => simp
  | cons quant quants induction =>
      rw [List.map_cons, List.filter_cons, List.countP_cons, recalculate_key]
      by_cases same : quant.key = key
      · have first : (quant.recalculate isOpen lines).reservedQuantity =
            openQuantity lines key := same ▸ rfl
        simp only [same, decide_true, if_true, List.map_cons, List.sum_cons, induction, first]
        push_cast
        ring
      · simp only [same, decide_false, Bool.false_eq_true, if_false, induction, Nat.add_zero]

theorem searchedQuantity_split (stateFilter part : Option MoveState → Bool)
    (lines : List StockMoveLine) (key : StockKey)
    (included : ∀ state, part state = true → stateFilter state = true) :
    searchedQuantity stateFilter lines key = searchedQuantity part lines key +
      searchedQuantity (fun state => stateFilter state && !part state) lines key := by
  induction lines with
  | nil => simp [searchedQuantity]
  | cons line lines induction =>
      simp only [searchedQuantity] at induction
      simp only [searchedQuantity, List.filter_cons]
      have subset := included line.state
      by_cases same : line.key = key
      · cases whole : stateFilter line.state with
        | false =>
            have outside : part line.state = false := by
              rw [← Bool.not_eq_true]
              intro inside
              rw [subset inside] at whole
              contradiction
            simp [same, outside, induction]
        | true =>
            cases inside : part line.state with
            | false =>
                simp only [same, decide_true, Bool.and_self, if_true, List.map_cons, List.sum_cons,
                  induction, Bool.and_false, Bool.false_eq_true, if_false, Bool.not_false]
                ring
            | true =>
                simp only [same, decide_true, Bool.and_self, if_true, List.map_cons, List.sum_cons,
                  induction, Bool.not_true, Bool.and_false, Bool.false_eq_true, if_false]
                ring
      · simp [same, induction]

/-- Both recounts give a quant the same quantity exactly when no line of its key is unread. -/
theorem recalculate_eq_iff {quant : StockQuant} :
    quant.recalculate isReserving lines = quant.recalculate isOpen lines ↔
      unreadQuantity lines quant.key = 0 := by
  have parts := searchedQuantity_split isOpen isReserving lines quant.key
    (by rintro (_ | _ | _) <;> simp [isReserving, isOpen])
  rw [unreadQuantity]
  simp only [StockQuant.recalculate, StockQuant.mk.injEq, true_and]
  constructor
  · intro same
    linarith
  · intro nothing
    linarith

/-- A recount that reads only the quants of a lot is the recount of these quants. -/
theorem filter_lot_map (lotId : ℕ) (recount : StockQuant → StockQuant)
    (kept : ∀ quant, (recount quant).key = quant.key) :
    (quants.map recount).filter (fun quant => quant.key.lotId = some lotId) =
      (quants.filter fun quant => quant.key.lotId = some lotId).map recount := by
  induction quants with
  | nil => rfl
  | cons quant quants induction =>
      rw [List.map_cons, List.filter_cons, List.filter_cons, kept, induction]
      split <;> rfl

theorem filter_lot_eq (lotId : ℕ) :
    (NuprodStockLot.recalculateReservedQuantities lines lotId quants).filter
        (fun quant => quant.key.lotId = some lotId) =
      (quants.filter fun quant => quant.key.lotId = some lotId).map
        (StockQuant.recalculate isReserving lines) := by
  rw [NuprodStockLot.recalculateReservedQuantities, filter_lot_map]
  · refine List.map_congr_left fun quant member => ?_
    have own : quant.key.lotId = some lotId := by simpa using (List.mem_filter.mp member).2
    rw [if_pos own]
  · intro quant
    split <;> rfl

/-- Reservations are conserved and both recounts agree exactly when every key with reserved lines
has one quant and no lot has drafts, waiting lines or lines without a move. -/
theorem reservationsConserved_iff (lines : List StockMoveLine) (quants : List StockQuant) :
    ReservationsConserved lines quants ↔
      (∀ key, openQuantity lines key ≠ 0 → (quants.countP fun quant => quant.key = key) = 1) ∧
      ∀ quant ∈ quants, quant.key.lotId ≠ none → unreadQuantity lines quant.key = 0 := by
  have conserved (key : StockKey) :
      (((NuprodStockQuant.recalculateReservedQuantities lines quants).filter fun quant =>
          quant.key = key).map StockQuant.reservedQuantity).sum = openQuantity lines key ↔
        (openQuantity lines key ≠ 0 → (quants.countP fun quant => quant.key = key) = 1) := by
    rw [sum_recalculated]
    constructor
    · intro total reserved
      have once := mul_right_cancel₀ reserved (total.trans (one_mul _).symm)
      exact_mod_cast once
    · intro once
      by_cases nothing : openQuantity lines key = 0
      · rw [nothing, mul_zero]
      · rw [once nothing, Nat.cast_one, one_mul]
  have agree (lotId : ℕ) :
      (NuprodStockLot.recalculateReservedQuantities lines lotId quants).filter
          (fun quant => quant.key.lotId = some lotId) =
        (NuprodStockQuant.recalculateReservedQuantities lines quants).filter
          (fun quant => quant.key.lotId = some lotId) ↔
      ∀ quant ∈ quants, quant.key.lotId = some lotId → unreadQuantity lines quant.key = 0 := by
    rw [filter_lot_eq, NuprodStockQuant.recalculateReservedQuantities,
      filter_lot_map lotId _ (recalculate_key isOpen lines), List.map_inj_left]
    simp only [List.mem_filter, decide_eq_true_eq, and_imp, recalculate_eq_iff]
  constructor
  · intro holds
    refine ⟨fun key => (conserved key).mp (holds.conserved key), fun quant member lot => ?_⟩
    obtain ⟨lotId, own⟩ := Option.ne_none_iff_exists'.mp lot
    exact (agree lotId).mp (holds.agree lotId) quant member own
  · rintro ⟨once, unread⟩
    refine ⟨fun key => (conserved key).mpr (once key), fun lotId => (agree lotId).mpr ?_⟩
    intro quant member own
    exact unread quant member (by simp [own])

/-! ## Two owners -/

def shelf : StockKey := ⟨8, 1, some 3, none⟩

/-- Five pieces of a lot are reserved, and the lot has a quant for each of two owners. -/
def assignedLine : StockMoveLine := ⟨shelf, some .assigned, 5⟩

/-- Both owners' quants reserve the five pieces. -/
theorem two_owners_not_conserved :
    ¬ ReservationsConserved [assignedLine] [⟨shelf, none, 5⟩, ⟨shelf, some 7, 0⟩] := by
  intro holds
  have reserved : openQuantity [assignedLine] shelf = 5 := by
    simp [openQuantity, searchedQuantity, assignedLine, isOpen]
  have total := holds.conserved shelf
  rw [sum_recalculated, reserved] at total
  norm_num [List.countP_cons] at total

end OdooConnector.Inventory
