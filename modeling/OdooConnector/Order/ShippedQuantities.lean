import Mathlib.Algebra.Group.Hom.Defs
import Mathlib.Algebra.Order.Floor.Semiring
import Mathlib.Data.NNRat.Floor
import Mathlib.Logic.Function.Basic
import Mathlib.Order.Hom.Basic
import OdooConnector.Library.Filling
import OdooConnector.Order.ExternalFulfillment

/-!
# Quantities of an external fulfillment

`_validate_external_fulfillment` writes what was shipped on the move lines of a picking. Moves that
belong to no line of the fulfillment are emptied. Then, line by line, the lines of its moves are
filled from the quantity of each component.
-/

namespace OdooConnector.Order

open Inventory (MoveState)

/-- A line of a fulfillment with a number of shipped units. -/
structure ShippedLine where
  externalStrId : String
  quantity : ℕ

/-- A move line. Its quantity is not negative, and is converted to the units of the product and of
the move. -/
structure StockMoveLine where
  quantity : ℚ≥0
  toProductUom : ZeroHom ℚ≥0 ℚ≥0
  toMoveUom : ZeroHom ℚ≥0 ℚ≥0

namespace StockMoveLine

def quantityProductUom (line : StockMoveLine) : ℚ≥0 := line.toProductUom line.quantity

def setQuantity (line : StockMoveLine) (value : ℚ≥0) : StockMoveLine :=
  { line with quantity := value }

end StockMoveLine

/-- A move with the product of its sale line and what is left to deliver of it. -/
structure StockMove where
  state : MoveState
  integrationExternalId : String
  productId : ℕ
  saleProductId : ℕ
  qtyToDeliver : ℚ
  productQty : ℚ≥0
  /-- Rounding to the unit of the product. -/
  floatRound : ℚ≥0 →o ℚ≥0
  moveLineIds : List StockMoveLine

namespace StockMove

variable (move : StockMove)

def quantity : ℚ≥0 := (move.moveLineIds.map fun line => line.toMoveUom line.quantity).sum

def hasEnoughQty : Bool := move.floatRound move.quantity ≤ move.floatRound move.productQty

/-- A move of an external line that is not done or cancelled. -/
def isOpen (lineId : String) : Bool :=
  move.state ≠ .done && move.state ≠ .cancel && move.integrationExternalId = lineId

/-- `_get_moves_by_external_line` selects the move. -/
def isOf (lineId : String) : Bool := move.isOpen lineId && move.hasEnoughQty

/-- Set the quantities of all lines to zero. -/
def skip : StockMove :=
  { move with moveLineIds := move.moveLineIds.map fun line => line.setQuantity 0 }

/-- Nothing is done on any line of the move. -/
def Empty : Prop := ∀ moveLine ∈ move.moveLineIds, moveLine.quantity = 0

end StockMove

/-- The kits, with what `explode` says for a number of units: component products and quantities. -/
abbrev Kits := ℕ → Option (ℕ → List (ℕ × ℚ≥0))

/-- `qty_dict` for some units of a product. Of several entries for a component the last one
stays. -/
def qtyDict (kits : Kits) (product units : ℕ) : ℕ → ℚ≥0 :=
  match kits product with
  | some explode => (explode units).foldl
      (fun dict entry => Function.update dict entry.1 (⌊entry.2⌋₊ : ℚ≥0)) fun _ => 0
  | none => Function.update (fun _ => 0) product units

/-- The loop over the lines of a move. -/
def fillLines : ℚ≥0 → List StockMoveLine → List StockMoveLine × ℚ≥0
  | fulfillQuantity, [] => ([], fulfillQuantity)
  | fulfillQuantity, line :: lines =>
      if fulfillQuantity = 0 then
        let (rest, left) := fillLines fulfillQuantity lines
        (line :: rest, left)
      else
        let qtyDemand := line.quantityProductUom
        if qtyDemand ≤ fulfillQuantity then
          let (rest, left) := fillLines (fulfillQuantity - qtyDemand) lines
          (line.setQuantity qtyDemand :: rest, left)
        else
          -- the quantity is not reduced here
          let (rest, left) := fillLines fulfillQuantity lines
          (line.setQuantity fulfillQuantity :: rest, left)

/-- The loop over the moves of an external line. -/
def fillMoves (lineId : String) : (ℕ → ℚ≥0) → List StockMove → List StockMove
  | _, [] => []
  | qtyDict, move :: moves =>
      if move.isOf lineId then
        let (lines, left) := fillLines (qtyDict move.productId) move.moveLineIds
        { move with moveLineIds := lines } ::
          fillMoves lineId (Function.update qtyDict move.productId left) moves
      else move :: fillMoves lineId qtyDict moves

/-- Handle a line of the fulfillment. -/
def handleLine (kits : Kits) (moves : List StockMove) (line : ShippedLine) : List StockMove :=
  match moves.find? fun move => move.isOf line.externalStrId with
  | some first =>
      fillMoves line.externalStrId (qtyDict kits first.saleProductId line.quantity) moves
  | none => moves

/-- Empty the moves that belong to no line of the fulfillment. -/
def skipRest (lines : List ShippedLine) (moves : List StockMove) : List StockMove :=
  moves.map fun move =>
    if lines.any fun line => move.isOf line.externalStrId then move else move.skip

/-- The quantities that `_validate_external_fulfillment` assigns before it validates. -/
def assignQuantities (kits : Kits) (lines : List ShippedLine) (moves : List StockMove) :
    List StockMove :=
  lines.foldl (handleLine kits) (skipRest lines moves)

/-- Components of some units of a product with their quantities: the product itself if it is no
kit. -/
def exploded (kits : Kits) (product units : ℕ) : List (ℕ × ℚ≥0) :=
  match kits product with
  | some explode => explode units
  | none => [(product, units)]

/-- Quantity of a component in some units of a product. -/
def explodedQty (kits : Kits) (product units component : ℕ) : ℚ≥0 :=
  (((exploded kits product units).filter fun entry => entry.1 = component).map Prod.snd).sum

/-- Product of the sale line of an external line. -/
def saleProduct (moves : List StockMove) (lineId : String) : Option ℕ :=
  (moves.find? fun move => move.isOpen lineId).map StockMove.saleProductId

/-- Quantities that the moves of an external line for a product held before, and hold now. -/
def heldQuantities (lineId : String) (product : ℕ) (before after : List StockMove) : List ℚ≥0 :=
  (((before.zip after).filter fun pair => pair.1.isOf lineId && pair.1.productId = product).flatMap
    fun pair => pair.2.moveLineIds).map StockMoveLine.quantityProductUom

/-- What the moves of an external line have reserved of a product. -/
def reservedQty (lineId : String) (product : ℕ) (moves : List StockMove) : ℚ≥0 :=
  (heldQuantities lineId product moves moves).sum

/-- A condition on each component of each line of a fulfillment: on the external line, the product
of its sale line, the shipped units and the component. -/
def ForEachComponent (kits : Kits) (lines : List ShippedLine) (moves : List StockMove)
    (condition : String → ℕ → ℕ → ℕ → Prop) : Prop :=
  ∀ line ∈ lines, ∀ product, saleProduct moves line.externalStrId = some product →
    ∀ component ∈ (exploded kits product line.quantity).map Prod.fst,
      condition line.externalStrId product line.quantity component

/-- The move lines of each component of a shipped line hold together what was shipped or all that
was reserved, lines after those that hold all that was shipped hold nothing, and so do moves of no
shipped line. -/
def FillsWhatWasShipped (kits : Kits) (lines : List ShippedLine) (before after : List StockMove) :
    Prop :=
  ForEachComponent kits lines before (fun lineId product units component =>
    let shipped := explodedQty kits product units component
    let done := heldQuantities lineId component before after
    done.sum = min shipped (reservedQty lineId component before) ∧
      ∀ first left rest, done = first ++ left :: rest → shipped ≤ first.sum → left = 0) ∧
  List.Forall₂ (fun old new => (∀ line ∈ lines, old.isOf line.externalStrId = false) → new.Empty)
    before after

/-- The moves of shipped lines are measured in the units of their products. -/
def InProductUnits (lines : List ShippedLine) (moves : List StockMove) : Prop :=
  ∀ line ∈ lines, ∀ move ∈ moves, move.isOf line.externalStrId = true →
    ∀ moveLine ∈ move.moveLineIds, ∀ quantity, moveLine.toProductUom quantity = quantity

/-- No external line occurs twice. -/
def ShippedOnce (lines : List ShippedLine) : Prop :=
  (lines.map ShippedLine.externalStrId).Nodup

/-- The kept quantity of each component is as good as the exploded one. -/
def KeepsQuantities (kits : Kits) (lines : List ShippedLine) (moves : List StockMove) : Prop :=
  ForEachComponent kits lines moves fun lineId product units component =>
    min (qtyDict kits product units component) (reservedQty lineId component moves) =
      min (explodedQty kits product units component) (reservedQty lineId component moves)

/-- The kept quantity of each component lasts to the last move line that has something reserved. -/
def LastsToTheEnd (kits : Kits) (lines : List ShippedLine) (moves : List StockMove) : Prop :=
  ForEachComponent kits lines moves fun lineId product units component =>
    Fits (qtyDict kits product units component) (heldQuantities lineId component moves moves)

section

variable {kits : Kits} {lines : List ShippedLine} {before after : List StockMove}
  {lineId : String}

/-- A move of which at most the quantities have changed. -/
structure SameMove (old new : StockMove) : Prop where
  state : new.state = old.state
  integrationExternalId : new.integrationExternalId = old.integrationExternalId
  productId : new.productId = old.productId
  saleProductId : new.saleProductId = old.saleProductId

theorem SameMove.isOpen {old new : StockMove} (same : SameMove old new) (lineId : String) :
    new.isOpen lineId = old.isOpen lineId := by
  rw [StockMove.isOpen, StockMove.isOpen, same.state, same.integrationExternalId]

theorem StockMove.skip_empty (move : StockMove) : move.skip.Empty := by
  intro moveLine mem
  obtain ⟨_, _, rfl⟩ := List.mem_map.1 mem
  rfl

theorem StockMove.Empty.hasEnoughQty {move : StockMove} (empty : move.Empty) :
    move.hasEnoughQty = true := by
  have zero : move.quantity = 0 := by
    refine List.sum_eq_zero fun quantity mem => ?_
    obtain ⟨moveLine, found, rfl⟩ := List.mem_map.1 mem
    rw [empty moveLine found, map_zero]
  rw [StockMove.hasEnoughQty, zero, decide_eq_true_iff]
  exact move.floatRound.monotone zero_le

/-- A move before its external line is handled: it is as before, or it is not of the line, or it
has been emptied. -/
structure Ready (lineId : String) (old new : StockMove) : Prop where
  sameMove : SameMove old new
  same : old.isOf lineId = true → new = old
  empty : old.isOf lineId = false → new.isOpen lineId = true → new.Empty

theorem Ready.isOf {old new : StockMove} (ready : Ready lineId old new) :
    new.isOf lineId = old.isOpen lineId := by
  cases known : old.isOf lineId with
  | true =>
      rw [ready.same known, known]
      exact (Bool.and_eq_true_iff.1 known).1.symm
  | false =>
      rw [← ready.sameMove.isOpen, StockMove.isOf]
      cases isOpen : new.isOpen lineId with
      | true => rw [(ready.empty known isOpen).hasEnoughQty, Bool.and_self]
      | false => rw [Bool.false_and]

theorem fillLines_snd (quantity : ℚ≥0) (lines : List StockMoveLine) :
    (fillLines quantity lines).2 =
      (fill quantity (lines.map StockMoveLine.quantityProductUom)).2 := by
  induction lines generalizing quantity with
  | nil => rfl
  | cons line lines induction =>
      rw [fillLines, List.map_cons, fill]
      dsimp only
      split_ifs
      all_goals exact induction _

/-- In the units of the product the lines of a move are filled. -/
theorem fillLines_fst (quantity : ℚ≥0) {lines : List StockMoveLine}
    (units : ∀ line ∈ lines, ∀ quantity, line.toProductUom quantity = quantity) :
    (fillLines quantity lines).1.map StockMoveLine.quantityProductUom =
      (fill quantity (lines.map StockMoveLine.quantityProductUom)).1 := by
  induction lines generalizing quantity with
  | nil => rfl
  | cons line lines induction =>
      have written (value : ℚ≥0) : (line.setQuantity value).quantityProductUom = value :=
        units line List.mem_cons_self value
      have rest (quantity : ℚ≥0) := induction quantity fun line mem =>
        units line (List.mem_cons_of_mem _ mem)
      rw [fillLines, List.map_cons, fill]
      dsimp only
      split_ifs
      all_goals simp only [List.map_cons, written, rest]

theorem fillLines_empty (quantity : ℚ≥0) {lines : List StockMoveLine}
    (empty : ∀ line ∈ lines, line.quantity = 0) :
    (fillLines quantity lines).2 = quantity ∧
      ∀ line ∈ (fillLines quantity lines).1, line.quantity = 0 := by
  induction lines with
  | nil => exact ⟨rfl, empty⟩
  | cons line lines induction =>
      obtain ⟨left, zeros⟩ := induction fun line mem => empty line (List.mem_cons_of_mem _ mem)
      have zero : line.quantityProductUom = 0 := by
        rw [StockMoveLine.quantityProductUom, empty line List.mem_cons_self, map_zero]
      rw [fillLines]
      dsimp only
      rw [zero, tsub_zero, if_pos zero_le]
      split_ifs
      · exact ⟨left, List.forall_mem_cons.2 ⟨empty line List.mem_cons_self, zeros⟩⟩
      · exact ⟨left, List.forall_mem_cons.2 ⟨rfl, zeros⟩⟩

/-- What filling a move keeps, filling the moves of an external line keeps. -/
theorem forall₂_fillMoves {rel : StockMove → StockMove → Prop} {dict : ℕ → ℚ≥0}
    (keeps : ∀ old new, rel old new → new.isOf lineId = true → ∀ quantity,
      rel old { new with moveLineIds := (fillLines quantity new.moveLineIds).1 })
    (related : List.Forall₂ rel before after) :
    List.Forall₂ rel before (fillMoves lineId dict after) := by
  induction related generalizing dict with
  | nil => exact .nil
  | @cons old new _ _ head _ induction =>
      rw [fillMoves]
      cases known : new.isOf lineId with
      | true => exact .cons (keeps old new head known _) induction
      | false => exact .cons head induction

theorem forall₂_handleLine {rel : StockMove → StockMove → Prop} {line : ShippedLine}
    (keeps : ∀ old new, rel old new → new.isOf line.externalStrId = true → ∀ quantity,
      rel old { new with moveLineIds := (fillLines quantity new.moveLineIds).1 })
    (related : List.Forall₂ rel before after) :
    List.Forall₂ rel before (handleLine kits after line) := by
  rw [handleLine]
  split
  · exact forall₂_fillMoves keeps related
  · exact related

theorem forall₂_handleLines {rel : StockMove → StockMove → Prop} (handled : List ShippedLine)
    (keeps : ∀ line ∈ handled, ∀ old new, rel old new → new.isOf line.externalStrId = true →
      ∀ quantity, rel old { new with moveLineIds := (fillLines quantity new.moveLineIds).1 })
    (related : List.Forall₂ rel before after) :
    List.Forall₂ rel before (handled.foldl (handleLine kits) after) := by
  induction handled generalizing after with
  | nil => exact related
  | cons line handled induction =>
      refine induction (fun line mem => keeps line (List.mem_cons_of_mem _ mem)) ?_
      exact forall₂_handleLine (keeps line List.mem_cons_self) related

theorem isOpen_of_isOf {move : StockMove} (known : move.isOf lineId = true) :
    move.isOpen lineId = true := (Bool.and_eq_true_iff.1 known).1

/-- A move is open for one external line at most. -/
theorem eq_of_isOpen {other : String} {move : StockMove} (known : move.isOpen other = true)
    (isOpen : move.isOpen lineId = true) : other = lineId := by
  have first := of_decide_eq_true (Bool.and_eq_true_iff.1 known).2
  have second := of_decide_eq_true (Bool.and_eq_true_iff.1 isOpen).2
  exact first.symm.trans second

/-- The moves that skipping leaves are ready for each line. -/
theorem ready_skipRest {line : ShippedLine} (mem : line ∈ lines) (moves : List StockMove) :
    List.Forall₂ (Ready line.externalStrId) moves (skipRest lines moves) := by
  rw [skipRest, List.forall₂_map_right_iff, List.forall₂_same]
  intro move _
  split_ifs with belongs
  · refine ⟨⟨rfl, rfl, rfl, rfl⟩, fun _ => rfl, fun stray isOpen => ?_⟩
    obtain ⟨other, _, known⟩ := List.any_eq_true.1 belongs
    rw [eq_of_isOpen (isOpen_of_isOf known) isOpen, stray] at known
    contradiction
  · refine ⟨⟨rfl, rfl, rfl, rfl⟩, fun known => ?_, fun _ _ => move.skip_empty⟩
    exact absurd (List.any_eq_true.2 ⟨line, mem, known⟩) belongs

/-- Handling another external line leaves the moves ready. -/
theorem Ready.handleOther {old new : StockMove} (ready : Ready lineId old new) {other : String}
    (differ : other ≠ lineId) (known : new.isOf other = true) (moveLines : List StockMoveLine) :
    Ready lineId old { new with moveLineIds := moveLines } where
  sameMove := ⟨ready.sameMove.1, ready.sameMove.2, ready.sameMove.3, ready.sameMove.4⟩
  same isOf := by
    have isOpen := isOpen_of_isOf isOf
    rw [← ready.sameMove.isOpen] at isOpen
    exact absurd (eq_of_isOpen (isOpen_of_isOf known) isOpen) differ
  empty _ isOpen := absurd (eq_of_isOpen (isOpen_of_isOf known) isOpen) differ

/-- The first ready move of an external line is one of its sale line. -/
theorem find?_ready (ready : List.Forall₂ (Ready lineId) before after) :
    (after.find? fun move => move.isOf lineId).map StockMove.saleProductId =
      saleProduct before lineId := by
  induction ready with
  | nil => rfl
  | @cons old new _ _ head _ induction =>
      rw [saleProduct, List.find?_cons, List.find?_cons, head.isOf]
      cases old.isOpen lineId with
      | true => exact congrArg some head.sameMove.saleProductId
      | false => exact induction

theorem heldQuantities_cons (product : ℕ) (old new : StockMove) :
    heldQuantities lineId product (old :: before) (new :: after) =
      (if old.isOf lineId && old.productId = product then
        new.moveLineIds.map StockMoveLine.quantityProductUom else []) ++
      heldQuantities lineId product before after := by
  rw [heldQuantities, List.zip_cons_cons, List.filter_cons]
  split
  · rw [List.flatMap_cons, List.map_append]
    rfl
  · rfl

/-- Ready moves are filled from the quantity of their product. -/
theorem heldQuantities_fillMoves (product : ℕ) (dict : ℕ → ℚ≥0)
    (ready : List.Forall₂ (Ready lineId) before after)
    (units : ∀ move ∈ before, move.isOf lineId = true → ∀ moveLine ∈ move.moveLineIds,
      ∀ quantity, moveLine.toProductUom quantity = quantity) :
    heldQuantities lineId product before (fillMoves lineId dict after) =
      (fill (dict product) (heldQuantities lineId product before before)).1 := by
  induction ready generalizing dict with
  | nil => rfl
  | @cons old new before after head _ induction =>
      have rest (dict : ℕ → ℚ≥0) := @induction dict fun move mem =>
        units move (List.mem_cons_of_mem _ mem)
      rw [fillMoves, head.isOf]
      cases known : old.isOf lineId with
      | true =>
          obtain rfl := head.same known
          rw [isOpen_of_isOf known, if_pos rfl, heldQuantities_cons, heldQuantities_cons, known,
            rest]
          by_cases same : new.productId = product
          · subst same
            rw [decide_eq_true rfl, Bool.and_self, if_pos rfl, if_pos rfl, Function.update_self,
              fill_append, fillLines_fst _ (units new List.mem_cons_self known), fillLines_snd]
          · rw [decide_eq_false same, Bool.and_false, if_neg Bool.false_ne_true,
              if_neg Bool.false_ne_true, Function.update_of_ne (Ne.symm same)]
            rfl
      | false =>
          have nothing (move : StockMove) (moves : List StockMove) :
              heldQuantities lineId product (old :: before) (move :: moves) =
                heldQuantities lineId product before moves := by
            rw [heldQuantities_cons, known, Bool.false_and, if_neg Bool.false_ne_true]
            rfl
          cases isOpen : old.isOpen lineId with
          | false => rw [if_neg Bool.false_ne_true, nothing, nothing, rest]
          | true =>
              rw [← head.sameMove.isOpen] at isOpen
              obtain ⟨left, _⟩ := fillLines_empty (dict new.productId) (head.empty known isOpen)
              rw [if_pos rfl, nothing, nothing, rest, left, Function.update_eq_self]

theorem SameMove.refill {old new : StockMove} (same : SameMove old new)
    (moveLines : List StockMoveLine) : SameMove old { new with moveLineIds := moveLines } :=
  ⟨same.1, same.2, same.3, same.4⟩

/-- Moves of an external line keep what they hold. -/
theorem heldQuantities_congr {final : List StockMove} (product : ℕ)
    (same : List.Forall₂ SameMove before after)
    (kept : List.Forall₂ (fun old new => old.isOpen lineId = true → new = old) after final) :
    heldQuantities lineId product before final = heldQuantities lineId product before after := by
  induction same generalizing final with
  | nil =>
      cases kept
      rfl
  | @cons old new before after head _ induction =>
      cases kept with
      | @cons _ last _ final unchanged kept =>
          rw [heldQuantities_cons, heldQuantities_cons, induction kept]
          cases known : old.isOf lineId with
          | true =>
              have isOpen := isOpen_of_isOf known
              rw [← head.isOpen] at isOpen
              rw [unchanged isOpen]
          | false => rfl

/-- What the moves of a fulfilled line hold in the end. -/
theorem heldQuantities_assign {line : ShippedLine} (mem : line ∈ lines) {product : ℕ}
    (sold : saleProduct before line.externalStrId = some product)
    (units : InProductUnits lines before) (once : ShippedOnce lines) (component : ℕ) :
    heldQuantities line.externalStrId component before (assignQuantities kits lines before) =
      (fill (qtyDict kits product line.quantity component)
        (heldQuantities line.externalStrId component before before)).1 := by
  obtain ⟨first, rest, rfl⟩ := List.append_of_mem mem
  rw [ShippedOnce, List.map_append, List.map_cons, List.nodup_append] at once
  obtain ⟨_, apart, disjoint⟩ := once
  rw [List.nodup_cons] at apart
  -- the lines before leave the moves ready
  have ready : List.Forall₂ (Ready line.externalStrId) before
      (first.foldl (handleLine kits) (skipRest (first ++ line :: rest) before)) := by
    refine forall₂_handleLines first (fun other found old new ready known quantity => ?_)
      (ready_skipRest mem before)
    exact ready.handleOther (disjoint _ (List.mem_map_of_mem found) _ List.mem_cons_self) known _
  have handled : handleLine kits
      (first.foldl (handleLine kits) (skipRest (first ++ line :: rest) before)) line =
      fillMoves line.externalStrId (qtyDict kits product line.quantity)
        (first.foldl (handleLine kits) (skipRest (first ++ line :: rest) before)) := by
    rw [← find?_ready ready, Option.map_eq_some_iff] at sold
    obtain ⟨move, found, rfl⟩ := sold
    rw [handleLine, found]
  have filled := heldQuantities_fillMoves component (qtyDict kits product line.quantity)
    ready (units line mem)
  rw [assignQuantities, List.foldl_append, List.foldl_cons, handled, ← filled]
  -- the lines after leave what the moves hold
  refine heldQuantities_congr component ?_ ?_
  · refine forall₂_fillMoves (fun old new same _ quantity => same.refill _) ?_
    exact ready.imp fun _ _ ready => ready.sameMove
  · refine forall₂_handleLines rest (fun other found old new kept known quantity isOpen => ?_)
      (List.forall₂_same.2 fun _ _ _ => rfl)
    obtain rfl := kept isOpen
    refine absurd (eq_of_isOpen (isOpen_of_isOf known) isOpen) fun same => ?_
    exact apart.1 (same ▸ List.mem_map_of_mem found)

/-- Moves of no shipped line are empty in the end. -/
theorem rest_empty (kits : Kits) (lines : List ShippedLine) (before : List StockMove) :
    List.Forall₂ (fun old new => (∀ line ∈ lines, old.isOf line.externalStrId = false) →
      new.Empty) before (assignQuantities kits lines before) := by
  refine forall₂_handleLines lines (fun line _ old new empty _ quantity stray => ?_) ?_
  · exact (fillLines_empty quantity (empty stray)).2
  · rw [skipRest, List.forall₂_map_right_iff, List.forall₂_same]
    intro move _ stray
    have absent : lines.any (fun line => move.isOf line.externalStrId) = false :=
      List.any_eq_false.2 fun line mem => by simp [stray line mem]
    rw [absent, if_neg Bool.false_ne_true]
    exact move.skip_empty

/-- A sum that is no more than a part of it leaves nothing to the rest. -/
theorem eq_zero_of_sum_le {done first rest : List ℚ≥0} {left shipped reserved : ℚ≥0}
    (sum : done.sum = min shipped reserved) (split : done = first ++ left :: rest)
    (full : shipped ≤ first.sum) : left = 0 := by
  have most : first.sum + (left + rest.sum) ≤ first.sum := by
    rw [← List.sum_cons, ← List.sum_append, ← split, sum]
    exact (min_le_left _ _).trans full
  have none : left + rest.sum = 0 := by simpa using most
  exact (add_eq_zero.1 none).1

/-- The assigned quantities are right exactly when the sums of each component are. -/
theorem fillsWhatWasShipped_iff (units : InProductUnits lines before) (once : ShippedOnce lines) :
    FillsWhatWasShipped kits lines before (assignQuantities kits lines before) ↔
      ForEachComponent kits lines before fun lineId product units component =>
        (fill (qtyDict kits product units component)
            (heldQuantities lineId component before before)).1.sum =
          min (explodedQty kits product units component) (reservedQty lineId component before) := by
  rw [FillsWhatWasShipped, and_iff_left (rest_empty kits lines before)]
  refine forall₂_congr fun line mem => forall₂_congr fun product sold =>
    forall₂_congr fun component _ => ?_
  dsimp only
  rw [heldQuantities_assign mem sold units once]
  exact and_iff_left_of_imp fun sum first left rest => eq_zero_of_sum_le sum

end

/-- A move of two units that are reserved in two lots. -/
def twoLots : List StockMove :=
  [{ state := .assigned
     integrationExternalId := "line"
     productId := 7
     saleProductId := 7
     qtyToDeliver := 2
     productQty := 2
     floatRound := OrderHom.id
     moveLineIds := [⟨1, ZeroHom.id _, ZeroHom.id _⟩, ⟨1, ZeroHom.id _, ZeroHom.id _⟩] }]

end OdooConnector.Order
